import Sidecheck.Disk
/-!
# File events

The system notifies of changes in many ways; a checker only wants to know whether a file is
there with perhaps new contents, or is gone.
-/

namespace Sidecheck

/-- A file event. -/
inductive FileEvent
  /-- The file was made, or its contents may have changed. -/
  | change (path : String)
  /-- The file was removed or renamed away. -/
  | unlink (path : String)
deriving DecidableEq, Repr

namespace FileEvent

/-- The file's path. -/
def path : FileEvent → String
  | .change path | .unlink path => path

/-- The events are of the same kind and for the same path, however it is written. -/
def same : FileEvent → FileEvent → Bool
  | .change a, .change b | .unlink a, .unlink b => Path.same a b
  | _, _ => false

end FileEvent

/-- What a notification says has happened to its paths. -/
inductive NoticeKind
  | created
  | removed
  | modified
  /-- Renamed; the paths are the old names. -/
  | renamedFrom
  /-- Renamed; the paths are the new names. -/
  | renamedTo
  /-- Renamed; the first path is the old name, others are new ones. -/
  | renamedBoth
  /-- Renamed, and nothing says which side the paths are. -/
  | renamed
  /-- Nothing that could change a file's contents. -/
  | unimportant
deriving DecidableEq, Repr

/-- A notification of the system. Its paths are bytes and need not be text. -/
structure Notice where
  kind : NoticeKind
  paths : List ByteArray

namespace Notice

/-- The paths that are text. -/
def textPaths (n : Notice) : List String := n.paths.filterMap String.fromUTF8?

/-- The events that a notification means. A path of an unknown side is gone if nothing is
there. -/
def events (disk : Disk) (n : Notice) : List FileEvent :=
  match n.kind with
  | .created | .modified | .renamedTo => n.textPaths.map .change
  | .removed | .renamedFrom => n.textPaths.map .unlink
  | .renamedBoth =>
    match n.textPaths with
    | [] => []
    | old :: new => .unlink old :: new.map .change
  | .renamed =>
    n.textPaths.map fun path => if disk.isThere path then .change path else .unlink path
  | .unimportant => []

end Notice

end Sidecheck
