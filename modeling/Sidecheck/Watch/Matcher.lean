import Sidecheck.Glob.Matching
import Sidecheck.Glob.Nesting
import Sidecheck.Glob.Parser
import Sidecheck.Watch.Event
/-!
# What a checker watches

Patterns name the files that a checker reacts to, and others that it never reacts to. What is
in `node_modules` never counts, directories always do, so that they can be looked into.
-/

namespace Sidecheck

/-- Why files cannot be watched. -/
inductive WatchError
  | noRoot (root : String)
  /-- A pattern, or the glob that it stands for, is no glob. -/
  | badPattern (pattern glob : String) (fault : Glob.PatternFault)
  /-- One of the patterns nests too deep. -/
  | tooDeep (patterns : List String) (fault : Glob.NestingFault)
deriving DecidableEq, Repr

/-- The reason in words. -/
def WatchError.message : WatchError → String
  | .noRoot root => "path does not exist: " ++ root
  | .badPattern pattern glob fault =>
    "invalid watch pattern `" ++ pattern ++ "`: " ++ fault.message glob
  | .tooDeep patterns fault =>
    "invalid watch pattern `" ++ ", ".intercalate patterns ++ "`: " ++ fault.message

/-- What is watched below a root. -/
structure Matcher where
  root : String
  watched : List Glob
  excluded : List Glob

namespace Matcher

/-- The directory that nothing is watched in. -/
def skipped : String := "node_modules"

/-- The path as seen from a root, with single slashes and without `.`. A path that does not
lead below the root stays whole. -/
def relative (root path : String) : String :=
  let parts := Path.parts path
  let rest := (Path.stripBase? (Path.parts root) parts).getD parts
  "/".intercalate ((rest.filter (· ≠ .here)).map Path.Part.text)

/-- The globs of a pattern as texts. A pattern that names a directory also means everything
below it. -/
def expand (disk : Disk) (root pattern : String) : List String :=
  let path := Path.join root pattern
  let own := relative root path
  let inside := if own.isEmpty then "**/*" else own ++ "/**/*"
  let isDirectory := !own.toList.contains '*' && disk.isDirectory path
  (own :: if isDirectory then [inside] else []).filter (!·.isEmpty)

/-- The globs of a pattern. -/
def globsOf (disk : Disk) (root pattern : String) : Except WatchError (List Glob) :=
  (expand disk root pattern).mapM fun glob =>
    (Glob.parse glob).mapError (.badPattern pattern glob)

/-- The globs of patterns. -/
def globs (disk : Disk) (root : String) (patterns : List String) :
    Except WatchError (List Glob) := do
  let globs := (← patterns.mapM (globsOf disk root)).flatten
  match Glob.nestingFault? globs with
  | some fault => .error (.tooDeep patterns fault)
  | none => .ok globs

/-- What patterns name below a root, except what other patterns name. -/
def make (disk : Disk) (root : String) (patterns excludes : List String) :
    Except WatchError Matcher := do
  let watched ← globs disk root patterns
  let excluded ← globs disk root excludes
  return { root, watched, excluded }

/-- The checker does not react to a path. Whether it is a directory is looked up if it is not
known; a path where nothing is counts as a file. -/
def isIgnored (m : Matcher) (disk : Disk) (path : String) (isDirectory? : Option Bool) : Bool :=
  if (Path.parts path).contains (.name skipped) then true
  else if Path.same path m.root then false
  else
    let own := relative m.root path
    if m.excluded.any (·.isMatch own) then true
    else if m.watched.any (·.isMatch own) then false
    else !isDirectory?.getD (disk.isDirectory path)

/-- The removal of a path matters. What was there can no longer be looked up, so a path without
extension may have been a directory of watched files. -/
def unlinkMatters (m : Matcher) (disk : Disk) (path : String) : Bool :=
  !m.isIgnored disk path (some false) ||
    (!Path.hasExtension path && !m.isIgnored disk path (some true))

/-- The events that matter of an event. A directory that appears brings all its files. -/
def relevant (m : Matcher) (disk : Disk) : FileEvent → List FileEvent
  | .change path =>
    if disk.isDirectory path then
      if m.isIgnored disk path (some true) then []
      else
        ((disk.filesBelow skipped path).filter fun file =>
          !m.isIgnored disk file (some false)).map .change
    else if m.isIgnored disk path (some false) then [] else [.change path]
  | .unlink path => if m.unlinkMatters disk path then [.unlink path] else []

/-- The events that matter of a notification. -/
def ofNotice (m : Matcher) (disk : Disk) (n : Notice) : List FileEvent :=
  (n.events disk).flatMap (m.relevant disk)

end Matcher

end Sidecheck
