import Sidecheck.Path
/-!
# Files and directories

The part of the world that tools and checks read: a tree of files, directories and links, and the
directory that relative paths start from. Looking up a path follows its parts one by one, and the
links on the way, and fails as the system would. A walk goes down from a directory and follows no
links.
-/

namespace Sidecheck

/-- Why a path could not be used. -/
inductive Fault
  | notFound
  | permissionDenied
  | notDirectory
  | isDirectory
  /-- The file's bytes are no text. -/
  | notText
  /-- The file is executable, but nothing is known that it could do. -/
  | notProgram
  /-- A name on the way, or the path's text, is longer than the system allows. -/
  | nameTooLong
  /-- An argument is longer than the system allows. -/
  | argumentTooLong
  /-- A NUL character stands in a path. -/
  | nulInPath
  /-- A NUL character stands in what a program is started with. -/
  | nulInCommand
deriving DecidableEq, Repr

/-- The system's words for a fault. -/
def Fault.message : Fault → String
  | .notFound => "No such file or directory (os error 2)"
  | .permissionDenied => "Permission denied (os error 13)"
  | .notDirectory => "Not a directory (os error 20)"
  | .isDirectory => "Is a directory (os error 21)"
  | .notText => "stream did not contain valid UTF-8"
  | .notProgram => "Exec format error (os error 8)"
  | .nameTooLong => "File name too long (os error 36)"
  | .argumentTooLong => "Argument list too long (os error 7)"
  | .nulInPath => "file name contained an unexpected NUL byte"
  | .nulInCommand => "nul byte found in provided data"

/-- The greatest number of bytes of a name. -/
def longestName : Nat := 255

/-- The greatest number of bytes of a path's text. -/
def longestPath : Nat := 4095

/-- A name in a directory. It is bytes, and need not be text. -/
inductive FileName
  | text (text : String)
  | bytes (bytes : List UInt8) (noText : String.fromUTF8? bytes.toByteArray = none)
deriving DecidableEq

instance : Coe String FileName := ⟨.text⟩

/-- A file, a directory or a link. -/
inductive Entry
  | file (bytes : ByteArray) (executable : Bool)
  | directory (entries : List (FileName × Entry))
  /-- A symbolic link, with the names that lead from the root to what it stands for in the end. -/
  | link (target : List String)

namespace Entry

/-- The entry that a list of names leads to. Links are not followed. -/
def at? : Entry → List String → Option Entry
  | e, [] => some e
  | .file .., _ :: _ | .link _, _ :: _ => none
  | .directory entries, name :: rest => (entries.lookup (.text name)).bind (·.at? rest)

/-- The entries with one of them replaced in its place, added at the end, or taken out. -/
def setEntry (entries : List (FileName × Entry)) (name : FileName) : Option Entry →
    List (FileName × Entry)
  | none => entries.filter (·.1 ≠ name)
  | some e =>
    if entries.any (·.1 = name) then
      entries.map fun (key, old) => (key, if key = name then e else old)
    else entries ++ [(name, e)]

/-- Puts an entry at a list of names, making the directories on the way, or takes it out. A
file or a link on the way is an obstacle. -/
def set? : Entry → List String → Option Entry → Option Entry
  | e, [], new => some (new.getD e)
  | .file .., _ :: _, _ | .link _, _ :: _, _ => none
  | .directory entries, [name], new => some (.directory (setEntry entries name new))
  | .directory entries, name :: rest, new => do
    let below ← set? ((entries.lookup (.text name)).getD (.directory [])) rest new
    return .directory (setEntry entries name (some below))

mutual
/-- The files at and below a path, except those in a directory that `skip` names or whose path
is too long. A link is not followed. -/
def files (skip : String → Bool) (path : String) : Entry → List String
  | .file .. => [path]
  | .link _ => []
  | .directory entries =>
    if longestPath < path.utf8ByteSize then [] else filesOfEntries skip path entries
/-- The files at and below the entries of a directory. One whose path is no text is left out. -/
def filesOfEntries (skip : String → Bool) (path : String) : List (FileName × Entry) → List String
  | [] => []
  | (.bytes .., _) :: rest => filesOfEntries skip path rest
  | (.text name, e) :: rest =>
    (if skip name then [] else e.files skip (Path.join path name)) ++
      filesOfEntries skip path rest
end

end Entry

/-- The files and directories, and the directory that relative paths start from. -/
structure Disk where
  root : Entry
  workingDirectory : List String

namespace Disk

/-- A disk without any file. -/
def empty : Disk := ⟨.directory [], []⟩

/-- The names that lead to the file or directory that is meant by a list of names, which may lead
to a link. A link to nothing, or to another link, means none. -/
def behind? (d : Disk) (place : List String) : Option (List String) :=
  match d.root.at? place with
  | none => none
  | some (.link target) =>
    match d.root.at? target with
    | none | some (.link _) => none
    | some _ => some target
  | some _ => some place

/-- Follows the segments of a path from a directory, given by the names that lead to it. -/
def follow (d : Disk) : (place : List String) → List (List Char) → Except Fault (List String)
  | place, [] => .ok place
  | place, segment :: rest =>
    match d.root.at? place with
    | none | some (.link _) => .error .notFound
    | some (.file ..) => .error .notDirectory
    | some (.directory _) =>
      if segment = [] ∨ segment = ['.'] then d.follow place rest
      else if segment = ['.', '.'] then d.follow place.dropLast rest
      else if longestName < (String.ofList segment).utf8ByteSize then .error .nameTooLong
      else
        match d.behind? (place ++ [.ofList segment]) with
        | some next => d.follow next rest
        | none => .error .notFound

/-- A NUL character, which no path may hold. -/
def hasNul (text : String) : Bool := text.toList.contains '\x00'

/-- The names that lead from the root to what a path of any length names. -/
def resolve (d : Disk) (path : String) : Except Fault (List String) :=
  if hasNul path then .error .nulInPath
  else if path.isEmpty then .error .notFound
  else d.follow (if Path.isAbsolute path then [] else d.workingDirectory) (path.toList.splitOn '/')

/-- The names that lead from the root to what a path names. -/
def locate (d : Disk) (path : String) : Except Fault (List String) :=
  if longestPath < path.utf8ByteSize ∧ !hasNul path then .error .nameTooLong else d.resolve path

/-- The text of a path from the root. -/
def pathOfNames (names : List String) : String := "/" ++ "/".intercalate names

/-- The one path without `.` and `..` that names the same. A path of any length has one. -/
def canonical (d : Disk) (path : String) : Except Fault String :=
  (d.resolve path).map pathOfNames

/-- What stands at a path. -/
def entry (d : Disk) (path : String) : Except Fault Entry := do
  match d.root.at? (← d.locate path) with
  | some e => .ok e
  | none => .error .notFound

/-- Something stands at the path. -/
def isThere (d : Disk) (path : String) : Bool := (d.entry path).isOk

/-- A directory stands at the path. -/
def isDirectory (d : Disk) (path : String) : Bool :=
  d.entry path matches .ok (.directory _)

/-- A file stands at the path. -/
def isFile (d : Disk) (path : String) : Bool :=
  d.entry path matches .ok (.file ..)

/-- An executable file stands at the path. -/
def isExecutable (d : Disk) (path : String) : Bool :=
  d.entry path matches .ok (.file _ true)

/-- The text of a file. -/
def readText (d : Disk) (path : String) : Except Fault String := do
  match ← d.entry path with
  | .directory _ => .error .isDirectory
  | .link _ => .error .notFound
  | .file bytes _ =>
    match String.fromUTF8? bytes with
    | some text => .ok text
    | none => .error .notText

/-- The files below a directory in ascending order of their paths, except those in a directory
of the name `skipped`. -/
def filesBelow (d : Disk) (skipped : String) (path : String) : List String :=
  if (Path.fileName? path).getD path = skipped then []
  else match d.entry path with
    | .ok e => (e.files (· = skipped) path).mergeSort (· ≤ ·)
    | .error _ => []

/-- The names that a path would lead to if all its directories were made. A `..` takes back the
name before it. -/
def namesOf (d : Disk) (path : String) : List String :=
  (Path.parts path).foldl (fun names part =>
    match part with
    | .root => []
    | .here => names
    | .up => names.dropLast
    | .name text => names ++ [text]) d.workingDirectory

/-- Puts an entry at a path, making the directories on the way. -/
def put? (d : Disk) (path : String) (e : Entry) : Option Disk :=
  (d.root.set? (d.namesOf path) (some e)).map ({ d with root := · })

/-- Takes out what stands at a path. -/
def remove (d : Disk) (path : String) : Disk :=
  match d.root.set? (d.namesOf path) none with
  | some root => { d with root }
  | none => d

/-- Goes down a path from a directory, making the directories that are missing. It leads nowhere
if a file is in the way, or a link that does not lead to a directory. -/
def makeDirectories (d : Disk) : (place : List String) → List Path.Part →
    Disk × Option (List String)
  | place, [] => (d, some place)
  | _, .root :: rest => d.makeDirectories [] rest
  | place, .here :: rest => d.makeDirectories place rest
  | place, .up :: rest => d.makeDirectories place.dropLast rest
  | place, .name text :: rest =>
    let next := place ++ [text]
    match d.root.at? next with
    | some (.directory _) => d.makeDirectories next rest
    | some (.file ..) => (d, none)
    | some (.link target) =>
      if d.root.at? target matches some (.directory _) then d.makeDirectories target rest
      else (d, none)
    | none =>
      if longestName < text.utf8ByteSize then (d, none) else
      match d.root.set? next (some (.directory [])) with
      | some root => { d with root }.makeDirectories next rest
      | none => (d, none)

/-- The names of the file that is meant by a list of names, which may lead to a link. Nothing needs
to be there. -/
def fileMeant (d : Disk) (place : List String) : List String :=
  match d.root.at? place with
  | some (.link target) => target
  | _ => place

/-- Puts an empty file at a list of names, in a directory that is there and where no directory and
no link has the name. -/
def emptyFile? (d : Disk) (place : List String) : Option Disk := do
  let executable ← match d.root.at? place with
    | some (.file _ executable) => some executable
    | some (.directory _) | some (.link _) => none
    | none => if d.root.at? place.dropLast matches some (.directory _) then some false else none
  let root ← d.root.set? place (some (.file .empty executable))
  return { d with root }

/-- Creates a file without contents, or empties one, making the directories on the way. Also
gives the names that lead to the file, if it could be created. -/
def createFile (d : Disk) (path : String) : Disk × Option (List String) :=
  let segment := (path.toList.splitOn '/').getLast?.getD []
  if hasNul path then (d, none) else
  match d.makeDirectories d.workingDirectory (Path.parts path).dropLast with
  | (d, none) => (d, none)
  | (d, some place) =>
    if segment = [] ∨ segment = ['.'] ∨ segment = ['.', '.'] then (d, none)
    else if longestName < (String.ofList segment).utf8ByteSize ∨ longestPath < path.utf8ByteSize
      then (d, none)
    else
      let file := d.fileMeant (place ++ [.ofList segment])
      match d.emptyFile? file with
      | some d => (d, some file)
      | none => (d, none)

/-- The bytes of the file at a list of names. -/
def bytesAt? (d : Disk) (place : List String) : Option ByteArray :=
  match d.root.at? place with
  | some (.file bytes _) => some bytes
  | _ => none

/-- Adds bytes at the end of the file at a list of names. -/
def append (d : Disk) (place : List String) (bytes : ByteArray) : Disk :=
  match d.root.at? place with
  | some (.file old executable) =>
    match d.root.set? place (some (.file (old ++ bytes) executable)) with
    | some root => { d with root }
    | none => d
  | _ => d

end Disk

end Sidecheck
