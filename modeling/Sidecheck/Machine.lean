import Sidecheck.Disk
import Sidecheck.Shell.Expansion
/-!
# The machine that tools run on

Its disk, its variables, and for each installed tool what it prints and how it ends. Running a
tool finds the executable as the system would and gives its outcome.
-/

namespace Sidecheck

/-- How a process ended. -/
inductive Status
  | exited (code : Nat)
  | killed (signal : Nat)
deriving DecidableEq, Repr

namespace Status

/-- The exit code, and -1 for a process that was killed. -/
def code : Status → Int
  | .exited code => code
  | .killed _ => -1

/-- The process ended well. -/
def isSuccess (s : Status) : Bool := s = .exited 0

end Status

/-- What a tool printed and how it ended. -/
structure Outcome where
  stdout : ByteArray
  stderr : ByteArray
  status : Status

/-- The outcome of a program that does nothing. -/
def Outcome.silent : Outcome := ⟨.empty, .empty, .exited 0⟩

/-- The world that commands run in. -/
structure Machine where
  disk : Disk
  environment : Shell.Environment
  /-- What each tool does, by the canonical path of its executable. -/
  tools : List (String × Outcome)

/-- One run of a program. -/
structure Invocation where
  directory : String
  program : String
  args : List String
deriving DecidableEq, Repr

namespace Machine

/-- The greatest number of bytes of an argument. -/
def longestArgument : Nat := 131071

/-- The directories in which programs are looked for. -/
def searchPath (m : Machine) : List String :=
  match m.environment.lookup "PATH" with
  | some path => (path.toList.splitOn ':').map .ofList
  | none => []

/-- A directory whose first part is a `~` counts from the home directory. -/
def fromHome (m : Machine) (directory : String) : String :=
  match m.environment.home?, Path.parts directory with
  | some home, .name "~" :: rest => rest.foldl (fun path part => Path.join path part.text) home
  | _, _ => directory

/-- The first executable file of a name: relative to the working directory if the name has
several parts, otherwise in the search path. -/
def which? (m : Machine) (program : String) : Option String :=
  let candidates := if 1 < (Path.parts program).length
    then [Path.join (Disk.pathOfNames m.disk.workingDirectory) program]
    else m.searchPath.map fun directory => Path.join (m.fromHome directory) program
  candidates.find? m.disk.isExecutable

/-- The executable file at a path, by its canonical path. -/
def executable (m : Machine) (path : String) : Except Fault String := do
  match ← m.disk.entry path with
  | .directory _ | .file _ false => .error .permissionDenied
  | .link _ => .error .notFound
  | .file _ true => m.disk.canonical path

/-- The first candidate that is an executable file. If none is, one that is there but must not
be run is reported before all others, and otherwise the fault of the last one. -/
def firstExecutable (m : Machine) (fault : Fault) : List String → Except Fault String
  | [] => .error fault
  | path :: rest =>
    let goOn (next : Fault) :=
      m.firstExecutable (if fault = .permissionDenied then fault else next) rest
    match m.executable path with
    | .error .permissionDenied => goOn .permissionDenied
    | .error .notFound => goOn .notFound
    | .error .notDirectory => goOn .notDirectory
    | result => result

/-- The file that a run executes. A program without a slash is looked for in the search path. -/
def programFile (m : Machine) (i : Invocation) : Except Fault String := do
  let place ← m.disk.locate i.directory
  match m.disk.root.at? place with
  | some (.directory _) =>
    let here : Machine := { m with disk := { m.disk with workingDirectory := place } }
    if i.program.isEmpty then .error .notFound
    else if i.program.toList.contains '/' then here.executable i.program
    else here.firstExecutable .notFound (m.searchPath.map (Path.join · i.program))
  | _ => .error .notDirectory

/-- The text is a script for the shell that holds blank lines and comments, but no command. -/
def isIdleScript (text : String) : Bool :=
  match text.toList.splitOn '\n' with
  | first :: rest =>
    first = "#!/bin/sh".toList && rest.all fun line =>
      (line.dropWhile fun c => c = ' ' || c = '\t').head?.all (· = '#')
  | [] => false

/-- What the program in a file does: a tool, or a script that does nothing. -/
def outcome? (m : Machine) (file : String) : Option Outcome :=
  m.tools.lookup file <|>
    if (m.disk.readText file).toOption.any isIdleScript then some .silent else none

/-- The program that a run starts, by the canonical path of its executable. -/
def start (m : Machine) (i : Invocation) : Except Fault String := do
  if (i.directory :: i.program :: i.args).any Disk.hasNul then .error .nulInCommand
  else
    let file ← m.programFile i
    if i.args.any fun arg => longestArgument < arg.utf8ByteSize then .error .argumentTooLong
    else if (m.outcome? file).isNone then .error .notProgram
    else .ok file

/-- Runs a program. -/
def run (m : Machine) (i : Invocation) : Except Fault Outcome := do
  match m.outcome? (← m.start i) with
  | some outcome => .ok outcome
  | none => .error .notProgram

end Machine

end Sidecheck
