import Sidecheck.Json.Reader
import Sidecheck.Json.Shape
import Sidecheck.Machine
/-!
# Snapshots of a machine

A machine written down as one JSON object: the directory that the program is started in, the
variables, the texts of files, and for each installed tool what it prints and how it ends. Files
and tools are named by absolute paths.
-/

namespace Sidecheck.Snapshot

/-- The members of an object, whatever their names. -/
def entries? {α : Type} (read? : Json → Option α) : Json → Option (List (String × α))
  | .object members => members.mapM fun (name, v) => do return (← name, ← read? v)
  | _ => none

/-- What a tool does. -/
def outcome? (v : Json) : Option Outcome := do
  match ← v.members? ["stdout", "stderr", "code", "signal"] 4 with
  | [stdout, stderr, code, signal] =>
    let printed (text? : Option Json) : Option ByteArray :=
      (Json.defaulting? "" Json.string? text?).map String.toUTF8
    let code ← Json.defaulting? 0 Json.code? code
    let signal? ← Json.optional? Json.code? signal
    return {
      stdout := ← printed stdout
      stderr := ← printed stderr
      status := signal?.elim (.exited code) .killed }
  | _ => none

/-- Adds entries to a disk; one that has a file in its way is left out. -/
def place (disk : Disk) (entries : List (String × Entry)) : Disk :=
  entries.foldl (fun disk (path, e) => (disk.put? path e).getD disk) disk

/-- The machine that a value describes. -/
def machine? (v : Json) : Option Machine := do
  match ← v.members? ["directory", "variables", "files", "tools"] 4 with
  | [directory, environment, files, tools] =>
    let directory ← Json.defaulting? "/" Json.string? directory
    let entries ← Json.defaulting? [] (entries? Json.string?) environment
    let files ← Json.defaulting? [] (entries? Json.string?) files
    let tools ← Json.defaulting? [] (entries? outcome?) tools
    let disk := place .empty [(directory, .directory [])]
    let disk := place disk (files.map fun (path, text) => (path, .file text.toUTF8 false))
    let disk := place disk (tools.map fun (path, _) => (path, .file .empty true))
    let names := disk.namesOf directory
    return { disk := { disk with workingDirectory := names }, environment := { entries }, tools }
  | _ => none

/-- The machine that a text describes. -/
def ofText? (text : String) : Option Machine := (Json.parse? text.toList).bind machine?

end Sidecheck.Snapshot
