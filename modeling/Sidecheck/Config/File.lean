import Sidecheck.Config.Comments
import Sidecheck.Json.Reader
import Sidecheck.Json.Shape
import Sidecheck.Checker
import Sidecheck.Severity
/-!
# The configuration file

What a project says about its checkers, as JSON with comments.
-/

namespace Sidecheck

open Json

/-- One path to watch, or several. -/
inductive WatchPath
  | one (path : String)
  | many (paths : List String)
deriving DecidableEq, Repr

namespace WatchPath

/-- The paths as a list. -/
def toList : WatchPath → List String
  | .one path => [path]
  | .many paths => paths

/-- A path, or a list of paths. -/
def ofJson? (v : Json) : Option WatchPath :=
  (v.string?.map .one) <|> ((list? string? v).map .many)

end WatchPath

/-- What a checker's entry says. -/
structure CheckerOptions where
  /-- The command line, if it is not the checker's default one. -/
  command : Option String := none
  /-- What is watched, if not what the command is about. -/
  watchPath : Option WatchPath := none
  /-- The levels shown while watching. -/
  logLevel : Option (List Severity) := none
  /-- Arguments added to the command while watching. -/
  overrideArgs : Option String := none
deriving DecidableEq, Repr

namespace CheckerOptions

/-- The levels and arguments for watching. -/
def watchingOfJson? (v : Json) : Option (Option (List Severity) × Option String) := do
  match ← members? ["logLevel", "overrideArgs"] 0 v with
  | [logLevel, overrideArgs] =>
    return (← optional? (list? Severity.ofJson?) logLevel, ← optional? string? overrideArgs)
  | _ => none

def ofJson? (v : Json) : Option CheckerOptions := do
  match ← members? ["command", "watchPath", "dev"] 1 v with
  | [command, watchPath, dev] =>
    let command ← optional? string? command
    let watchPath ← optional? WatchPath.ofJson? watchPath
    let (logLevel, overrideArgs) ← defaulting? (none, none) watchingOfJson? dev
    return { command, watchPath, logLevel, overrideArgs }
  | _ => none

end CheckerOptions

/-- A checker's entry: on or off, or options, which turn it on. -/
inductive CheckerEntry
  | enabled (on : Bool)
  | options (o : CheckerOptions)
deriving DecidableEq, Repr

namespace CheckerEntry

/-- The options of a checker that is on. -/
def options? : CheckerEntry → Option CheckerOptions
  | .enabled true => some {}
  | .enabled false => none
  | .options o => some o

/-- An entry. Which of its forms it has shows only once all of it has been read, so all of it
must be sound, also what is passed over later. -/
def ofJson? (room : Nat) (v : Json) : Option CheckerEntry :=
  if isKept room v then
    (v.bool?.map .enabled) <|> ((CheckerOptions.ofJson? v).map .options)
  else none

end CheckerEntry

/-- A project's configuration. -/
structure Config where
  overlay : Option Bool := none
  terminal : Option Bool := none
  enableBuild : Option Bool := none
  typeScript : Option CheckerEntry := none
  esLint : Option CheckerEntry := none
  stylelint : Option CheckerEntry := none
  languageServer : Option CheckerEntry := none
deriving DecidableEq, Repr

namespace Config

/-- The entry of a checker. -/
def entry (c : Config) : Checker → Option CheckerEntry
  | .typeScript => c.typeScript
  | .esLint => c.esLint
  | .stylelint => c.stylelint
  | .languageServer => c.languageServer

def ofJson? (v : Json) : Option Config := do
  let names := ["overlay", "terminal", "enableBuild", "typescript", "eslint", "stylelint", "lsp"]
  match ← members? names 0 v with
  | [overlay, terminal, enableBuild, typeScript, esLint, stylelint, languageServer] =>
    let entry := optional? (CheckerEntry.ofJson? (maxDepth - 1))
    return {
      overlay := ← optional? bool? overlay
      terminal := ← optional? bool? terminal
      enableBuild := ← optional? bool? enableBuild
      typeScript := ← entry typeScript
      esLint := ← entry esLint
      stylelint := ← entry stylelint
      languageServer := ← entry languageServer }
  | _ => none

/-- The configuration that a text writes. -/
def parse? (text : String) : Option Config :=
  (Json.parse? (Comments.remove text.toList)).bind ofJson?

end Config

end Sidecheck
