import Sidecheck.Check
import Sidecheck.Config.File
import Sidecheck.Options
/-!
# Settings of a run

Options and configuration come together: what an option says wins. A checker runs if an option
names it or its entry turns it on.
-/

namespace Sidecheck

/-- Check once, or keep checking while files change. -/
inductive Mode
  | build
  | serve
deriving DecidableEq, Repr

/-- Why a run has no settings. -/
inductive SettingsError
  | root (path : String) (fault : Fault)
  | unreadable (path : String) (fault : Fault)
  | unparsable (path : String)
  | check (e : CheckError)
  | noCheckers
deriving DecidableEq, Repr

/-- The reason in words. -/
def SettingsError.message : SettingsError → String
  | .root path fault => "project root `" ++ path ++ "` is not accessible: " ++ fault.message
  | .unreadable path fault => "failed to read " ++ path ++ ": " ++ fault.message
  | .unparsable path => "failed to parse " ++ path ++ ": not the expected JSON"
  | .check e => e.message
  | .noCheckers =>
    "no checkers enabled; pass e.g. --eslint or --typescript, or add dev-checker.json"

/-- One checker, ready to run. -/
structure CheckerSettings where
  tool : Tool
  /-- What is watched, as seen from the root. -/
  watchPaths : List String
  /-- The levels shown while watching, all of them if there is no list. -/
  logLevel : Option (List Severity)
deriving DecidableEq, Repr

namespace CheckerSettings

/-- The command line of a checker before it is parsed. Arguments for watching count only if
they are not blank. -/
def commandLine? (checker : Checker) (o : CheckerOptions) (mode : Mode) : Option String :=
  (o.command <|> checker.defaultCommand?).map fun base =>
    match mode, o.overrideArgs with
    | .serve, some extra => if Text.allBlank extra.toList then base else base ++ " " ++ extra
    | _, _ => base

/-- What is watched: what the options say, or what the command is about, or everything. -/
def watchPathsOf (o : CheckerOptions) (command : Command) : List String :=
  match o.watchPath with
  | some paths => paths.toList
  | none => if command.operands.isEmpty then ["."] else command.operands

/-- The settings of a checker with options. -/
def make (environment : Shell.Environment) (mode : Mode) (checker : Checker) (o : CheckerOptions) :
    Except CheckError CheckerSettings :=
  match commandLine? checker o mode with
  | none => .error (.noCommand checker)
  | some line => do
    let tool ← Tool.ofLine environment checker (some line)
    return { tool, watchPaths := watchPathsOf o tool.command, logLevel := o.logLevel }

end CheckerSettings

/-- What an option says about a checker: nothing, or that it runs, perhaps with a command. -/
def Options.command? (o : Options) : Checker → Option (Option String)
  | .typeScript => if o.typeScript then some none else none
  | .esLint => o.esLint.map some
  | .stylelint => o.stylelint.map some
  | .languageServer => o.languageServer.map some

/-- The options of a checker that runs: those of its entry, with the command of the command
line in place of its own. -/
def mergedOptions? (o : Options) (c : Config) (checker : Checker) : Option CheckerOptions :=
  let own := (c.entry checker).bind (·.options?)
  match o.command? checker with
  | none => own
  | some command? =>
    let own := own.getD {}
    some { own with command := command? <|> own.command }

/-- The settings of a run. -/
structure Settings where
  /-- The canonical path of the project. -/
  root : String
  mode : Mode
  overlay : Bool
  terminal : Bool
  enableBuild : Bool
  color : Bool
  failOnWarnings : Bool
  overlayFile : String
  /-- Patterns of files that no checker reacts to. -/
  ignore : List String
  checkers : List CheckerSettings
deriving DecidableEq, Repr

namespace Settings

/-- The name of the configuration file of a project. -/
def configName : String := "dev-checker.json"

/-- Where a project's overlay file is, unless an option says otherwise. -/
def defaultOverlayFile : String := "node_modules/.cache/dev-checker/overlay.jsonl"

/-- The checkers that run, in their order, each with its options. -/
def chosen (o : Options) (c : Config) : List (Checker × CheckerOptions) :=
  Checker.all.filterMap fun checker =>
    (mergedOptions? o c checker).map fun options => (checker, options)

/-- The settings that options and configuration make for a project. -/
def merge (environment : Shell.Environment) (root : String) (o : Options) (c : Config) :
    Except SettingsError Settings :=
  let mode := if o.watch then .serve else .build
  match (chosen o c).mapM fun (checker, options) =>
    CheckerSettings.make environment mode checker options with
  | .error e => .error (.check e)
  | .ok [] => .error .noCheckers
  | .ok checkers => .ok {
      root, mode, checkers
      overlay := !o.noOverlay && c.overlay.getD true
      terminal := !o.noTerminal && c.terminal.getD true
      enableBuild := c.enableBuild.getD true
      color := o.color environment
      failOnWarnings := o.failOnWarnings
      overlayFile := o.overlayFile.getD (Path.join root defaultOverlayFile)
      ignore := o.ignore }

/-- Reads a configuration file. -/
def loadConfig (disk : Disk) (path : String) : Except SettingsError Config :=
  match disk.readText path with
  | .error fault => .error (.unreadable path fault)
  | .ok text =>
    match Config.parse? text with
    | some c => .ok c
    | none => .error (.unparsable path)

/-- The configuration: the file that the options name, or the project's own, or none. -/
def findConfig (disk : Disk) (root : String) (o : Options) : Except SettingsError Config :=
  match o.config with
  | some path => loadConfig disk path
  | none =>
    let path := Path.join root configName
    if disk.isFile path then loadConfig disk path else .ok {}

/-- The settings of a run with options. -/
def resolve (m : Machine) (o : Options) : Except SettingsError Settings := do
  match m.disk.canonical o.root with
  | .error fault => .error (.root o.root fault)
  | .ok root => merge m.environment root o (← findConfig m.disk root o)

end Settings

end Sidecheck
