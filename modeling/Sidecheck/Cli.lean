import Sidecheck.Run
/-!
# The command line

What the program does with its arguments: the options make settings, the settings a run, and the
run an exit code. Problems with the arguments end with code 2, a failed run with code 1.
-/

namespace Sidecheck.Cli

/-- The line that tells the program's version. -/
def version : String := "dev-checker 0.1.0\n"

/-- The text that explains the options. -/
def help : String := "Runs type checkers and linters beside a dev server

Usage: dev-checker [OPTIONS]

Options:
      --root <ROOT>                  Project root [default: .]
      --config <CONFIG>              Path to the config file (default: <root>/dev-checker.json)
      --watch                        Keep checking on file changes instead of checking once
      --no-overlay                   Don't write overlay payloads
      --no-terminal                  Don't print diagnostics to the terminal
      --overlay-file <OVERLAY_FILE>  Where overlay payloads are written (one JSON object per line)
      --ignore <IGNORE>              Glob patterns to ignore
      --fail-on-warnings             Exit with error on warnings
  -v, --verbose                      Log debug output
      --no-color                     Disable colored output
      --typescript                   Enable the TypeScript checker with its default command
      --eslint <CMD>                 Enable ESLint with this command (e.g. \"eslint ./src\")
      --stylelint <CMD>              Enable Stylelint with this command
      --lsp <CMD>                    Enable a language server checker with this command
  -h, --help                         Print help
  -V, --version                      Print version
"

/-- How the program ends. -/
structure Exit where
  code : Nat
  /-- What it has written to standard output. -/
  out : String := ""
  /-- What it has to say about its end, on standard error. -/
  complaint : Option String := none
  /-- The disk behind the run, where that has written to it. -/
  disk : Disk
  invocations : List Invocation := []

/-- What the program has to say about arguments that it cannot use. -/
def complaint : UsageError → String
  | .unknownArgument => "unexpected argument"
  | .missingValue => "a value is required"
  | .givenTwice => "an argument cannot be used multiple times"
  | .unexpectedValue => "unexpected value"
  | .helpWanted | .versionWanted => ""

/-- The end for arguments that make no run. -/
def refuse (m : Machine) : UsageError → Exit
  | .helpWanted => { code := 0, out := help, disk := m.disk }
  | .versionWanted => { code := 0, out := version, disk := m.disk }
  | e => { code := 2, complaint := some (complaint e), disk := m.disk }

/-- The exit code of a run that has failed or not. -/
def codeOf (failed : Bool) : Nat := if failed then 1 else 0

/-- Checks everything once, unless the settings turn builds off. -/
def build (s : Settings) (m : Machine) : Exit :=
  if s.enableBuild then
    let run := BuildRun.ofSettings s m
    { code := codeOf (run.result.outcome.isFailure s.failOnWarnings)
      out := Coordinator.printed run.result.lines
      disk := m.disk
      invocations := run.invocations }
  else { code := 0, disk := m.disk }

/-- The end of a run that watches: interrupted while workers are live, otherwise because all of
them have ended. -/
def leave (r : ServeRun) : Exit where
  code := codeOf (r.live = 0 && !r.failed.isEmpty)
  out := Coordinator.printed r.lines
  disk := r.machine.disk
  invocations := r.invocations

/-- Runs with settings. A run that watches is interrupted after the first checks. -/
def runWith (s : Settings) (m : Machine) : Exit :=
  match s.mode with
  | .build => build s m
  | .serve => leave (.ofSettings s m)

/-- Runs with the arguments behind the program's name. -/
def run (m : Machine) (args : List String) : Exit :=
  match Options.parse args with
  | .error e => refuse m e
  | .ok options =>
    match Settings.resolve m options with
    | .error e => { code := 1, complaint := some e.message, disk := m.disk }
    | .ok settings => runWith settings m

end Sidecheck.Cli
