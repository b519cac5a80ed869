import Sidecheck.Command
import Sidecheck.Listing
import Sidecheck.Normalize
import Sidecheck.Record.Reader
import Sidecheck.Text.Utf8
/-!
# Checks

Running a checker's tool and reading what it printed. An exit code that merely says that
something was found is no failure; which codes those are differs from tool to tool.
-/

namespace Sidecheck

/-- Why a check has no result. -/
inductive CheckError
  | notStarted (program reason : String)
  | exited (program : String) (code : Int) (stderr : String)
  | unreadable (checker : Checker) (reason : String)
  | invalidCommand (command reason : String)
  | noCommand (checker : Checker)
deriving DecidableEq, Repr

namespace CheckError

/-- The reason in words. -/
def message : CheckError → String
  | .notStarted program reason => "failed to spawn `" ++ program ++ "`: " ++ reason
  | .exited program code stderr =>
    "`" ++ program ++ s!"` exited with code {code}: " ++ stderr
  | .unreadable checker reason => "failed to parse " ++ checker.name ++ " output: " ++ reason
  | .invalidCommand command reason => "invalid command `" ++ command ++ "`: " ++ reason
  | .noCommand checker => "no command configured for " ++ checker.name

end CheckError

/-- The result of a check: the records, or why there are none. -/
abbrev CheckResult := Except CheckError (List Record)

/-! ## Reading the output -/

namespace Checker

/-- The output is not the JSON that the checker writes. -/
def unreadable (checker : Checker) : CheckError := .unreadable checker "not the expected JSON"

/-- The values of an array, or nothing for a blank text. -/
def readArray {α : Type} (checker : Checker) (read? : Json → Option α) (text : String) :
    Except CheckError (List α) :=
  let cs := Text.trim text.toList
  if cs.isEmpty then .ok []
  else match (Json.parse? cs).bind (Json.list? read?) with
    | some values => .ok values
    | none => .error checker.unreadable

/-- What a language server published, one document on each line that is not blank. -/
def readDocuments (lines : List (List Char)) : Except CheckError (List ServerRecord) :=
  (lines.filter (!Text.allBlank ·)).mapM fun line =>
    match (Json.parse? line).bind ServerRecord.ofJson? with
    | some r => .ok r
    | none => .error languageServer.unreadable

/-- What a language server published: an array, or one document on each line. -/
def readPublished (text : String) : Except CheckError (List ServerRecord) :=
  let cs := Text.trim text.toList
  if cs.head? = some '[' then languageServer.readArray ServerRecord.ofJson? (.ofList cs)
  else readDocuments (Text.outputLines cs)

/-- A style linter's record with the text of its file, as far as it can be read. -/
def fillText (disk : Disk) (r : StyleRecord) : StyleRecord :=
  { r with css := r.source.bind fun source => (disk.readText source).toOption }

/-- The records in what a tool printed. `root` is where it ran and `program` what it is called
in errors. -/
def readOutcome (checker : Checker) (disk : Disk) (root program : String) (o : Outcome) :
    CheckResult := do
  let stdout := Text.decodeLossy o.stdout
  let stderr := Text.decodeLossy o.stderr
  let failed := CheckError.exited program o.status.code (Text.trimmed stderr)
  let isBlank (s : String) := Text.allBlank s.toList
  match checker with
  | .typeScript =>
    let found := Listing.records disk root stdout
    if !o.status.isSuccess ∧ found.isEmpty ∧ !isBlank stderr then .error failed
    else .ok (found.map .compiler)
  | .esLint =>
    if o.status ≠ .exited 0 ∧ o.status ≠ .exited 1 then .error failed
    else return (← checker.readArray LintRecord.ofJson? stdout).map .lint
  | .stylelint =>
    if o.status ≠ .exited 0 ∧ o.status ≠ .exited 2 then .error failed
    else
      let report := if isBlank stdout then stderr else stdout
      return (← checker.readArray StyleRecord.ofJson? report).map (.style ∘ fillText disk)
  | .languageServer =>
    if !o.status.isSuccess ∧ isBlank stdout then .error failed
    else return (← readPublished stdout).map .server

end Checker

/-! ## Runners -/

/-- Something that checks: a whole project, or one file of it. -/
structure Runner where
  checker : Checker
  checkProject : (root : String) → CheckResult
  /-- The records of one file only. -/
  checkFile : (root file : String) → CheckResult

/-- A run of a checker. -/
inductive CheckRun
  | project (root : String)
  | file (root path : String)
deriving DecidableEq, Repr

/-- The result of a run. -/
def Runner.perform (r : Runner) : CheckRun → CheckResult
  | .project root => r.checkProject root
  | .file root path => r.checkFile root path

namespace Record

/-- The record is about the file. A language server names files by URI; other tools are taken
at their word. -/
def isAbout (file : String) : Record → Bool
  | .server r => (FileUri.path? r.uri).any (Path.same · file)
  | r => r.file? = some file

end Record

/-- A checker and the command that runs it. -/
structure Tool where
  checker : Checker
  command : Command
deriving DecidableEq, Repr

namespace Tool

/-- The tool of a command, which is made to write what can be read here. -/
def ofCommand (checker : Checker) (command : Command) : Tool :=
  match checker.outputOption? with
  | some (option, value) => ⟨checker, command.ensureOption option value⟩
  | none => ⟨checker, command⟩

/-- The tool of a command line, or of the checker's default one. -/
def ofLine (environment : Shell.Environment) (checker : Checker) (line? : Option String) :
    Except CheckError Tool :=
  match line? <|> checker.defaultCommand? with
  | none => .error (.noCommand checker)
  | some line =>
    match Command.parse environment line with
    | .ok command => .ok (ofCommand checker command)
    | .error fault => .error (.invalidCommand line fault.message)

/-- How a command is run for a project. -/
def invocation (m : Machine) (root : String) (command : Command) : Invocation :=
  ⟨root, command.resolve m root, command.args⟩

/-- Runs a command and reads what it printed. -/
def run (t : Tool) (m : Machine) (root : String) (command : Command) : CheckResult :=
  let i := invocation m root command
  match m.run i with
  | .error fault => .error (.notStarted i.program fault.message)
  | .ok outcome => t.checker.readOutcome m.disk root command.program outcome

/-- The command that checks one file. The compiler is only ever right about a whole project. -/
def fileCommand (t : Tool) (file : String) : Command :=
  if t.checker = .typeScript then t.command else t.command.forFile file

/-- Checks a project. -/
def checkProject (t : Tool) (m : Machine) (root : String) : CheckResult := t.run m root t.command

/-- Checks one file; what the tool says about others is left out. -/
def checkFile (t : Tool) (m : Machine) (root file : String) : CheckResult :=
  (t.run m root (t.fileCommand file)).map (·.filter (Record.isAbout file))

/-- How the tool is run for a check. -/
def invocationFor (t : Tool) (m : Machine) : CheckRun → Invocation
  | .project root => invocation m root t.command
  | .file root path => invocation m root (t.fileCommand path)

/-- The tool as a runner on a machine. -/
def runner (t : Tool) (m : Machine) : Runner where
  checker := t.checker
  checkProject := t.checkProject m
  checkFile := t.checkFile m

end Tool

end Sidecheck
