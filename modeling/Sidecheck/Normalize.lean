import Sidecheck.Diagnostic
import Sidecheck.Disk
import Sidecheck.FileUri
import Sidecheck.LineIndex
import Sidecheck.Record.Basic
/-!
# From records to diagnostics

Each checker counts, names and grades in its own way; a diagnostic does so in one way. A record
that cannot be understood is refused as a whole, and in a batch it is left out.
-/

namespace Sidecheck

/-- Why a record is refused. -/
inductive RecordError
  /-- The file that a code frame needs cannot be read. -/
  | unreadable (path : String)
  | notFileUri (uri : String)
  | unknownCategory (category : Nat)
deriving DecidableEq, Repr

namespace RecordError

/-- The reason in words. -/
def message : RecordError → String
  | .unreadable path => s!"could not normalize: file unreadable: {path}"
  | .notFileUri uri => "could not normalize: `" ++ uri ++ "` is not a file uri"
  | .unknownCategory category => s!"could not normalize: unknown compiler category {category}"

end RecordError

/-- A message with the rule behind it, in parentheses. -/
def withRule (message rule : String) : String := message ++ " (" ++ rule ++ ")"

namespace CompilerRecord

/-- The range in the file's text, if text and range are known and the range begins in it. -/
def location? (r : CompilerRecord) : Option (String × Location) := do
  let start ← r.start
  let length ← r.length
  let text ← r.fileText
  let l ← (LineIndex.ofText text.toList).location? start length
  return (text, l)

theorem location?_eq_some_iff {r : CompilerRecord} {text : String} {l : Location} :
    r.location? = some (text, l) ↔ ∃ start length, r.start = some start ∧ r.length = some length ∧
      r.fileText = some text ∧ (LineIndex.ofText text.toList).location? start length = some l := by
  simp only [location?, Option.bind_eq_bind, Option.bind_eq_some_iff, Option.pure_def,
    Option.some.injEq, Prod.mk.injEq]
  constructor
  · rintro ⟨start, hstart, length, hlength, _, htext, _, hl, rfl, rfl⟩
    exact ⟨start, length, hstart, hlength, htext, hl⟩
  · rintro ⟨start, length, hstart, hlength, htext, hl⟩
    exact ⟨start, hstart, length, hlength, text, htext, l, hl, rfl, rfl⟩

/-- The one diagnostic of a compiler's record. -/
def normalize (r : CompilerRecord) : Except RecordError Diagnostic :=
  match Severity.ofCategory? r.category with
  | none => .error (.unknownCategory r.category)
  | some severity =>
    let d : Diagnostic := {
      checker := .typeScript
      message := r.message.flatten
      file := r.fileName
      severity := some severity }
    .ok (match r.location? with
      | some (text, l) => d.locate text l
      | none => d)

end CompilerRecord

namespace LintMessage

/-- The level of a message; a rule that is off has none. -/
def severity? (m : LintMessage) : Option Severity :=
  match m.severity with
  | 1 => some .warning
  | 2 => some .error
  | _ => none

/-- The range of a message that has a line; what else is missing is zero. -/
def location? (m : LintMessage) : Option Location :=
  m.line.map fun line => ⟨line, m.column.getD 0, m.endLine.getD 0, m.endColumn.getD 0⟩

/-- The diagnostic of a message, unless its rule is off. -/
def diagnostic? (m : LintMessage) (file source : String) : Option Diagnostic :=
  m.severity?.map fun severity =>
    let d : Diagnostic := {
      checker := .esLint
      message := m.ruleId.elim m.message (withRule m.message)
      file := some file
      severity := some severity }
    m.location?.elim d (d.locate source)

end LintMessage

/-- The diagnostics of a linter's record. -/
def LintRecord.normalize (r : LintRecord) : List Diagnostic :=
  r.messages.filterMap (·.diagnostic? r.filePath (r.source.getD ""))

namespace StyleWarning

/-- The level of a warning; other words mean none. -/
def severity? (w : StyleWarning) : Option Severity :=
  if w.severity = "warning" then some .warning
  else if w.severity = "error" then some .error
  else none

/-- The diagnostic of a warning of known level. -/
def diagnostic? (w : StyleWarning) (file : Option String) (css : String) : Option Diagnostic :=
  w.severity?.map fun severity =>
    ({ checker := .stylelint
       message := withRule w.text w.rule
       file
       severity := some severity } : Diagnostic).locate css
      ⟨w.line, w.column, w.endLine.getD 0, w.endColumn.getD 0⟩

end StyleWarning

/-- The diagnostics of a style linter's record. -/
def StyleRecord.normalize (r : StyleRecord) : List Diagnostic :=
  r.warnings.filterMap (·.diagnostic? r.source (r.css.getD ""))

namespace ServerDiagnostic

/-- The level of a diagnostic; without a known one it is an error. -/
def level (d : ServerDiagnostic) : Severity :=
  match d.severity with
  | some 2 => .warning
  | some 3 => .message
  | some 4 => .suggestion
  | _ => .error

/-- The diagnostic in a file with a text. -/
def diagnostic (d : ServerDiagnostic) (file text : String) : Diagnostic :=
  ({ checker := .languageServer
     message := Text.trimmed d.message
     file := some file
     severity := some d.level } : Diagnostic).locate text
    (.ofZeroBased ⟨d.first.line, d.first.character⟩ ⟨d.last.line, d.last.character⟩)

end ServerDiagnostic

/-- The diagnostics of a document, whose text is read for their code frames. -/
def ServerRecord.normalize (disk : Disk) (r : ServerRecord) :
    Except RecordError (List Diagnostic) :=
  match FileUri.path? r.uri with
  | none => .error (.notFileUri r.uri)
  | some path =>
    match disk.readText path with
    | .error _ => .error (.unreadable path)
    | .ok text => .ok (r.diagnostics.map (·.diagnostic path text))

namespace Record

/-- The diagnostics of a record. -/
def normalize (disk : Disk) : Record → Except RecordError (List Diagnostic)
  | .compiler r => r.normalize.map ([·])
  | .lint r => .ok r.normalize
  | .style r => .ok r.normalize
  | .server r => r.normalize disk

/-- The diagnostics of a batch, without the records that are refused. -/
def normalizeAll (disk : Disk) (records : List Record) : List Diagnostic :=
  records.flatMap fun r =>
    match r.normalize disk with
    | .ok diagnostics => diagnostics
    | .error _ => []

end Record

end Sidecheck
