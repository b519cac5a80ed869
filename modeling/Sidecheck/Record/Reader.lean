import Sidecheck.Json.Reader
import Sidecheck.Json.Shape
import Sidecheck.Record.Basic
/-!
# Reading records

The JSON that the checkers write. Members that are not listed here are passed over.
-/

namespace Sidecheck

open Json

namespace MessageTree

/-- A message with elaborations. The tree is no higher than `height`. -/
def ofJson? : (height : Nat) → Json → Option MessageTree
  | 0, _ => none
  | height + 1, v => do
    match ← members? ["messageText", "next"] 1 v with
    | [text, below] =>
      return .node (← required? string? text) (← defaulting? [] (list? (ofJson? height)) below)
    | _ => none

end MessageTree

namespace Message

/-- A message: a text, or a tree. Which of the two it is shows only once all of it has been
read, so all of it must be sound, also what is passed over later. -/
def ofJson? (room : Nat) (v : Json) : Option Message :=
  if isKept room v then
    (v.string?.map .plain) <|> ((MessageTree.ofJson? room v).map .tree)
  else none

end Message

namespace CompilerRecord

def ofJson? (v : Json) : Option CompilerRecord := do
  let names := ["fileName", "fileText", "start", "length", "messageText", "category", "code"]
  match ← members? names 0 v with
  | [fileName, fileText, start, length, message, category, code] =>
    return {
      fileName := ← optional? string? fileName
      fileText := ← optional? string? fileText
      start := ← optional? count? start
      length := ← optional? count? length
      message := ← required? (Message.ofJson? (maxDepth - 1)) message
      category := ← required? code? category
      code := ← required? count? code }
  | _ => none

end CompilerRecord

namespace LintMessage

def ofJson? (v : Json) : Option LintMessage := do
  let names := ["ruleId", "severity", "message", "line", "column", "endLine", "endColumn"]
  match ← members? names 0 v with
  | [ruleId, severity, message, line, column, endLine, endColumn] =>
    return {
      ruleId := ← optional? string? ruleId
      severity := ← required? code? severity
      message := ← required? string? message
      line := ← optional? count? line
      column := ← optional? count? column
      endLine := ← optional? count? endLine
      endColumn := ← optional? count? endColumn }
  | _ => none

end LintMessage

namespace LintRecord

def ofJson? (v : Json) : Option LintRecord := do
  match ← members? ["filePath", "messages", "source"] 1 v with
  | [filePath, messages, source] =>
    return {
      filePath := ← required? string? filePath
      messages := ← required? (list? LintMessage.ofJson?) messages
      source := ← optional? string? source }
  | _ => none

end LintRecord

namespace StyleWarning

def ofJson? (v : Json) : Option StyleWarning := do
  let names := ["line", "column", "endLine", "endColumn", "rule", "severity", "text"]
  match ← members? names 0 v with
  | [line, column, endLine, endColumn, rule, severity, text] =>
    return {
      line := ← required? count? line
      column := ← required? count? column
      endLine := ← optional? count? endLine
      endColumn := ← optional? count? endColumn
      rule := ← required? string? rule
      severity := ← required? string? severity
      text := ← required? string? text }
  | _ => none

end StyleWarning

namespace StyleRecord

/-- A style record without the file's text. -/
def ofJson? (v : Json) : Option StyleRecord := do
  match ← members? ["source", "warnings"] 0 v with
  | [source, warnings] =>
    return {
      source := ← optional? string? source
      warnings := ← required? (list? StyleWarning.ofJson?) warnings
      css := none }
  | _ => none

end StyleRecord

namespace ServerPosition

def ofJson? (v : Json) : Option ServerPosition := do
  match ← members? ["line", "character"] 0 v with
  | [line, character] => return ⟨← required? count? line, ← required? count? character⟩
  | _ => none

end ServerPosition

namespace ServerDiagnostic

/-- A range: its first position and the one behind its last. -/
def rangeOfJson? (v : Json) : Option (ServerPosition × ServerPosition) := do
  match ← members? ["start", "end"] 0 v with
  | [first, last] =>
    return (← required? ServerPosition.ofJson? first, ← required? ServerPosition.ofJson? last)
  | _ => none

def ofJson? (v : Json) : Option ServerDiagnostic := do
  match ← members? ["range", "severity", "source", "message"] 0 v with
  | [range, severity, source, message] =>
    let (first, last) ← required? rangeOfJson? range
    return {
      first, last
      severity := ← optional? code? severity
      source := ← optional? string? source
      message := ← required? string? message }
  | _ => none

end ServerDiagnostic

namespace ServerRecord

def ofJson? (v : Json) : Option ServerRecord := do
  match ← members? ["uri", "diagnostics"] 0 v with
  | [uri, diagnostics] =>
    return {
      uri := ← required? string? uri
      diagnostics := ← required? (list? ServerDiagnostic.ofJson?) diagnostics }
  | _ => none

end ServerRecord

namespace Record

/-- One record of a checker. -/
def ofJson? (checker : Checker) (v : Json) : Option Record :=
  match checker with
  | .typeScript => (CompilerRecord.ofJson? v).map .compiler
  | .esLint => (LintRecord.ofJson? v).map .lint
  | .stylelint => (StyleRecord.ofJson? v).map .style
  | .languageServer => (ServerRecord.ofJson? v).map .server

end Record

end Sidecheck
