import Sidecheck.Diagnostic
import Sidecheck.Json.Reader
import Sidecheck.Json.Writer
/-!
# Overlay payloads

What the overlay in a browser is told: for one checker, the complete list of its diagnostics,
as one line of JSON.
-/

namespace Sidecheck

/-- Where a diagnostic of the overlay begins. -/
structure OverlayLocation where
  file : String
  line : Nat
  column : Nat
deriving DecidableEq, Repr

/-- A diagnostic as the overlay shows it. -/
structure OverlayDiagnostic where
  message : String
  stack : String
  id : Option String
  /-- The code frame without styles. -/
  frame : Option String
  checkerId : String
  level : Option Nat
  loc : Option OverlayLocation
deriving DecidableEq, Repr

/-- One update of the overlay: the list replaces the one its checker had before. -/
structure Payload where
  event : String
  checkerId : String
  diagnostics : List OverlayDiagnostic
deriving DecidableEq, Repr

namespace OverlayLocation

def toJson (l : OverlayLocation) : Json :=
  .record [("file", .string l.file), ("line", .natural l.line), ("column", .natural l.column)]

def ofJson? (v : Json) : Option OverlayLocation := do
  match ← v.members? ["file", "line", "column"] 0 with
  | [file, line, column] =>
    return {
      file := ← Json.required? Json.string? file
      line := ← Json.required? Json.count? line
      column := ← Json.required? Json.count? column }
  | _ => none

end OverlayLocation

namespace OverlayDiagnostic

/-- A diagnostic as the overlay shows it. -/
def ofDiagnostic (d : Diagnostic) : OverlayDiagnostic where
  message := d.message
  stack := d.stack.getD ""
  id := d.file
  frame := d.plainFrame
  checkerId := d.checker.name
  level := d.severity.map Severity.code
  loc := d.location.map fun l => ⟨d.file.getD "", l.startLine, l.startColumn⟩

def toJson (d : OverlayDiagnostic) : Json :=
  .record [
    ("message", .string d.message),
    ("stack", .string d.stack),
    ("id", d.id.elim .null .string),
    ("frame", d.frame.elim .null .string),
    ("checkerId", .string d.checkerId),
    ("level", d.level.elim .null .natural),
    ("loc", d.loc.elim .null OverlayLocation.toJson)]

def ofJson? (v : Json) : Option OverlayDiagnostic := do
  match ← v.members? ["message", "stack", "id", "frame", "checkerId", "level", "loc"] 0 with
  | [message, stack, id, frame, checkerId, level, loc] =>
    return {
      message := ← Json.required? Json.string? message
      stack := ← Json.required? Json.string? stack
      id := ← Json.optional? Json.string? id
      frame := ← Json.optional? Json.string? frame
      checkerId := ← Json.required? Json.string? checkerId
      level := ← Json.optional? Json.code? level
      loc := ← Json.optional? OverlayLocation.ofJson? loc }
  | _ => none

end OverlayDiagnostic

namespace Payload

/-- The name of the event that tells about diagnostics. -/
def errorEvent : String := "dev-checker:error"

/-- The payload of a checker's complete list. -/
def ofDiagnostics (checker : Checker) (ds : List Diagnostic) : Payload where
  event := errorEvent
  checkerId := checker.id
  diagnostics := ds.map .ofDiagnostic

def toJson (p : Payload) : Json :=
  .record [
    ("event", .string p.event),
    ("data", .record [
      ("checkerId", .string p.checkerId),
      ("diagnostics", .array (p.diagnostics.map OverlayDiagnostic.toJson))])]

/-- The list and the checker it belongs to. -/
def dataOfJson? (v : Json) : Option (String × List OverlayDiagnostic) := do
  match ← v.members? ["checkerId", "diagnostics"] 0 with
  | [checkerId, diagnostics] =>
    return (← Json.required? Json.string? checkerId,
      ← Json.required? (Json.list? OverlayDiagnostic.ofJson?) diagnostics)
  | _ => none

def ofJson? (v : Json) : Option Payload := do
  match ← v.members? ["event", "data"] 0 with
  | [event, data] =>
    let event ← Json.required? Json.string? event
    let (checkerId, diagnostics) ← Json.required? dataOfJson? data
    return ⟨event, checkerId, diagnostics⟩
  | _ => none

/-- The payload as one line of JSON. -/
def line (p : Payload) : String := .ofList p.toJson.write

/-- The payload that a line of JSON writes. -/
def ofLine? (line : String) : Option Payload :=
  (Json.parse? line.toList).bind ofJson?

end Payload

end Sidecheck
