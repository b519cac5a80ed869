import Sidecheck.Json.Shape
/-!
# Severities

The four levels of a diagnostic, from the least severe to the most severe.
-/

namespace Sidecheck

/-- How bad a diagnostic is. -/
inductive Severity
  | message
  | suggestion
  | warning
  | error
deriving DecidableEq, Repr

namespace Severity

/-- All levels, which is what a report shows unless it is told otherwise. -/
def all : List Severity := [.warning, .error, .suggestion, .message]

/-- The place among the levels, from the least severe to the most severe. -/
def rank : Severity → Nat
  | .message => 0
  | .suggestion => 1
  | .warning => 2
  | .error => 3

/-- The number of the level, the same in a compiler's diagnostics and in the overlay. -/
def code : Severity → Nat
  | .warning => 0
  | .error => 1
  | .suggestion => 2
  | .message => 3

/-- The level that a compiler's category names. -/
def ofCategory? : Nat → Option Severity
  | 0 => some .warning
  | 1 => some .error
  | 2 => some .suggestion
  | 3 => some .message
  | _ => none

/-- The label in a terminal. -/
def label : Severity → String
  | .error => "ERROR"
  | .warning => "WARNING"
  | .suggestion => "SUGGESTION"
  | .message => "MESSAGE"

/-- The name in settings. -/
def name : Severity → String
  | .error => "error"
  | .warning => "warning"
  | .suggestion => "suggestion"
  | .message => "message"

/-- The level of a name. -/
def ofName? (name : String) : Option Severity := all.find? (·.name = name)

/-- The level that a JSON value names. -/
def ofJson? (v : Json) : Option Severity := v.word?.bind ofName?

theorem mem_all (s : Severity) : s ∈ all := by cases s <;> decide

theorem ofCategory?_eq_some_iff {n : Nat} {s : Severity} :
    ofCategory? n = some s ↔ n = s.code := by
  constructor
  · intro h
    unfold ofCategory? at h
    split at h <;> simp_all [code] <;> subst h <;> rfl
  · rintro rfl
    cases s <;> rfl

end Severity

end Sidecheck
