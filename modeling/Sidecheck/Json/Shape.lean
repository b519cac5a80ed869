import Sidecheck.Json.Basic
/-!
# The shape of a JSON value

Readers for the values a record is made of. A record is an object with known names, of which
none may be given twice and others are passed over, or an array of its members in their order.
-/

namespace Sidecheck.Json

/-- How many arrays and objects may stand inside one another. -/
def maxDepth : Nat := 127

/-- A string's text. -/
def string? : Json → Option String
  | .text t => t
  | _ => none

/-- A truth value. -/
def bool? : Json → Option Bool
  | .bool b => some b
  | _ => none

/-- A natural number below `bound`. -/
def natBelow? (bound : Nat) : Json → Option Nat
  | .number (.natural n) => if n < bound then some n else none
  | _ => none

/-- A count of 32 bits. -/
def count? : Json → Option Nat := natBelow? (Nat.pow 2 32)

/-- A small code, of 8 bits. -/
def code? : Json → Option Nat := natBelow? (Nat.pow 2 8)

/-- An array of values of one kind. -/
def list? {α : Type} (read? : Json → Option α) : Json → Option (List α)
  | .array items => items.mapM read?
  | _ => none

/-- The value of a member by its name. -/
def valueOf? (members : List (Text × Json)) (name : String) : Option Json :=
  (members.find? fun (key, _) => key = some name).map (·.2)

/-- How often a name is given. -/
def timesGiven (members : List (Text × Json)) (name : String) : Nat :=
  members.countP fun (key, _) => key = some name

/-- The members of a record in the order of `names`, each present or not. The last
`omissible` of them may be missing from an array. -/
def members? (names : List String) (omissible : Nat) : Json → Option (List (Option Json))
  | .object members =>
    if members.all (·.1.isSome) ∧ ∀ name ∈ names, timesGiven members name ≤ 1 then
      some (names.map (valueOf? members))
    else none
  | .array items =>
    if items.length ≤ names.length ∧ names.length ≤ items.length + omissible then
      some (items.map some ++ List.replicate (names.length - items.length) none)
    else none
  | _ => none

/-- A member that must be present. -/
def required? {α : Type} (read? : Json → Option α) : Option Json → Option α
  | some v => read? v
  | none => none

/-- A member that may be missing or null. -/
def optional? {α : Type} (read? : Json → Option α) : Option Json → Option (Option α)
  | none | some .null => some none
  | some v => (read? v).map some

/-- A member that may be missing and then has a value of its own; null is no value. -/
def defaulting? {α : Type} (default : α) (read? : Json → Option α) : Option Json → Option α
  | none => some default
  | some v => read? v

/-- One of a few words: the word as a string, or as the name of a null in an object. -/
def word? : Json → Option String
  | .text t => t
  | .object [(name, .null)] => name
  | _ => none

/-- The value as a whole is text that can be kept before its kind is known: sound, and with at
most `room` arrays and objects inside one another. -/
def isKept (room : Nat) (v : Json) : Bool := v.depth ≤ room && v.isSound

end Sidecheck.Json
