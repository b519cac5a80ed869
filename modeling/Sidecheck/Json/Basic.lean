/-!
# JSON values

A JSON text as it was written: members keep their order and may repeat, and a number keeps the
form it was given. A string whose escapes denote no Unicode text is `none`.
-/

namespace Sidecheck

namespace Json

/-- A string's text; `none` if a surrogate escape in it has no partner. -/
abbrev Text := Option String

/-- A number as it is written: its digits without the point, how many of them stand behind it,
and the exponent. -/
structure Digits where
  negative : Bool
  mantissa : Nat
  places : Nat
  exponent : Nat
  exponentNegative : Bool
deriving DecidableEq, Repr

namespace Digits

/-- The power of ten that the digits as a whole number are multiplied by. -/
def shift (d : Digits) : Int :=
  (if d.exponentNegative then -(d.exponent : Int) else d.exponent) - d.places

/-- The least number a double no longer holds: half a step above the greatest one. -/
def firstInfinite : Nat := Nat.pow 2 1024 - Nat.pow 2 970

/-- The double nearest to a number, of two the one with the even significand. -/
def nearestDouble (n : Nat) : Nat :=
  let step := Nat.pow 2 (n.log2 - 52)
  let (below, rest) := (n / step, n % step)
  let isUp := step < 2 * rest ∨ (2 * rest = step ∧ below % 2 = 1)
  (if isUp then below + 1 else below) * step

/-- The decimal digits of a number, as many as there are places at least. -/
def decimals (places n : Nat) : List Nat :=
  let digits := (Nat.toDigits 10 n).map fun c => c.toNat - '0'.toNat
  List.replicate (places - digits.length) 0 ++ digits

/-- The significand with one more digit, if 64 bits hold it. -/
def push? (significand digit : Nat) : Option Nat :=
  let longer := significand * 10 + digit
  if longer < Nat.pow 2 64 then some longer else none

/-- The significand with digits before the point behind it, and how many were left out: the
first one that does not fit and all behind it. -/
def pushWhole (significand : Nat) : List Nat → Nat × Nat
  | [] => (significand, 0)
  | digit :: rest =>
    match push? significand digit with
    | some longer => pushWhole longer rest
    | none => (significand, rest.length + 1)

/-- The significand with digits behind the point behind it, and how many were taken: those
before the first one that does not fit. -/
def pushFraction (significand : Nat) : List Nat → Nat × Nat
  | [] => (significand, 0)
  | digit :: rest =>
    match push? significand digit with
    | some longer =>
      let (s, taken) := pushFraction longer rest
      (s, taken + 1)
    | none => (significand, 0)

/-- The number cut to a significand of 64 bits, and the power of ten it is multiplied by. -/
def cut (d : Digits) : Nat × Int :=
  let scale := Nat.pow 10 d.places
  let (whole, left) := pushWhole 0 (decimals 0 (d.mantissa / scale))
  let fraction := if d.places = 0 then [] else decimals d.places (d.mantissa % scale)
  let (significand, taken) := pushFraction whole fraction
  (significand, (if d.exponentNegative then -(d.exponent : Int) else d.exponent) + left - taken)

/-- The number is finite as the product of two doubles, the nearest to its significand and the
nearest to its power of ten. -/
def isFinite (d : Digits) : Bool :=
  let (significand, exponent) := d.cut
  if significand = 0 ∨ exponent < 0 then true
  else if 308 < exponent then false
  else nearestDouble significand * nearestDouble (Nat.pow 10 exponent.toNat) < firstInfinite

end Digits

/-- A number, with the natural ones apart. -/
inductive Number
  /-- Digits only. -/
  | natural (n : Nat)
  /-- With a sign, a point or an exponent. -/
  | other (d : Digits)
deriving DecidableEq, Repr

end Json

/-- A JSON value. -/
inductive Json
  | null
  | bool (b : Bool)
  | number (n : Json.Number)
  | text (t : Json.Text)
  | array (items : List Json)
  | object (members : List (Json.Text × Json))

namespace Json

/-- A string's value. -/
def string (s : String) : Json := .text (some s)

/-- A count's value. -/
def natural (n : Nat) : Json := .number (.natural n)

/-- Members with proper names. -/
def record (members : List (String × Json)) : Json :=
  .object (members.map fun (name, v) => (some name, v))

mutual
/-- How many arrays and objects stand inside one another at the deepest place. -/
def depth : Json → Nat
  | .array items => depthOfItems items + 1
  | .object members => depthOfMembers members + 1
  | _ => 0
/-- The greatest depth among the items of an array. -/
def depthOfItems : List Json → Nat
  | [] => 0
  | v :: rest => max v.depth (depthOfItems rest)
/-- The greatest depth among the values of an object. -/
def depthOfMembers : List (Text × Json) → Nat
  | [] => 0
  | (_, v) :: rest => max v.depth (depthOfMembers rest)
end

mutual
/-- Every string in the value is Unicode text and every number is finite. -/
def isSound : Json → Bool
  | .number (.natural n) => (Digits.mk false n 0 0 false).isFinite
  | .number (.other d) => d.isFinite
  | .text t => t.isSome
  | .array items => itemsSound items
  | .object members => membersSound members
  | _ => true
/-- Every item of an array is sound. -/
def itemsSound : List Json → Bool
  | [] => true
  | v :: rest => v.isSound && itemsSound rest
/-- Every name and value of an object is sound. -/
def membersSound : List (Text × Json) → Bool
  | [] => true
  | (name, v) :: rest => name.isSome && v.isSound && membersSound rest
end

end Json

end Sidecheck
