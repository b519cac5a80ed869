/-!
# Punycode

A label that is not ASCII can be written in ASCII: first its ASCII characters, then, behind a
hyphen, the others in ascending order, as differences in a notation of 36 digits whose weights
adapt to the numbers before (RFC 3492). Numbers have 32 bits.
-/

namespace Sidecheck.HostName.Punycode

/-- The least number that 32 bits do not hold. -/
def bound : Nat := Nat.pow 2 32

/-- A digit's value: letters of either case, then the decimal digits. -/
def digit? (c : Char) : Option Nat :=
  if c.isLower then some (c.toNat - 'a'.toNat)
  else if c.isUpper then some (c.toNat - 'A'.toNat)
  else if c.isDigit then some (c.toNat - '0'.toNat + 26)
  else none

/-- The digit at a position ends its number if it is below this threshold. -/
def threshold (position bias : Nat) : Nat :=
  if position ≤ bias then 1 else if bias + 26 ≤ position then 26 else position - bias

/-- Divides a difference by 35 until it is small, counting positions. -/
def shrink (difference positions : Nat) : Nat × Nat :=
  if 455 < difference then shrink (difference / 35) (positions + 36) else (difference, positions)
termination_by difference
decreasing_by exact Nat.div_lt_self (by omega) (by omega)

/-- The bias behind a difference, with which the label has `count` characters. -/
def adapt (difference count : Nat) (isFirst : Bool) : Nat :=
  let halved := if isFirst then difference / 700 else difference / 2
  let (rest, positions) := shrink (halved + halved / count) 0
  positions + 36 * rest / (rest + 38)

/-- Adds a number to a sum: the digits up to the first one below its threshold. Also gives what
stands behind them. -/
def addNumber? (bias : Nat) : (position weight sum : Nat) → List Char → Option (Nat × List Char)
  | _, _, _, [] => none
  | position, weight, sum, c :: rest =>
    match digit? c with
    | none => none
    | some digit =>
      let sum := sum + digit * weight
      let base := 36 - threshold position bias
      if bound ≤ sum then none
      else if digit < threshold position bias then some (sum, rest)
      else if (bound - 1) / base < weight then none
      else addNumber? bias (position + 36) (weight * base) sum rest

theorem length_of_addNumber? {bias position weight sum : Nat} {cs : List Char}
    {r : Nat × List Char} (h : addNumber? bias position weight sum cs = some r) :
    r.2.length < cs.length := by
  induction cs generalizing position weight sum with
  | nil => simp [addNumber?] at h
  | cons c rest ih =>
    simp only [addNumber?] at h
    split at h
    · simp at h
    · split at h
      · simp at h
      · split at h
        · simp only [Option.some.injEq] at h
          simp [← h]
        · split at h
          · simp at h
          · have := ih h
            simp only [List.length_cons]
            omega

/-- Reads differences and puts in the character that each of them leads to. `code` is the last
character that was put in and `place` the one behind it. -/
def insertAll? (bias code place : Nat) (label cs : List Char) : Option (List Char) :=
  match cs with
  | [] => some label
  | c :: rest =>
    match _ : addNumber? bias 36 1 place (c :: rest) with
    | none => none
    | some (sum, behind) =>
      let count := label.length + 1
      let next := code + sum / count
      if next.isValidChar then
        insertAll? (adapt (sum - place) count (place = 0)) next (sum % count + 1)
          (label.insertIdx (sum % count) (.ofNat next)) behind
      else none
termination_by cs.length
decreasing_by exact length_of_addNumber? ‹_›

/-- The label that an ASCII text writes. A hyphen with nothing before it is no digit either, so
it is refused. -/
def decode? (cs : List Char) : Option (List Char) :=
  let ascii := (cs.reverse.dropWhile (· ≠ '-')).drop 1
  if ascii.isEmpty then insertAll? 72 128 0 [] cs
  else insertAll? 72 128 0 ascii.reverse (cs.drop (ascii.length + 1))

end Sidecheck.HostName.Punycode
