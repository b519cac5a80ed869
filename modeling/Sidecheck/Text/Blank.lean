/-!
# Blank characters

Unicode's `White_Space` property and texts with blanks cut off at their ends. All of it is
recursion on the list of characters, so a proof can follow the text from left to right.
-/

namespace Sidecheck.Text

/-- One of the 25 code points with Unicode's `White_Space` property. -/
def isBlank (c : Char) : Bool :=
  let n := c.toNat
  (9 ≤ n && n ≤ 13) || n == 0x20 || n == 0x85 || n == 0xA0 || n == 0x1680 ||
    (0x2000 ≤ n && n ≤ 0x200A) || n == 0x2028 || n == 0x2029 || n == 0x202F ||
    n == 0x205F || n == 0x3000

/-- The list without the longest tail whose members all satisfy `p`. -/
def dropWhileEnd {α : Type} (p : α → Bool) : List α → List α
  | [] => []
  | a :: rest =>
    match dropWhileEnd p rest with
    | [] => if p a then [] else [a]
    | kept => a :: kept

/-- The text without blanks in front. -/
def trimStart (cs : List Char) : List Char := cs.dropWhile isBlank

/-- The text without blanks at its end. -/
def trimEnd (cs : List Char) : List Char := dropWhileEnd isBlank cs

/-- The text without blanks at either end. -/
def trim (cs : List Char) : List Char := trimEnd (trimStart cs)

/-- A text of blanks only. -/
def allBlank (cs : List Char) : Bool := cs.all isBlank

/-- A string without blanks at either end. -/
def trimmed (s : String) : String := .ofList (trim s.toList)

theorem dropWhileEnd_append_of_neg {α : Type} {p : α → Bool} {xs : List α} {a : α}
    (h : p a = false) : dropWhileEnd p (xs ++ [a]) = xs ++ [a] := by
  induction xs with
  | nil => simp [dropWhileEnd, h]
  | cons x xs ih => cases xs <;> simp_all [dropWhileEnd]

end Sidecheck.Text
