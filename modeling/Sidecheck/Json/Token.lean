import Sidecheck.Json.Basic
/-!
# JSON tokens

The tokens of a JSON text, read by a machine that takes one character at a time. Since its
state is all that one part of a text hands on to the next, scanning a text piece by piece gives
the tokens of the pieces, one after the other (`scanFrom?_append`).
-/

namespace Sidecheck.Json

/-- A token of a JSON text. -/
inductive Token
  | openArray
  | closeArray
  | openObject
  | closeObject
  | comma
  | colon
  | null
  | bool (b : Bool)
  | number (n : Number)
  | text (t : Text)
deriving DecidableEq, Repr

namespace Token

/-! ## Numbers -/

/-- How far a number has been read. -/
inductive Stage
  | sign
  | zero
  | whole
  | point
  | fraction
  | mark
  | markSign
  | exponent
deriving DecidableEq, Repr

/-- The number that has been read, if it may end at this stage. -/
def finishNumber? (d : Digits) : Stage → Option Number
  | .zero | .whole => some (if d.negative then .other d else .natural d.mantissa)
  | .fraction | .exponent => some (.other d)
  | _ => none

/-- A decimal digit's value. -/
def digit? (c : Char) : Option Nat :=
  if c.isDigit then some (c.toNat - '0'.toNat) else none

/-- The number with one more character, if that character belongs to it. -/
def pushDigit? (d : Digits) (stage : Stage) (c : Char) : Option (Stage × Digits) :=
  let pushed (n : Nat) : Digits := { d with mantissa := d.mantissa * 10 + n }
  let placed (n : Nat) : Digits := { pushed n with places := d.places + 1 }
  let raised (n : Nat) : Digits := { d with exponent := d.exponent * 10 + n }
  match stage, digit? c with
  | .sign, some 0 => some (.zero, d)
  | .sign, some n | .whole, some n => some (.whole, pushed n)
  | .point, some n | .fraction, some n => some (.fraction, placed n)
  | .mark, some n | .markSign, some n | .exponent, some n => some (.exponent, raised n)
  | .zero, none | .whole, none =>
    if c = '.' then some (.point, d)
    else if c = 'e' ∨ c = 'E' then some (.mark, d)
    else none
  | .fraction, none => if c = 'e' ∨ c = 'E' then some (.mark, d) else none
  | .mark, none =>
    if c = '+' then some (.markSign, d)
    else if c = '-' then some (.markSign, { d with exponentNegative := true })
    else none
  | _, _ => none

/-! ## Strings -/

/-- Where in a string the next character stands. -/
inductive Inside
  | plain
  /-- Behind a backslash. -/
  | escape
  /-- At a digit of a code unit, with `missing` digits behind it. -/
  | unit (missing : Nat) (value : Nat)
deriving DecidableEq, Repr

/-- A string being read: its characters in reverse, `none` once it is no text, and the first
half of a surrogate pair that waits for the second. -/
structure Written where
  reversed : Option (List Char)
  pending : Option Nat
deriving DecidableEq, Repr

namespace Written

/-- The string before its first character. -/
def empty : Written := ⟨some [], none⟩

/-- One more character. -/
def push (w : Written) (c : Char) : Written :=
  ⟨if w.pending.isSome then none else w.reversed.map (c :: ·), none⟩

/-- One more UTF-16 unit. -/
def pushUnit (w : Written) (unit : Nat) : Written :=
  let isHigh := 0xD800 ≤ unit ∧ unit < 0xDC00
  let isLow := 0xDC00 ≤ unit ∧ unit < 0xE000
  match w.pending with
  | some high =>
    if isLow then
      (⟨w.reversed, none⟩ : Written).push
        (Char.ofNat (0x10000 + (high - 0xD800) * 0x400 + (unit - 0xDC00)))
    else ⟨none, none⟩
  | none =>
    if isHigh then ⟨w.reversed, some unit⟩
    else if isLow then ⟨none, none⟩
    else w.push (Char.ofNat unit)

/-- The text that was read. -/
def finish (w : Written) : Text :=
  if w.pending.isSome then none else w.reversed.map fun cs => .ofList cs.reverse

end Written

/-- The character that a one-letter escape stands for. -/
def simpleEscape? : Char → Option Char
  | '"' => some '"'
  | '\\' => some '\\'
  | '/' => some '/'
  | 'b' => some '\x08'
  | 'f' => some '\x0c'
  | 'n' => some '\n'
  | 'r' => some '\r'
  | 't' => some '\t'
  | _ => none

/-- A hexadecimal digit's value. -/
def hexDigit? (c : Char) : Option Nat :=
  if c.isDigit then some (c.toNat - '0'.toNat)
  else if 'a' ≤ c ∧ c ≤ 'f' then some (c.toNat - 'a'.toNat + 10)
  else if 'A' ≤ c ∧ c ≤ 'F' then some (c.toNat - 'A'.toNat + 10)
  else none

/-! ## The machine -/

/-- What the characters read so far have left open. -/
inductive State
  | between
  /-- Inside a word, `rest` of which must follow. -/
  | word (rest : List Char) (token : Token)
  | number (stage : Stage) (digits : Digits)
  | text (inside : Inside) (written : Written)
deriving DecidableEq, Repr

/-- The character between tokens: blank, a token of its own, or the first one of a token. -/
def begin? (c : Char) : Option (State × List Token) :=
  match c with
  | ' ' | '\t' | '\n' | '\r' => some (.between, [])
  | '[' => some (.between, [.openArray])
  | ']' => some (.between, [.closeArray])
  | '\x7b' => some (.between, [.openObject])
  | '\x7d' => some (.between, [.closeObject])
  | ',' => some (.between, [.comma])
  | ':' => some (.between, [.colon])
  | '"' => some (.text .plain .empty, [])
  | 'n' => some (.word "ull".toList .null, [])
  | 't' => some (.word "rue".toList (.bool true), [])
  | 'f' => some (.word "alse".toList (.bool false), [])
  | '-' => some (.number .sign ⟨true, 0, 0, 0, false⟩, [])
  | c => (pushDigit? ⟨false, 0, 0, 0, false⟩ .sign c).map fun (stage, digits) =>
    (.number stage digits, [])

/-- One character of a string. Control characters must be escaped. -/
def textStep? (inside : Inside) (w : Written) (c : Char) : Option (State × List Token) :=
  match inside with
  | .plain =>
    if c = '"' then some (.between, [.text w.finish])
    else if c = '\\' then some (.text .escape w, [])
    else if c.toNat < 0x20 then none
    else some (.text .plain (w.push c), [])
  | .escape =>
    if c = 'u' then some (.text (.unit 3 0) w, [])
    else (simpleEscape? c).map fun d => (.text .plain (w.push d), [])
  | .unit missing value =>
    (hexDigit? c).map fun d =>
      let value := value * 16 + d
      match missing with
      | 0 => (.text .plain (w.pushUnit value), [])
      | missing + 1 => (.text (.unit missing value) w, [])

/-- One character further, and the tokens that end with it or before it. -/
def step? (s : State) (c : Char) : Option (State × List Token) :=
  match s with
  | .between => begin? c
  | .word [] token => (begin? c).map fun (s, ts) => (s, token :: ts)
  | .word (d :: rest) token =>
    if c ≠ d then none
    else if rest.isEmpty then some (.between, [token])
    else some (.word rest token, [])
  | .number stage digits =>
    match pushDigit? digits stage c with
    | some (stage, digits) => some (.number stage digits, [])
    | none => do
      let n ← finishNumber? digits stage
      let (s, ts) ← begin? c
      return (s, .number n :: ts)
  | .text inside w => textStep? inside w c

/-- Reads characters from a state on. -/
def scanFrom? : State → List Char → Option (State × List Token)
  | s, [] => some (s, [])
  | s, c :: rest => do
    let (s, ts) ← step? s c
    let (s, us) ← scanFrom? s rest
    return (s, ts ++ us)

/-- The tokens that end where the text does. -/
def finish? : State → Option (List Token)
  | .between => some []
  | .word [] token => some [token]
  | .number stage digits => (finishNumber? digits stage).map fun n => [.number n]
  | _ => none

/-- The tokens of a text. -/
def scan? (cs : List Char) : Option (List Token) := do
  let (s, ts) ← scanFrom? .between cs
  let us ← finish? s
  return ts ++ us

theorem scanFrom?_append (s : State) (xs ys : List Char) :
    scanFrom? s (xs ++ ys) = (do
      let (s, ts) ← scanFrom? s xs
      let (s, us) ← scanFrom? s ys
      return (s, ts ++ us)) := by
  induction xs generalizing s with
  | nil =>
    simp only [List.nil_append, scanFrom?, Option.bind_eq_bind, Option.bind_some]
    cases scanFrom? s ys <;> rfl
  | cons x xs ih =>
    simp only [List.cons_append, scanFrom?, ih]
    cases step? s x with
    | none => rfl
    | some p =>
      simp only [Option.bind_eq_bind, Option.bind_some]
      cases scanFrom? p.1 xs with
      | none => rfl
      | some q =>
        simp only [Option.bind_some, Option.pure_def]
        cases scanFrom? q.1 ys <;> simp

end Token

end Sidecheck.Json
