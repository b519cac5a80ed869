/-!
# UTF-8

How many bytes a text takes, and how bytes that need not be UTF-8 are read: every maximal
beginning of a character that is never completed becomes one replacement character, and so
does every byte that begins none.
-/

namespace Sidecheck.Text

/-- The number of bytes the characters take. -/
def byteLength (cs : List Char) : Nat := cs.foldr (fun c length => c.utf8Size + length) 0

@[simp] theorem byteLength_nil : byteLength [] = 0 := rfl

@[simp] theorem byteLength_cons (c : Char) (cs : List Char) :
    byteLength (c :: cs) = c.utf8Size + byteLength cs := by
  simp [byteLength]

@[simp] theorem byteLength_append (xs ys : List Char) :
    byteLength (xs ++ ys) = byteLength xs + byteLength ys := by
  induction xs with
  | nil => simp
  | cons c xs ih => simp [ih, Nat.add_assoc]

/-- What is left of the text from a byte offset on; nothing if the offset lies inside a
character or past the end. -/
def dropBytes : Nat → List Char → Option (List Char)
  | 0, cs => some cs
  | _ + 1, [] => none
  | n + 1, c :: cs => if c.utf8Size ≤ n + 1 then dropBytes (n + 1 - c.utf8Size) cs else none
termination_by _ cs => cs.length

theorem dropBytes_byteLength (xs ys : List Char) :
    dropBytes (byteLength xs) (xs ++ ys) = some ys := by
  induction xs with
  | nil => simp [dropBytes]
  | cons c xs ih =>
    have hc : 0 < c.utf8Size := c.utf8Size_pos
    obtain ⟨n, hn⟩ : ∃ n, byteLength (c :: xs) = n + 1 :=
      ⟨c.utf8Size + byteLength xs - 1, by simp; omega⟩
    rw [hn, List.cons_append, dropBytes]
    rw [byteLength_cons] at hn
    have hle : c.utf8Size ≤ n + 1 := by omega
    have hsub : n + 1 - c.utf8Size = byteLength xs := by omega
    simp [hle, hsub, ih]

/-- The character that stands for bytes that are no text. -/
def replacement : Char := '\ufffd'

/-- A character whose last byte has not been read yet. -/
structure Unfinished where
  /-- The bits read so far. -/
  value : Nat
  /-- How many bytes are missing. -/
  missing : Nat
  /-- The least and the greatest byte that may come next. -/
  low : Nat
  high : Nat

/-- What a byte at the beginning of a character says. -/
inductive Lead
  | ascii (c : Char)
  | more (rest : Unfinished)
  | invalid

/-- Reads the first byte of a character. The bounds on the second byte shut out overlong forms,
surrogates and values above U+10FFFF. -/
def lead (b : Nat) : Lead :=
  if b < 0x80 then .ascii (Char.ofNat b)
  else if 0xC2 ≤ b ∧ b ≤ 0xDF then .more ⟨b - 0xC0, 1, 0x80, 0xBF⟩
  else if b = 0xE0 then .more ⟨0, 2, 0xA0, 0xBF⟩
  else if b = 0xED then .more ⟨0xD, 2, 0x80, 0x9F⟩
  else if 0xE1 ≤ b ∧ b ≤ 0xEF then .more ⟨b - 0xE0, 2, 0x80, 0xBF⟩
  else if b = 0xF0 then .more ⟨0, 3, 0x90, 0xBF⟩
  else if 0xF1 ≤ b ∧ b ≤ 0xF3 then .more ⟨b - 0xF0, 3, 0x80, 0xBF⟩
  else if b = 0xF4 then .more ⟨4, 3, 0x80, 0x8F⟩
  else .invalid

/-- What a byte that begins a character writes, and what is unfinished after it. -/
def begin (b : UInt8) : List Char × Option Unfinished :=
  match lead b.toNat with
  | .ascii c => ([c], none)
  | .more rest => ([], some rest)
  | .invalid => ([replacement], none)

/-- One byte further into the text. -/
def decodeStep (open? : Option Unfinished) (b : UInt8) : List Char × Option Unfinished :=
  match open? with
  | none => begin b
  | some u =>
    if u.low ≤ b.toNat ∧ b.toNat ≤ u.high then
      let value := u.value * 64 + (b.toNat - 0x80)
      if u.missing = 1 then ([Char.ofNat value], none)
      else ([], some ⟨value, u.missing - 1, 0x80, 0xBF⟩)
    else
      let (cs, rest) := begin b
      (replacement :: cs, rest)

/-- Reads bytes as text from inside a character, `open?`, or from between two. -/
def decodeFrom (open? : Option Unfinished) : List UInt8 → List Char
  | [] => if open?.isSome then [replacement] else []
  | b :: rest =>
    let (cs, next) := decodeStep open? b
    cs ++ decodeFrom next rest

/-- Reads bytes as text, with replacement characters for what is no UTF-8. -/
def decodeLossy (bytes : ByteArray) : String := .ofList (decodeFrom none bytes.toList)

end Sidecheck.Text
