import Mathlib.Data.List.Nodup
import Sidecheck.Json.Reader
import Sidecheck.Json.Shape
import Sidecheck.Json.Writer
import Sidecheck.Proofs.Heading
import Sidecheck.Proofs.Traversal
/-!
# Reading the compact form

What is written is read again: `parse?_write`. The text of a value is read as the value's tokens,
`read?_write`, and the tokens are read as the value, `ofTokens?_tokens`; both go through the value
as it was written.

A number shows its end only by what stands behind it, so the first part is about a text that goes
on: with nothing, or with a mark that no number holds (`EndsValue`). The second is about tokens
that go on, and says what the open arrays and objects receive.
-/

namespace Sidecheck.Json

/-! ## Tokens of a text -/

namespace Token

/-- The tokens of a text that is read on from a state. -/
def read? (s : State) (cs : List Char) : Option (List Token) := do
  let (s, ts) ← scanFrom? s cs
  let us ← finish? s
  return ts ++ us

theorem read?_of_scanFrom? {s s' : State} {xs : List Char} {ts : List Token}
    (h : scanFrom? s xs = some (s', ts)) (ys : List Char) :
    read? s (xs ++ ys) = (read? s' ys).map (ts ++ ·) := by
  rw [read?, scanFrom?_append, h, read?]
  cases hys : scanFrom? s' ys with
  | none => simp [hys]
  | some p =>
    cases hend : finish? p.1 <;> simp [hys, hend]

theorem read?_of_step? {s s' : State} {c : Char} {ts : List Token}
    (h : step? s c = some (s', ts)) (ys : List Char) :
    read? s (c :: ys) = (read? s' ys).map (ts ++ ·) := by
  have hscan : scanFrom? s [c] = some (s', ts) := by simp [scanFrom?, h]
  exact read?_of_scanFrom? hscan ys

/-- Blanks as JSON has them between tokens. -/
def Blanks (cs : List Char) : Prop := ∀ c ∈ cs, c ∈ [' ', '\t', '\n', '\r']

instance (cs : List Char) : Decidable (Blanks cs) :=
  List.decidableBAll (· ∈ [' ', '\t', '\n', '\r']) cs

theorem read?_blanks {gap : List Char} (h : Blanks gap) (cs : List Char) :
    read? .between (gap ++ cs) = read? .between cs := by
  induction gap with
  | nil => rfl
  | cons c gap ih =>
    obtain ⟨hc, hgap⟩ := List.forall_mem_cons.1 h
    have hstep : step? .between c = some (.between, []) := by
      simp only [List.mem_cons, List.not_mem_nil, or_false] at hc
      rcases hc with rfl | rfl | rfl | rfl <;> rfl
    rw [List.cons_append, read?_of_step? hstep, ih hgap]
    simp

/-- What stands behind a value: nothing, or a mark that is no part of a number. -/
def EndsValue (rest : List Char) : Prop := ∀ c ∈ rest.head?, c ∈ [',', ']', '\x7d']

/-! ### Words -/

theorem scanFrom?_null : scanFrom? .between "null".toList = some (.between, [.null]) := by decide

theorem scanFrom?_true : scanFrom? .between "true".toList = some (.between, [.bool true]) := by
  decide

theorem scanFrom?_false : scanFrom? .between "false".toList = some (.between, [.bool false]) := by
  decide

/-! ### Numbers -/

/-- How far a number has been read when all its digits are. -/
def wholeStage (n : Nat) : Stage := if n = 0 then .zero else .whole

theorem digit?_digitChar : ∀ d < 10, digit? d.digitChar = some d := by decide

theorem scanFrom?_digitChar : ∀ d < 10, scanFrom? .between [d.digitChar] =
    some (.number (wholeStage d) ⟨false, d, 0, 0, false⟩, []) := by decide

/-- Digits are read from the first to the last, so the induction takes off the last one. -/
theorem scanFrom?_toDigits (n : Nat) : scanFrom? .between (Nat.toDigits 10 n) =
    some (.number (wholeStage n) ⟨false, n, 0, 0, false⟩, []) := by
  induction n using Nat.strongRecOn with
  | ind n ih =>
    by_cases hn : n < 10
    · rw [Nat.toDigits_of_lt_base hn]
      exact scanFrom?_digitChar n hn
    · have hdigit := digit?_digitChar (n % 10) (by omega)
      have hwhole : wholeStage (n / 10) = .whole := if_neg (by omega)
      have hwhole' : wholeStage n = .whole := if_neg (by omega)
      have hvalue : n / 10 * 10 + n % 10 = n := by omega
      rw [Nat.toDigits_of_base_le (by decide) (by omega), scanFrom?_append, ih (n / 10) (by omega),
        hwhole, hwhole']
      simp [scanFrom?, step?, pushDigit?, hdigit, hvalue]

theorem read?_number (n : Nat) {rest : List Char} (hrest : EndsValue rest) :
    read? .between (Nat.toDigits 10 n ++ rest) =
      (read? .between rest).map ([.number (.natural n)] ++ ·) := by
  have hstage : wholeStage n = .zero ∨ wholeStage n = .whole := by
    unfold wholeStage
    split
    · exact .inl rfl
    · exact .inr rfl
  rw [read?_of_scanFrom? (scanFrom?_toDigits n)]
  generalize wholeStage n = stage at hstage
  cases rest with
  | nil => rcases hstage with rfl | rfl <;> rfl
  | cons c rest =>
    have hc : c ∈ [',', ']', '\x7d'] := hrest c rfl
    have hstep : ∃ t, step? .between c = some (.between, [t]) ∧
        step? (.number stage ⟨false, n, 0, 0, false⟩) c =
          some (.between, [.number (.natural n), t]) := by
      simp only [List.mem_cons, List.not_mem_nil, or_false] at hc
      rcases hc with rfl | rfl | rfl <;> rcases hstage with rfl | rfl <;> exact ⟨_, rfl, rfl⟩
    obtain ⟨t, hbetween, hnumber⟩ := hstep
    rw [read?_of_step? hbetween, read?_of_step? hnumber]
    cases read? .between rest <;> rfl

/-! ### Strings -/

theorem hexDigit?_hexDigit : ∀ d < 16, hexDigit? (hexDigit d) = some d := by decide

/-- A code unit below the surrogates is one character. -/
theorem pushUnit_toNat {c : Char} (hc : c.toNat < 0x20) (reversed : List Char) :
    (Written.mk (some reversed) none).pushUnit c.toNat = ⟨some (c :: reversed), none⟩ := by
  have hhigh : ¬ (0xD800 ≤ c.toNat ∧ c.toNat < 0xDC00) := by omega
  have hlow : ¬ (0xDC00 ≤ c.toNat ∧ c.toNat < 0xE000) := by omega
  simp only [Written.pushUnit, if_neg hhigh, if_neg hlow, Char.ofNat_toNat]
  rfl

/-- A character is written behind a backslash, as a code unit or as it is. -/
theorem writeChar_cases (c : Char) :
    (∃ d, simpleEscape? d = some c ∧ d ≠ 'u' ∧ 0x20 ≤ d.toNat ∧ writeChar c = ['\\', d]) ∨
    (c.toNat < 0x20 ∧ writeChar c =
      ['\\', 'u', '0', '0', hexDigit (c.toNat / 16), hexDigit (c.toNat % 16)]) ∨
    (c ≠ '"' ∧ c ≠ '\\' ∧ 0x20 ≤ c.toNat ∧ writeChar c = [c]) := by
  by_cases hquote : c = '"'
  · subst hquote
    exact .inl ⟨'"', rfl, by decide, by decide, rfl⟩
  by_cases hslash : c = '\\'
  · subst hslash
    exact .inl ⟨'\\', rfl, by decide, by decide, rfl⟩
  by_cases hback : c = '\x08'
  · subst hback
    exact .inl ⟨'b', rfl, by decide, by decide, rfl⟩
  by_cases hform : c = '\x0c'
  · subst hform
    exact .inl ⟨'f', rfl, by decide, by decide, rfl⟩
  by_cases hfeed : c = '\n'
  · subst hfeed
    exact .inl ⟨'n', rfl, by decide, by decide, rfl⟩
  by_cases hreturn : c = '\r'
  · subst hreturn
    exact .inl ⟨'r', rfl, by decide, by decide, rfl⟩
  by_cases htab : c = '\t'
  · subst htab
    exact .inl ⟨'t', rfl, by decide, by decide, rfl⟩
  by_cases hlow : c.toNat < 0x20
  · refine .inr (.inl ⟨hlow, ?_⟩)
    rw [writeChar, if_neg hquote, if_neg hslash, if_neg hback, if_neg hform, if_neg hfeed,
      if_neg hreturn, if_neg htab, if_pos hlow]
  · refine .inr (.inr ⟨hquote, hslash, Nat.not_lt.1 hlow, ?_⟩)
    rw [writeChar, if_neg hquote, if_neg hslash, if_neg hback, if_neg hform, if_neg hfeed,
      if_neg hreturn, if_neg htab, if_neg hlow]

/-- Whatever a character is written as, it is read as the character. -/
theorem scanFrom?_writeChar (c : Char) (reversed : List Char) :
    scanFrom? (.text .plain ⟨some reversed, none⟩) (writeChar c) =
      some (.text .plain ⟨some (c :: reversed), none⟩, []) := by
  rcases writeChar_cases c with ⟨d, hd, hu, -, hwrite⟩ | ⟨hlow, hwrite⟩ |
    ⟨hquote, hslash, hlow, hwrite⟩
  · rw [hwrite]
    simp [scanFrom?, step?, textStep?, hu, hd, Written.push]
  · have hhigh := hexDigit?_hexDigit (c.toNat / 16) (by omega)
    have hrest := hexDigit?_hexDigit (c.toNat % 16) (by omega)
    have hzero : hexDigit? '0' = some 0 := rfl
    have hvalue : c.toNat / 16 * 16 + c.toNat % 16 = c.toNat := by omega
    rw [hwrite]
    simp [scanFrom?, step?, textStep?, hzero, hhigh, hrest, hvalue, pushUnit_toNat hlow]
  · rw [hwrite]
    simp [scanFrom?, step?, textStep?, hquote, hslash, Nat.not_lt.2 hlow, Written.push]

theorem scanFrom?_flatMap_writeChar (cs reversed : List Char) :
    scanFrom? (.text .plain ⟨some reversed, none⟩) (cs.flatMap writeChar) =
      some (.text .plain ⟨some (cs.reverse ++ reversed), none⟩, []) := by
  induction cs generalizing reversed with
  | nil => rfl
  | cons c cs ih =>
    rw [List.flatMap_cons, scanFrom?_append, scanFrom?_writeChar]
    simp [ih]

theorem read?_writeText (s : String) (rest : List Char) :
    read? .between (writeText s.toList ++ rest) =
      (read? .between rest).map ([.text (some s)] ++ ·) := by
  refine read?_of_scanFrom? ?_ rest
  have hopen : step? .between '"' = some (.text .plain ⟨some [], none⟩, []) := rfl
  have hclose : step? (.text .plain ⟨some s.toList.reverse, none⟩) '"' =
      some (.between, [.text (some s)]) := by
    simp [step?, textStep?, Written.finish]
  simp [writeText, scanFrom?, scanFrom?_append, scanFrom?_flatMap_writeChar, hopen, hclose]

end Token

/-! ### Values -/

mutual
/-- Every string in the value is text and every number is a natural one. -/
def isSimple : Json → Bool
  | .number (.other _) => false
  | .text t => t.isSome
  | .array items => itemsSimple items
  | .object members => membersSimple members
  | _ => true
/-- Every item of an array is simple. -/
def itemsSimple : List Json → Bool
  | [] => true
  | v :: rest => v.isSimple && itemsSimple rest
/-- Every name and value of an object is simple. -/
def membersSimple : List (Text × Json) → Bool
  | [] => true
  | (name, v) :: rest => name.isSome && v.isSimple && membersSimple rest
end

mutual
/-- The tokens that a value is written with. -/
def tokens : Json → List Token
  | .null => [.null]
  | .bool b => [.bool b]
  | .number n => [.number n]
  | .text t => [.text t]
  | .array items => .openArray :: itemsTokens items ++ [.closeArray]
  | .object members => .openObject :: membersTokens members ++ [.closeObject]
/-- The tokens of an array's items. -/
def itemsTokens : List Json → List Token
  | [] => []
  | [v] => v.tokens
  | v :: w :: rest => v.tokens ++ .comma :: itemsTokens (w :: rest)
/-- The tokens of an object's members. -/
def membersTokens : List (Text × Json) → List Token
  | [] => []
  | [(name, v)] => .text name :: .colon :: v.tokens
  | (name, v) :: m :: rest =>
    .text name :: .colon :: v.tokens ++ .comma :: membersTokens (m :: rest)
end

open Token

theorem read?_mark {c : Char} {t : Token} (h : begin? c = some (.between, [t])) (rest : List Char) :
    read? .between (c :: rest) = (read? .between rest).map ([t] ++ ·) :=
  read?_of_step? (s := .between) h rest

theorem endsValue_cons {c : Char} (h : c ∈ [',', ']', '\x7d']) (rest : List Char) :
    EndsValue (c :: rest) := by
  rintro _ ⟨⟩
  exact h

mutual
/-- A value's text is read as its tokens. -/
theorem read?_write : ∀ (v : Json) (rest : List Char), v.isSimple = true → EndsValue rest →
    read? .between (v.write ++ rest) = (read? .between rest).map (v.tokens ++ ·)
  | .null, rest, _, _ => by
    rw [write]
    exact read?_of_scanFrom? scanFrom?_null rest
  | .bool true, rest, _, _ => by
    rw [write]
    exact read?_of_scanFrom? scanFrom?_true rest
  | .bool false, rest, _, _ => by
    rw [write]
    exact read?_of_scanFrom? scanFrom?_false rest
  | .number (.natural n), _, _, hrest => read?_number n hrest
  | .text (some s), rest, _, _ => read?_writeText s rest
  | .array items, rest, h, _ => by
    have hitems := read?_writeItems items (']' :: rest) h (endsValue_cons (by decide) rest)
    rw [write, tokens, List.append_assoc, List.cons_append, List.singleton_append,
      read?_mark (t := .openArray) rfl, hitems, read?_mark (t := .closeArray) rfl]
    simp [Function.comp_def]
  | .object members, rest, h, _ => by
    have hmembers := read?_writeMembers members ('\x7d' :: rest) h
      (endsValue_cons (by decide) rest)
    rw [write, tokens, List.append_assoc, List.cons_append, List.singleton_append,
      read?_mark (t := .openObject) rfl, hmembers, read?_mark (t := .closeObject) rfl]
    simp [Function.comp_def]

theorem read?_writeItems : ∀ (items : List Json) (rest : List Char), itemsSimple items = true →
    EndsValue rest →
    read? .between (writeItems items ++ rest) = (read? .between rest).map (itemsTokens items ++ ·)
  | [], rest, _, _ => by simp [writeItems, itemsTokens]
  | [v], rest, h, hrest => by
    rw [itemsSimple, Bool.and_eq_true] at h
    exact read?_write v rest h.1 hrest
  | v :: w :: items, rest, h, hrest => by
    rw [itemsSimple, Bool.and_eq_true] at h
    have hv := read?_write v (',' :: (writeItems (w :: items) ++ rest)) h.1
      (endsValue_cons (by decide) _)
    rw [writeItems, itemsTokens, List.append_assoc, List.cons_append, hv,
      read?_mark (t := .comma) rfl, read?_writeItems (w :: items) rest h.2 hrest]
    simp [Function.comp_def]

theorem read?_writeMembers : ∀ (members : List (Text × Json)) (rest : List Char),
    membersSimple members = true → EndsValue rest →
    read? .between (writeMembers members ++ rest) =
      (read? .between rest).map (membersTokens members ++ ·)
  | [], rest, _, _ => by simp [writeMembers, membersTokens]
  | [(name, v)], rest, h, hrest => by
    rw [membersSimple, Bool.and_eq_true, Bool.and_eq_true] at h
    obtain ⟨⟨hname, hv⟩, -⟩ := h
    obtain ⟨s, rfl⟩ := Option.isSome_iff_exists.1 hname
    rw [writeMembers, membersTokens, Text.write, List.append_assoc, List.cons_append,
      read?_writeText, read?_mark (t := .colon) rfl, read?_write v rest hv hrest]
    simp [Function.comp_def]
  | (name, v) :: m :: members, rest, h, hrest => by
    rw [membersSimple, Bool.and_eq_true, Bool.and_eq_true] at h
    obtain ⟨⟨hname, hv⟩, hmembers⟩ := h
    obtain ⟨s, rfl⟩ := Option.isSome_iff_exists.1 hname
    have hvalue := read?_write v (',' :: (writeMembers (m :: members) ++ rest)) hv
      (endsValue_cons (by decide) _)
    rw [writeMembers, membersTokens, Text.write]
    simp only [List.append_assoc, List.cons_append]
    rw [read?_writeText, read?_mark (t := .colon) rfl, hvalue, read?_mark (t := .comma) rfl,
      read?_writeMembers (m :: members) rest hmembers hrest]
    simp [Function.comp_def]
end

theorem scan?_eq_read? (cs : List Char) : scan? cs = read? .between cs := rfl

theorem scan?_write {v : Json} (h : v.isSimple = true) : scan? v.write = some v.tokens := by
  have hread := read?_write v [] h (by rintro _ ⟨⟩)
  rw [List.append_nil] at hread
  rw [scan?_eq_read?, hread]
  simp [read?, scanFrom?, finish?]

/-! ## Values from tokens -/

namespace Reader

variable {stack : List Open} {ts : List Token}

theorem run?_cons (s : State) (t : Token) (ts : List Token) :
    run? s (t :: ts) = (step? s t).bind (run? · ts) := rfl

/-- An array ends where no item has come yet, or behind an item. -/
theorem step?_closeArray {e : Expected} (he : e = .firstItem ∨ e = .next) (items : List Json) :
    step? (.reading (.array items :: stack) e) .closeArray =
      deliver? (.array items.reverse) stack := by
  rcases he with rfl | rfl
  · simp [step?, close?, beginValue?]
  · rfl

theorem step?_closeObject {e : Expected} (he : e = .firstName ∨ e = .next)
    (members : List (Text × Json)) :
    step? (.reading (.object members :: stack) e) .closeObject =
      deliver? (.object members.reverse) stack := by
  rcases he with rfl | rfl
  · simp [step?, close?, beginMember?]
  · rfl

/-- The first item of an array is read as any value. -/
theorem run?_firstItem (v : Json) (items : List Json) :
    run? (.reading (.array items :: stack) .firstItem) (v.tokens ++ ts) =
      run? (.reading (.array items :: stack) .value) (v.tokens ++ ts) := by
  cases v <;> rfl

mutual
/-- The tokens of a value deliver the value. -/
theorem run?_tokens : ∀ (v : Json) (stack : List Open) (ts : List Token),
    run? (.reading stack .value) (v.tokens ++ ts) = (deliver? v stack).bind (run? · ts)
  | .null, _, _ => rfl
  | .bool _, _, _ => rfl
  | .number _, _, _ => rfl
  | .text _, _, _ => rfl
  | .array items, stack, ts => by
    have hbegin : step? (.reading stack .value) .openArray =
      some (.reading (.array [] :: stack) .firstItem) := rfl
    rw [tokens, List.append_assoc, List.cons_append, run?_cons, hbegin, Option.bind_some]
    -- An array may be empty, so its first item is awaited in a state of its own.
    cases items with
    | nil => exact congrArg (Option.bind · _) (step?_closeArray (.inl rfl) [])
    | cons v rest =>
      have hfirst : run? (.reading (.array [] :: stack) .firstItem)
          (itemsTokens (v :: rest) ++ ([.closeArray] ++ ts)) =
          run? (.reading (.array [] :: stack) .value)
            (itemsTokens (v :: rest) ++ ([.closeArray] ++ ts)) := by
        cases rest with
        | nil => exact run?_firstItem v []
        | cons w rest =>
          rw [itemsTokens, List.append_assoc]
          exact run?_firstItem v []
      rw [hfirst, run?_itemsTokens (v :: rest) (List.cons_ne_nil v rest), List.singleton_append,
        run?_cons, step?_closeArray (.inr rfl)]
      simp
  | .object members, stack, ts => by
    have hbegin : step? (.reading stack .value) .openObject =
      some (.reading (.object [] :: stack) .firstName) := rfl
    rw [tokens, List.append_assoc, List.cons_append, run?_cons, hbegin, Option.bind_some]
    cases members with
    | nil => exact congrArg (Option.bind · _) (step?_closeObject (.inl rfl) [])
    | cons m rest =>
      have hfirst : run? (.reading (.object [] :: stack) .firstName)
          (membersTokens (m :: rest) ++ ([.closeObject] ++ ts)) =
          run? (.reading (.object [] :: stack) .name)
            (membersTokens (m :: rest) ++ ([.closeObject] ++ ts)) := by
        cases rest <;> rfl
      rw [hfirst, run?_membersTokens (m :: rest) (List.cons_ne_nil m rest), List.singleton_append,
        run?_cons, step?_closeObject (.inr rfl)]
      simp

theorem run?_itemsTokens : ∀ (items : List Json), items ≠ [] → ∀ (before : List Json)
    (stack : List Open) (ts : List Token),
    run? (.reading (.array before :: stack) .value) (itemsTokens items ++ ts) =
      run? (.reading (.array (items.reverse ++ before) :: stack) .next) ts
  | [v], _, before, stack, ts => run?_tokens v (.array before :: stack) ts
  | v :: w :: rest, _, before, stack, ts => by
    have hv := run?_tokens v (.array before :: stack) (.comma :: (itemsTokens (w :: rest) ++ ts))
    have hcomma : step? (.reading (.array (v :: before) :: stack) .next) .comma =
      some (.reading (.array (v :: before) :: stack) .value) := rfl
    have hrest := run?_itemsTokens (w :: rest) (List.cons_ne_nil w rest) (v :: before) stack ts
    rw [itemsTokens, List.append_assoc, List.cons_append, hv, deliver?, Option.bind_some, run?_cons,
      hcomma, Option.bind_some, hrest]
    simp

theorem run?_membersTokens : ∀ (members : List (Text × Json)), members ≠ [] →
    ∀ (before : List (Text × Json)) (stack : List Open) (ts : List Token),
    run? (.reading (.object before :: stack) .name) (membersTokens members ++ ts) =
      run? (.reading (.object (members.reverse ++ before) :: stack) .next) ts
  | [(name, v)], _, before, stack, ts => run?_tokens v (.member before name :: stack) ts
  | (name, v) :: m :: rest, _, before, stack, ts => by
    have hname (us : List Token) :
        run? (.reading (.object before :: stack) .name) (.text name :: .colon :: us) =
          run? (.reading (.member before name :: stack) .value) us := rfl
    have hv := run?_tokens v (.member before name :: stack)
      (.comma :: (membersTokens (m :: rest) ++ ts))
    have hcomma : step? (.reading (.object ((name, v) :: before) :: stack) .next) .comma =
      some (.reading (.object ((name, v) :: before) :: stack) .name) := rfl
    have hrest := run?_membersTokens (m :: rest) (List.cons_ne_nil m rest) ((name, v) :: before)
      stack ts
    rw [membersTokens]
    simp only [List.append_assoc, List.cons_append]
    rw [hname, hv, deliver?, Option.bind_some, run?_cons, hcomma, Option.bind_some, hrest]
    simp
end

end Reader

theorem ofTokens?_tokens (v : Json) : ofTokens? v.tokens = some v := by
  have hrun := Reader.run?_tokens v [] []
  rw [List.append_nil] at hrun
  rw [ofTokens?, hrun]
  rfl

/-- A value of texts and natural numbers is read from what it is written as. -/
theorem parse?_write {v : Json} (h : v.isSimple = true) : parse? v.write = some v := by
  rw [parse?, scan?_write h]
  exact ofTokens?_tokens v

/-! ## Records -/

theorem isSimple_record (fields : List (String × Json)) :
    (record fields).isSimple = fields.all (·.2.isSimple) := by
  rw [record, isSimple]
  induction fields with
  | nil => rfl
  | cons field fields ih => simp [membersSimple, ih]

theorem isSimple_array (items : List Json) : (array items).isSimple = items.all isSimple := by
  rw [isSimple]
  induction items with
  | nil => rfl
  | cons v items ih => simp [itemsSimple, ih]

theorem isSimple_elim {α : Type} {write : α → Json} (h : ∀ a, (write a).isSimple = true)
    (o : Option α) : (o.elim .null write).isSimple = true := by
  cases o with
  | none => rfl
  | some a => exact h a

theorem timesGiven_le_one {fields : List (String × Json)} (h : (fields.map (·.1)).Nodup)
    (name : String) :
    timesGiven (fields.map fun (key, v) => (some key, v)) name ≤ 1 := by
  have hcount : timesGiven (fields.map fun (key, v) => (some key, v)) name =
      (fields.map (·.1)).count name := by
    rw [timesGiven, List.countP_map, List.count, List.countP_map]
    refine List.countP_congr fun field _ => ?_
    simp
  rw [hcount]
  exact List.nodup_iff_count_le_one.1 h name

theorem valueOf?_eq_some {fields : List (String × Json)} (h : (fields.map (·.1)).Nodup)
    {field : String × Json} (hmem : field ∈ fields) :
    valueOf? (fields.map fun (key, v) => (some key, v)) field.1 = some field.2 := by
  induction fields with
  | nil => cases hmem
  | cons first fields ih =>
    rw [List.map_cons, List.nodup_cons] at h
    rcases List.mem_cons.1 hmem with rfl | hmem
    · simp [valueOf?]
    · have hne : first.1 ≠ field.1 := fun heq => h.1 (heq ▸ List.mem_map_of_mem hmem)
      have hrest := ih h.2 hmem
      rw [valueOf?] at hrest ⊢
      rw [List.map_cons, List.find?_cons_of_neg (by simpa using hne), hrest]

/-- A record's members are found under its names, in their order. -/
theorem members?_record {fields : List (String × Json)} (names : List String) (h : names.Nodup)
    (hnames : names = fields.map (·.1)) :
    (record fields).members? names 0 = some (fields.map (some ·.2)) := by
  subst hnames
  have hproper : (fields.map fun (key, v) => (some key, v)).all (·.1.isSome) = true := by simp
  rw [record, members?, if_pos ⟨hproper, fun name _ => timesGiven_le_one h name⟩, List.map_map]
  exact congrArg some (List.map_congr_left fun field hfield => valueOf?_eq_some h hfield)

theorem required?_string (s : String) : required? string? (some (.string s)) = some s := rfl

theorem natBelow?_natural {bound n : Nat} (h : n < bound) :
    natBelow? bound (.natural n) = some n := if_pos h

/-- A member that was left out is null. -/
theorem optional?_elim {α : Type} {read? : Json → Option α} {write : α → Json} {o : Option α}
    (hnull : read? .null = none) (h : ∀ a ∈ o, read? (write a) = some a) :
    optional? read? (some (o.elim .null write)) = some o := by
  cases o with
  | none => rfl
  | some a =>
    have ha := h a rfl
    rw [Option.elim_some, optional?]
    · rw [ha]; rfl
    · intro hwrite
      rw [hwrite, hnull] at ha
      cases ha

theorem mapM_map_eq_some {α β : Type} {read? : β → Option α} {write : α → β} {xs : List α}
    (h : ∀ x ∈ xs, read? (write x) = some x) : (xs.map write).mapM read? = some xs :=
  Traversal.mapM_eq_some (List.forall₂_map_left_iff.2 (List.forall₂_same.2 h))

/-! ## What is never written -/

/-- The text has no control character below U+0020, so no line end. -/
abbrev Unbroken (cs : List Char) : Prop := ∀ c ∈ cs, 0x20 ≤ c.toNat

theorem unbroken_of_all {cs : List Char} (h : cs.all (0x20 ≤ ·.toNat) = true) : Unbroken cs := by
  simpa using h

theorem unbroken_toDigits (n : Nat) : Unbroken (Nat.toDigits 10 n) := by
  intro c hc
  have hdigit := Listing.isDigit_of_mem_toDigits hc
  simp only [Char.isDigit, Bool.and_eq_true, decide_eq_true_eq, ge_iff_le] at hdigit
  have hlow : '0'.toNat ≤ c.toNat := hdigit.1
  exact Nat.le_trans (by decide) hlow

theorem unbroken_hexDigit : ∀ d < 16, 0x20 ≤ (hexDigit d).toNat := by decide

theorem unbroken_writeChar (c : Char) : Unbroken (writeChar c) := by
  rcases writeChar_cases c with ⟨d, -, -, hd, hwrite⟩ | ⟨hlow, hwrite⟩ | ⟨-, -, hlow, hwrite⟩
  · rw [hwrite]
    simp only [Unbroken, List.forall_mem_cons]
    exact ⟨by decide, hd, List.forall_mem_nil _⟩
  · have hhigh := unbroken_hexDigit (c.toNat / 16) (by omega)
    have hrest := unbroken_hexDigit (c.toNat % 16) (by omega)
    rw [hwrite]
    simp only [Unbroken, List.forall_mem_cons]
    exact ⟨by decide, by decide, by decide, by decide, hhigh, hrest, List.forall_mem_nil _⟩
  · rw [hwrite, Unbroken, List.forall_mem_singleton]
    exact hlow

theorem unbroken_writeText (cs : List Char) : Unbroken (writeText cs) := by
  simp only [writeText, Unbroken, List.forall_mem_cons, List.forall_mem_append,
    List.forall_mem_flatMap]
  exact ⟨⟨by decide, fun c _ => unbroken_writeChar c⟩, by decide, List.forall_mem_nil _⟩

theorem Text.unbroken_write (t : Text) : Unbroken t.write := by
  cases t with
  | none => rw [write]; exact unbroken_of_all (by decide)
  | some s => exact unbroken_writeText s.toList

theorem Number.unbroken_write (n : Number) : Unbroken n.write := by
  cases n with
  | natural n => exact unbroken_toDigits n
  | other d =>
    have hsign (b : Prop) [Decidable b] : Unbroken (if b then ['-'] else []) := by
      split <;> exact unbroken_of_all (by decide)
    simp only [write, Unbroken, List.forall_mem_append, List.forall_mem_cons]
    exact ⟨⟨⟨hsign _, unbroken_toDigits _⟩, by decide, hsign _⟩, unbroken_toDigits _⟩

mutual
/-- A value is written without control characters, whatever its texts hold. -/
theorem unbroken_write : ∀ v : Json, Unbroken v.write
  | .null => by rw [write]; exact unbroken_of_all (by decide)
  | .bool true => by rw [write]; exact unbroken_of_all (by decide)
  | .bool false => by rw [write]; exact unbroken_of_all (by decide)
  | .number n => n.unbroken_write
  | .text t => Text.unbroken_write t
  | .array items => by
    simp only [write, Unbroken, List.forall_mem_cons, List.forall_mem_append]
    exact ⟨⟨by decide, unbroken_writeItems items⟩, by decide, List.forall_mem_nil _⟩
  | .object members => by
    simp only [write, Unbroken, List.forall_mem_cons, List.forall_mem_append]
    exact ⟨⟨by decide, unbroken_writeMembers members⟩, by decide, List.forall_mem_nil _⟩

theorem unbroken_writeItems : ∀ items : List Json, Unbroken (writeItems items)
  | [] => List.forall_mem_nil _
  | [v] => unbroken_write v
  | v :: w :: rest => by
    simp only [writeItems, Unbroken, List.forall_mem_cons, List.forall_mem_append]
    exact ⟨unbroken_write v, by decide, unbroken_writeItems (w :: rest)⟩

theorem unbroken_writeMembers : ∀ members : List (Text × Json), Unbroken (writeMembers members)
  | [] => List.forall_mem_nil _
  | [(name, v)] => by
    simp only [writeMembers, Unbroken, List.forall_mem_cons, List.forall_mem_append]
    exact ⟨Text.unbroken_write name, by decide, unbroken_write v⟩
  | (name, v) :: m :: rest => by
    simp only [writeMembers, Unbroken, List.forall_mem_cons, List.forall_mem_append]
    exact ⟨⟨Text.unbroken_write name, by decide, unbroken_write v⟩, by decide,
      unbroken_writeMembers (m :: rest)⟩
end

end Sidecheck.Json
