import Sidecheck.Proofs.Offsets
import Sidecheck.Watch.Matcher
/-!
# Globs without wildcards

A pattern that has no wildcards means its own text (`parse_plain`, `isMatch_exactly`), and with
`/**/*` behind it everything that goes on behind that text with a slash (`parse_below`,
`isMatch_below`). Alone, `**/*` matches everything (`isMatch_everything`). Texts are matched byte by
byte, which comes to the same as character by character, since the bytes of a character begin those
of no other: `isPrefix_bytes`.
-/

namespace Sidecheck.Glob

/-! ## Bytes -/

section Bytes

theorem toList_loop (bytes : ByteArray) (i : Nat) (before : List UInt8) :
    ByteArray.toList.loop bytes i before = before.reverse ++ bytes.data.toList.drop i := by
  induction i, before using ByteArray.toList.loop.induct bytes with
  | case1 i before hi ih =>
    have hlength : i < bytes.data.toList.length := hi
    have hget : bytes.get! i = bytes.data.toList[i] := getElem!_pos bytes.data i hi
    rw [ByteArray.toList.loop, if_pos hi, ih, List.drop_eq_getElem_cons hlength,
      List.reverse_cons, List.append_assoc, hget]
    rfl
  | case2 i before hi =>
    have hlength : bytes.data.toList.length ≤ i := Nat.not_lt.1 hi
    rw [ByteArray.toList.loop, if_neg hi, List.drop_eq_nil_of_le hlength, List.append_nil]

theorem toList_toUTF8 (text : String) : text.toUTF8.toList = Text.bytes text.toList := by
  rw [ByteArray.toList, toList_loop, Text.toList_toUTF8]
  rfl

theorem bytesOf_eq (c : Char) : bytesOf c = String.utf8EncodeChar c := by
  rw [bytesOf, toList_toUTF8, Char.toString, String.toList_singleton, Text.bytes]
  simp

theorem bytesOf_ne_nil (c : Char) : bytesOf c ≠ [] := by
  rw [bytesOf_eq]
  exact String.utf8EncodeChar_ne_nil

/-- The bytes of a character are read back, whatever comes behind them. -/
theorem eq_of_bytesOf_append {c d : Char} {more more' : List UInt8}
    (h : bytesOf c ++ more = bytesOf d ++ more') : c = d := by
  have hread (c : Char) (more : List UInt8) :
      (bytesOf c ++ more).toByteArray.utf8DecodeChar? 0 = some c := by
    rw [bytesOf_eq, List.toByteArray_append, ByteArray.utf8DecodeChar?_utf8EncodeChar_append]
  have hc := hread c more
  rw [h, hread d more'] at hc
  exact (Option.some.inj hc).symm

theorem bytes_cons (c : Char) (cs : List Char) :
    Text.bytes (c :: cs) = bytesOf c ++ Text.bytes cs := by
  rw [bytesOf_eq, Text.bytes, List.flatMap_cons, Text.bytes]

theorem bytes_eq_nil_iff {text : List Char} : Text.bytes text = [] ↔ text = [] := by
  cases text with
  | nil => exact iff_of_true rfl rfl
  | cons c text => simp [bytes_cons, bytesOf_ne_nil]

/-- A text's bytes begin with those of a character exactly if it begins with that. -/
theorem isPrefix_bytes {c : Char} {text : List Char} :
    bytesOf c <+: Text.bytes text ↔ ∃ more, text = c :: more := by
  constructor
  · rintro ⟨more, hmore⟩
    cases text with
    | nil => exact absurd (List.append_eq_nil_iff.1 hmore).1 (bytesOf_ne_nil c)
    | cons d text =>
      rw [bytes_cons] at hmore
      exact ⟨text, by rw [eq_of_bytesOf_append hmore]⟩
  · rintro ⟨more, rfl⟩
    exact ⟨Text.bytes more, (bytes_cons c more).symm⟩

end Bytes

/-! ## Reading -/

/-- The characters that can mean more than themselves. -/
def wildcards : List Char := "*?[]\x7b\x7d\\".toList

/-- The glob that matches a text and nothing else. -/
def exactly (text : List Char) : Glob := ⟨text.map .literal⟩

/-- The glob that matches what goes on behind a text with a slash. -/
def below (text : List Char) : Glob := ⟨text.map .literal ++ [.directoriesBetween, .star]⟩

/-- The glob that matches everything. -/
def everything : Glob := ⟨[.directoriesBefore, .star]⟩

section Reading

variable {text : List Char}

theorem step_plain {c : Char} (h : c ∉ wildcards) (tokens : List Token) (previous : Option Char) :
    Parser.State.step ⟨tokens, [], .plain, previous⟩ c =
      .ok ⟨.literal c :: tokens, [], .plain, some c⟩ := by
  have hwildcards : c ∉ ['*', '?', '[', ']', '\x7b', '\x7d', '\\'] := h
  simp only [List.mem_cons, List.not_mem_nil, or_false, not_or] at hwildcards
  simp only [Parser.State.step]
  unfold Parser.State.takePlain
  split <;> simp_all [Parser.State.push, Parser.State.behind]

theorem foldlM_plain (h : ∀ c ∈ text, c ∉ wildcards) (tokens : List Token)
    (previous : Option Char) :
    ∃ last, text.foldlM Parser.State.step ⟨tokens, [], .plain, previous⟩ =
      .ok ⟨(text.map .literal).reverse ++ tokens, [], .plain, last⟩ := by
  induction text generalizing tokens previous with
  | nil => exact ⟨previous, rfl⟩
  | cons c cs ih =>
    rw [List.forall_mem_cons] at h
    obtain ⟨last, hlast⟩ := ih h.2 (.literal c :: tokens) (some c)
    refine ⟨last, ?_⟩
    rw [List.foldlM_cons, step_plain h.1, List.map_cons, List.reverse_cons, List.append_assoc]
    exact hlast

theorem parse_of_foldlM {pattern : String} {s : Parser.State}
    (h : pattern.toList.foldlM Parser.State.step .start = .ok s) :
    parse pattern = s.finish.map Glob.mk := by
  rw [parse, h]
  cases hfinish : s.finish <;> simp [bind, Except.bind, pure, Except.pure, Except.map, hfinish]

theorem parse_plain {pattern : String} (h : ∀ c ∈ pattern.toList, c ∉ wildcards) :
    parse pattern = .ok (exactly pattern.toList) := by
  obtain ⟨last, hlast⟩ := foldlM_plain h [] none
  rw [parse_of_foldlM hlast, List.append_nil]
  simp [Parser.State.finish, exactly, bind, Except.bind, pure, Except.pure, Except.map]

theorem parse_below {pattern : String} (h : ∀ c ∈ pattern.toList, c ∉ wildcards) :
    parse (pattern ++ "/**/*") = .ok (below pattern.toList) := by
  obtain ⟨last, hlast⟩ := foldlM_plain h [] none
  have hstars (tokens : List Token) : "/**/*".toList.foldlM Parser.State.step
      ⟨tokens, [], .plain, last⟩ = .ok ⟨.directoriesBetween :: tokens, [], .star, some '/'⟩ := rfl
  have hall : (pattern ++ "/**/*").toList.foldlM Parser.State.step .start = .ok
      ⟨.directoriesBetween :: (pattern.toList.map .literal).reverse, [], .star, some '/'⟩ := by
    rw [String.toList_append, List.foldlM_append, Parser.State.start, hlast, List.append_nil]
    exact hstars _
  rw [parse_of_foldlM hall]
  simp [Parser.State.finish, Parser.State.push, below, bind, Except.bind, pure, Except.pure,
    Except.map]

theorem parse_everything : parse "**/*" = .ok everything := rfl

end Reading

/-! ## Matching -/

section Matching

namespace Marks

/-- No place is marked. -/
def nowhere (text : List UInt8) : Marks := false :: text.map fun _ => false

theorem zipWith_nowhere (p : UInt8 → Bool) (text : List UInt8) :
    (nowhere text).zipWith (fun mark b => mark && p b) text = text.map fun _ => false := by
  induction text with
  | nil => rfl
  | cons b text ih => exact congrArg (false :: ·) ih

theorem getLast?_nowhere (text : List UInt8) : (nowhere text).getLast? = some false := by
  rw [nowhere, List.getLast?_cons, List.getLast?_map]
  cases text.getLast? <;> rfl

theorem behindByte_start (p : UInt8 → Bool) (b : UInt8) (text : List UInt8) :
    behindByte p (b :: text) (start (b :: text)) =
      false :: if p b then start text else nowhere text := by
  have hstart : behindByte p (b :: text) (start (b :: text)) =
      false :: p b :: (nowhere text).zipWith (fun mark b => mark && p b) text := rfl
  rw [hstart, zipWith_nowhere]
  cases p b <;> rfl

theorem behindDirectories_cons (b : UInt8) (text : List UInt8) (marks : Marks) :
    behindDirectories (b :: text) (false :: marks) = false :: behindDirectories text marks := rfl

theorem behindName_cons (b : UInt8) (text : List UInt8) (marks : Marks) :
    behindName false (b :: text) (false :: marks) = false :: behindName false text marks := rfl

/-! Where nothing is marked, nothing is reached. -/

theorem behindSlashes_nowhere (text : List UInt8) :
    behindSlashes false text (nowhere text) = text.map fun _ => false := by
  induction text with
  | nil => rfl
  | cons b text ih => exact congrArg (false :: ·) ih

theorem behindDirectories_nowhere (text : List UInt8) :
    behindDirectories text (nowhere text) = nowhere text := by
  rw [behindDirectories, behindSlashes_nowhere, ← nowhere, union]
  simp [nowhere]

theorem behindName_nowhere (text : List UInt8) :
    behindName false text (nowhere text) = nowhere text := by
  induction text with
  | nil => rfl
  | cons b text ih => exact congrArg (false :: ·) ih

/-! From the start, whole directories end behind every slash, and so a name can reach the end. -/

theorem behindSlashes_true (text : List UInt8) {marks : Marks}
    (h : text.length ≤ marks.length) :
    behindSlashes true text marks = text.map fun b => decide (b = slash) := by
  induction text generalizing marks with
  | nil => rfl
  | cons b text ih =>
    cases marks with
    | nil => simp at h
    | cons mark marks =>
      simp only [behindSlashes, Bool.true_or, Bool.true_and, List.map_cons,
        ih (Nat.le_of_succ_le_succ h)]

theorem behindDirectories_start (text : List UInt8) :
    behindDirectories text (start text) = true :: text.map fun b => decide (b = slash) := by
  have hslashes : behindSlashes false text (start text) =
      text.map fun b => decide (b = slash) := by
    cases text with
    | nil => rfl
    | cons b text =>
      simp only [start, behindSlashes, Bool.or_true, Bool.true_and, List.map_cons]
      rw [behindSlashes_true text (by simp)]
  rw [behindDirectories, hslashes, start, union, List.zipWith_cons_cons, Bool.or_false,
    List.zipWith_map]
  simp

theorem getLast?_behindName {mark reached : Bool} (h : (mark || reached) = true)
    (text : List UInt8) :
    (behindName reached text (mark :: text.map fun b => decide (b = slash))).getLast? =
      some true := by
  induction text generalizing mark reached with
  | nil => simp [behindName, h]
  | cons b text ih =>
    have hnow : (decide (b = slash) || (true && decide (b ≠ slash))) = true := by simp
    simp only [behindName, List.map_cons, h, List.getLast?_cons, ih hnow]
    rfl

end Marks

theorem matchesFrom_nil {text : List UInt8} : matchesFrom [] text = true ↔ text = [] := by
  have hend : matchesFrom [] text = (Marks.start text).getLast?.any id := rfl
  cases text with
  | nil => simp [hend, Marks.start]
  | cons b text =>
    have hlast : (Marks.start (b :: text)).getLast? = some false := by
      rw [Marks.start, List.getLast?_cons, List.map_cons, ← Marks.nowhere, Marks.getLast?_nowhere]
      rfl
    simp [hend, hlast]

theorem matchesFrom_everything (text : List UInt8) :
    matchesFrom [.directoriesBefore, .star] text = true := by
  have hmarks : matchesFrom [.directoriesBefore, .star] text =
      ((Marks.start text).behindDirectories text |>.behindName false text).getLast?.any id := rfl
  rw [hmarks, Marks.behindDirectories_start, Marks.getLast?_behindName (Bool.or_false true)]
  rfl

theorem matchesFrom_below {text : List UInt8} :
    matchesFrom [.directoriesBetween, .star] text = true ↔ bytesOf '/' <+: text := by
  have hmarks : matchesFrom [.directoriesBetween, .star] text =
      (((Marks.start text).behindByte (· = slash) text).behindDirectories text
        |>.behindName false text).getLast?.any id := rfl
  have hslash : bytesOf '/' = [slash] := bytesOf_eq '/'
  cases text with
  | nil => simp [hmarks, hslash, Marks.start, Marks.behindByte, Marks.behindDirectories,
      Marks.union, Marks.behindName]
  | cons b text =>
    rw [hmarks, hslash, Marks.behindByte_start, Marks.behindDirectories_cons,
      Marks.behindName_cons, List.getLast?_cons, List.cons_prefix_cons]
    by_cases hb : b = slash
    · simp [hb, Marks.behindDirectories_start, Marks.getLast?_behindName]
    · simp [hb, Ne.symm hb, Marks.behindDirectories_nowhere, Marks.behindName_nowhere,
        Marks.getLast?_nowhere]

/-- Literals match a text that begins with them, and what is behind them the rest of it. -/
theorem matchesFrom_literals {own text : List Char} {tokens : List Token} :
    matchesFrom (own.map .literal ++ tokens) (Text.bytes text) = true ↔
      ∃ more, text = own ++ more ∧ matchesFrom tokens (Text.bytes more) = true := by
  induction own generalizing text with
  | nil => simp
  | cons c own ih =>
    rw [List.map_cons, List.cons_append, matchesFrom, Bool.and_eq_true,
      List.isPrefixOf_iff_prefix, isPrefix_bytes]
    constructor
    · rintro ⟨⟨text, rfl⟩, hrest⟩
      rw [bytes_cons, List.drop_left, ih] at hrest
      obtain ⟨more, rfl, hmore⟩ := hrest
      exact ⟨more, rfl, hmore⟩
    · rintro ⟨more, rfl, hmore⟩
      refine ⟨⟨own ++ more, rfl⟩, ?_⟩
      rw [List.cons_append, bytes_cons, List.drop_left, ih]
      exact ⟨more, rfl, hmore⟩

end Matching

/-! ## Globs -/

section Globs

variable {own : List Char} {text : String}

theorem literals?_map (own : List Char) : literals? (own.map .literal) = some own := by
  induction own with
  | nil => rfl
  | cons c own ih =>
    rw [literals?] at ih
    rw [literals?, List.map_cons, List.mapM_cons, ih]
    rfl

theorem shape_exactly (own : List Char) : (exactly own).shape = .text := by
  have hliterals := literals?_map own
  cases own with
  | nil => rfl
  | cons c own =>
    rw [List.map_cons] at hliterals
    simp [shape, exactly, hliterals]

theorem literals?_below (own : List Char) : literals? (below own).tokens = none := by
  have hliterals := literals?_map own
  rw [literals?] at hliterals
  simp [below, literals?, List.mapM_append, hliterals, Token.literal?]

theorem shape_below (own : List Char) : (below own).shape = .path := by
  have hliterals := literals?_below own
  have hlast : (below own).tokens.getLast? = some .star := by simp [below]
  have hend : endsInExtension (below own).tokens = false := by
    simp [below, endsInExtension, Token.literal?]
  cases own with
  | nil => rfl
  | cons c own =>
    rw [below, List.map_cons, List.cons_append] at hliterals hlast hend
    simp [shape, below, hliterals, hlast, hend]

theorem isMatch_of_shape {g : Glob} (hname : g.shape ≠ .name) (hextension : g.shape ≠ .extension) :
    g.isMatch text = matchesAll g.tokens (Text.bytes text.toList) := by
  rw [← toList_toUTF8]
  simp [isMatch, hname, hextension]

theorem isMatch_exactly : (exactly own).isMatch text = true ↔ text.toList = own := by
  have hmatch : (exactly own).isMatch text =
      matchesFrom (own.map .literal ++ []) (Text.bytes text.toList) := by
    rw [isMatch_of_shape (by simp [shape_exactly]) (by simp [shape_exactly]), List.append_nil]
    cases own <;> rfl
  rw [hmatch, matchesFrom_literals]
  constructor
  · rintro ⟨more, htext, hmore⟩
    rw [htext, bytes_eq_nil_iff.1 (matchesFrom_nil.1 hmore), List.append_nil]
  · intro htext
    exact ⟨[], by rw [htext, List.append_nil], matchesFrom_nil.2 rfl⟩

theorem isMatch_below : (below own).isMatch text = true ↔ own ++ ['/'] <+: text.toList := by
  have hmatch : (below own).isMatch text =
      matchesFrom (own.map .literal ++ [.directoriesBetween, .star]) (Text.bytes text.toList) := by
    rw [isMatch_of_shape (by simp [shape_below]) (by simp [shape_below])]
    cases own <;> rfl
  simp only [hmatch, matchesFrom_literals, matchesFrom_below, isPrefix_bytes]
  constructor
  · rintro ⟨_, htext, more, rfl⟩
    exact ⟨more, by rw [htext, List.append_assoc, List.singleton_append]⟩
  · rintro ⟨more, htext⟩
    exact ⟨_, by rw [← htext, List.append_assoc, List.singleton_append], more, rfl⟩

theorem isMatch_everything (text : String) : everything.isMatch text = true := by
  rw [isMatch_of_shape (by decide) (by decide)]
  exact matchesFrom_everything _

end Globs

/-! ## Depth -/

section Depth

variable {globs : List Glob}

theorem tokensDepth_literals (own : List Char) (tokens : List Token) :
    tokensDepth (own.map .literal ++ tokens) = tokensDepth tokens := by
  induction own with
  | nil => rfl
  | cons c own ih =>
    rw [List.map_cons, List.cons_append, tokensDepth, ih, Token.depth, Nat.zero_max]

theorem isTooDeep_exactly (own : List Char) : (exactly own).isTooDeep = false := by
  have hdepth := tokensDepth_literals own []
  rw [List.append_nil] at hdepth
  rw [isTooDeep, depth, exactly, hdepth]
  rfl

theorem isTooDeep_below (own : List Char) : (below own).isTooDeep = false := by
  rw [isTooDeep, depth, below, tokensDepth_literals]
  rfl

theorem nestingFault?_eq_none (h : ∀ g ∈ globs, g.isTooDeep = false) :
    nestingFault? globs = none := by
  have hextension : globs.find? (fun g => g.shape = .extension && g.isTooDeep) = none := by
    rw [List.find?_eq_none]
    intro g hg
    simp [h g hg]
  have hpath : (globs.filter (·.shape = .path)).findIdx? isTooDeep = none := by
    rw [List.findIdx?_eq_none_iff]
    exact fun g hg => h g (List.mem_of_mem_filter hg)
  rw [nestingFault?, hextension, hpath]
  rfl

end Depth

end Sidecheck.Glob
