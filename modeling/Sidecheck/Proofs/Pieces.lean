import Sidecheck.Proofs.Placing
import Sidecheck.Proofs.RoundTrip
import Sidecheck.Proofs.Spelling
/-!
# Listings in pieces

Two outputs, one behind the other, have the blocks of the first and then those of the second
(`blocks_append`): the first ends with a line, and the second begins with one that belongs to no
block above it. A record comes from its block and from the text of its file, and a file is read
once, by the text that names it first. This is all that one block can know of another, and it is too
much: where the first text of a path cannot be read and a later one could, the later one is not
tried (`records_append_iff`, `records_misread`).
-/

namespace Sidecheck

namespace Listing

/-! ## Lines -/

theorem outputLines_ended_append {lines : List (List Char)} (h : ∀ line ∈ lines, '\n' ∉ line)
    (ys : List Char) :
    Text.outputLines (ended lines ++ ys) = lines.map Text.dropReturn ++ Text.outputLines ys := by
  induction lines with
  | nil => rfl
  | cons line lines ih =>
    obtain ⟨hline, hlines⟩ := List.forall_mem_cons.1 h
    rw [ended, List.flatMap_cons, List.append_assoc, List.append_assoc, List.singleton_append,
      Text.outputLines_append_cons hline, ← ended, ih hlines, List.map_cons, List.cons_append]

/-- The text is empty or ends with a line feed. -/
def EndsLine (xs : List Char) : Prop := ∀ c ∈ xs.getLast?, c = '\n'

instance (xs : List Char) : Decidable (EndsLine xs) :=
  Option.decidableForallMem xs.getLast?

theorem EndsLine.exists_eq_ended {xs : List Char} (h : EndsLine xs) :
    ∃ lines, (∀ line ∈ lines, '\n' ∉ line) ∧ xs = ended lines := by
  rcases List.eq_nil_or_concat xs with rfl | ⟨init, c, rfl⟩
  · exact ⟨[], nofun, rfl⟩
  · obtain rfl : c = '\n' := h c (by simp)
    obtain ⟨first, more, hcut⟩ := List.exists_cons_of_ne_nil (List.splitOn_ne_nil '\n' init)
    refine ⟨first :: more, fun line hline => ?_, ?_⟩
    · rw [← hcut] at hline
      exact Text.not_mem_of_mem_splitOn hline
    · rw [← intercalate_ended, ← hcut, List.intercalate_splitOn, List.concat_eq_append]

theorem outputLines_append {xs : List Char} (h : EndsLine xs) (ys : List Char) :
    Text.outputLines (xs ++ ys) = Text.outputLines xs ++ Text.outputLines ys := by
  obtain ⟨lines, hlines, rfl⟩ := h.exists_eq_ended
  have hlast := outputLines_ended_append hlines []
  have hnil : Text.outputLines [] = [] := rfl
  rw [List.append_nil, hnil, List.append_nil] at hlast
  rw [outputLines_ended_append hlines, hlast]

/-! ## Blocks -/

/-- The first line with something on it belongs to no block above it. -/
def BeginsApart (lines : List (List Char)) : Prop :=
  ∀ line ∈ lines.find? (!Text.allBlank ·), line.head? ≠ some ' '

instance (lines : List (List Char)) : Decidable (BeginsApart lines) :=
  inferInstanceAs (Decidable (∀ line ∈ lines.find? (!Text.allBlank ·), line.head? ≠ some ' '))

theorem BeginsApart.append {xs ys : List (List Char)} (hx : BeginsApart xs) (hy : BeginsApart ys) :
    BeginsApart (xs ++ ys) := by
  intro line hline
  rw [List.find?_append, Option.mem_def, Option.or_eq_some_iff] at hline
  rcases hline with hline | ⟨-, hline⟩
  · exact hx line hline
  · exact hy line hline

/-- The lines that belong to a block above them and say something. -/
def below (lines : List (List Char)) : List (List Char) :=
  (lines.takeWhile isBelow).filter (!Text.allBlank ·)

theorem below_cons_of_blank {line : List Char} (h : Text.allBlank line = true)
    (lines : List (List Char)) : below (line :: lines) = below lines := by
  have hbelow : isBelow line = true := by simp [isBelow, h]
  rw [below, List.takeWhile_cons_of_pos hbelow, List.filter_cons_of_neg (by simp [h]), below]

theorem BeginsApart.below_eq_nil {ys : List (List Char)} (h : BeginsApart ys) : below ys = [] := by
  induction ys with
  | nil => rfl
  | cons line ys ih =>
    cases hblank : Text.allBlank line with
    | true =>
      rw [below_cons_of_blank hblank]
      exact ih (by rwa [BeginsApart, List.find?_cons_of_neg (by simp [hblank])] at h)
    | false =>
      have hhead : line.head? ≠ some ' ' := h line (by simp [hblank])
      have happart : ¬ isBelow line = true := by simp [isBelow, hblank, hhead]
      rw [below, List.takeWhile_cons_of_neg happart, List.filter_nil]

theorem below_append {ys : List (List Char)} (h : BeginsApart ys) (xs : List (List Char)) :
    below (xs ++ ys) = below xs := by
  induction xs with
  | nil => exact h.below_eq_nil
  | cons line xs ih =>
    by_cases hbelow : isBelow line = true
    · rw [below, below, List.cons_append, List.takeWhile_cons_of_pos hbelow,
        List.takeWhile_cons_of_pos hbelow, List.filter_cons, List.filter_cons]
      simp only [below] at ih
      rw [ih]
    · rw [below, below, List.cons_append, List.takeWhile_cons_of_neg hbelow,
        List.takeWhile_cons_of_neg hbelow]

theorem blocksOf_append_apart {ys : List (List Char)} (h : BeginsApart ys)
    (xs : List (List Char)) : blocksOf (xs ++ ys) = blocksOf xs ++ blocksOf ys := by
  induction xs with
  | nil => rfl
  | cons line xs ih =>
    have hbelow := below_append h xs
    simp only [below] at hbelow
    rw [List.cons_append, blocksOf, blocksOf, hbelow, ih]
    split <;> rfl

theorem blocks_append {xs ys : List Char} (hx : EndsLine xs)
    (hy : BeginsApart (Text.outputLines ys)) : blocks (xs ++ ys) = blocks xs ++ blocks ys := by
  rw [blocks, outputLines_append hx, blocksOf_append_apart hy, blocks, blocks]

/-- Lines that begin no block and belong to none. -/
def IsNoise (lines : List (List Char)) : Prop :=
  ∀ line ∈ lines, Text.allBlank line = true ∨ line.head? ≠ some ' ' ∧ Header.parse? line = none

theorem IsNoise.beginsApart {lines : List (List Char)} (h : IsNoise lines) : BeginsApart lines := by
  intro line hline
  rcases h line (List.mem_of_find?_eq_some hline) with hblank | ⟨hhead, -⟩
  · have hsome := List.find?_some hline
    simp [hblank] at hsome
  · exact hhead

theorem IsNoise.blocksOf_eq_nil {lines : List (List Char)} (h : IsNoise lines) :
    blocksOf lines = [] := by
  induction lines with
  | nil => rfl
  | cons line lines ih =>
    obtain ⟨hline, hlines⟩ := List.forall_mem_cons.1 h
    have hnone : (if isBelow line = true then none else Header.parse? line) = none := by
      rcases hline with hblank | ⟨-, hparse⟩
      · exact if_pos (by simp [isBelow, hblank])
      · rw [hparse, ite_self]
    rw [blocksOf, hnone]
    exact ih hlines

/-! ## Files -/

/-- The files that blocks name, in their order. -/
def named (root : String) (bs : List Block) : List String := bs.filterMap (Block.fileName? root)

/-- The text of a file, read by the first of the names that means it. -/
def textOf? (disk : Disk) (names : List String) (file : String) : Option String :=
  (names.find? (Path.same file)).bind fun name => (disk.readText name).toOption

/-- The record of a block among others that name files. -/
def recordAmong (disk : Disk) (root : String) (names : List String) (b : Block) : CompilerRecord :=
  b.record root ((b.fileName? root).bind (textOf? disk names))

theorem lookup_map_parts (names : List String) (file : String) :
    (names.map fun name => (Path.parts name, name)).lookup (Path.parts file) =
      names.find? (Path.same file) := by
  induction names with
  | nil => rfl
  | cons name names ih =>
    rw [List.map_cons, List.lookup_cons, List.find?_cons, ih, Path.same]
    by_cases h : Path.parts file = Path.parts name
    · simp [h]
    · simp [h, beq_eq_false_iff_ne.2 h]

theorem records_eq (disk : Disk) (root output : String) :
    records disk root output =
      (blocks output.toList).map (recordAmong disk root (named root (blocks output.toList))) := by
  simp only [records, lookup_map_parts, Option.bind_assoc]
  rfl

theorem exists_find?_same {names : List String} {file : String} (h : file ∈ names) :
    ∃ name, names.find? (Path.same file) = some name :=
  Option.isSome_iff_exists.1 (List.find?_isSome.2 ⟨file, h, decide_eq_true rfl⟩)

theorem textOf?_append_of_mem {before : List String} {file : String} (h : file ∈ before)
    (disk : Disk) (after : List String) :
    textOf? disk (before ++ after) file = textOf? disk before file := by
  obtain ⟨name, hname⟩ := exists_find?_same h
  rw [textOf?, textOf?, List.find?_append, hname, Option.some_or]

/-- Two outputs name a path first by texts of which one can be read and the other cannot. -/
def Misread (disk : Disk) (before after : List String) : Prop :=
  ∃ file ∈ after, ∃ x ∈ before.find? (Path.same file), ∃ y ∈ after.find? (Path.same file),
    (disk.readText x).isOk ≠ (disk.readText y).isOk

instance (disk : Disk) (before after : List String) : Decidable (Misread disk before after) :=
  inferInstanceAs (Decidable (∃ file ∈ after, ∃ x ∈ before.find? (Path.same file),
    ∃ y ∈ after.find? (Path.same file), (disk.readText x).isOk ≠ (disk.readText y).isOk))

theorem toOption_readText_eq_iff {disk : Disk} {x y : String} (h : Path.same x y = true) :
    (disk.readText x).toOption = (disk.readText y).toOption ↔
      (disk.readText x).isOk = (disk.readText y).isOk := by
  cases hx : disk.readText x with
  | error => cases disk.readText y <;> simp [Except.toOption, Except.isOk, Except.toBool]
  | ok s =>
    cases hy : disk.readText y with
    | error => simp [Except.toOption, Except.isOk, Except.toBool]
    | ok t => simp [Except.toOption, Except.isOk, Except.toBool, Disk.eq_of_readText h hx hy]

theorem textOf?_append_eq_iff {disk : Disk} {before after : List String} {file : String}
    (h : file ∈ after) :
    textOf? disk (before ++ after) file = textOf? disk after file ↔
      ∀ x ∈ before.find? (Path.same file), ∀ y ∈ after.find? (Path.same file),
        (disk.readText x).isOk = (disk.readText y).isOk := by
  obtain ⟨y, hy⟩ := exists_find?_same h
  rw [textOf?, textOf?, List.find?_append, hy]
  cases hx : before.find? (Path.same file) with
  | none => simp
  | some x =>
    have hfile : Path.same file x = true := List.find?_some hx
    have hfile' : Path.same file y = true := List.find?_some hy
    have hsame : Path.same x y = true :=
      decide_eq_true ((of_decide_eq_true hfile).symm.trans (of_decide_eq_true hfile'))
    simpa using toOption_readText_eq_iff hsame

/-! ## Records -/

theorem recordAmong_eq_iff (disk : Disk) (root : String) (names names' : List String) (b : Block) :
    recordAmong disk root names b = recordAmong disk root names' b ↔
      ∀ file ∈ b.fileName? root, textOf? disk names file = textOf? disk names' file := by
  constructor
  · intro h file hfile
    have htext := congrArg CompilerRecord.fileText h
    simpa [recordAmong, Block.record, Option.mem_def.1 hfile] using htext
  · intro h
    rw [recordAmong, recordAmong]
    cases hfile : b.fileName? root with
    | none => rfl
    | some file => rw [Option.bind_some, Option.bind_some, h file hfile]

theorem mem_named {root file : String} {bs : List Block} {b : Block} (hb : b ∈ bs)
    (hfile : file ∈ b.fileName? root) : file ∈ named root bs :=
  List.mem_filterMap.2 ⟨b, hb, hfile⟩

theorem map_recordAmong_append (disk : Disk) (root : String) (before : List Block)
    (names : List String) :
    before.map (recordAmong disk root (named root before ++ names)) =
      before.map (recordAmong disk root (named root before)) :=
  List.map_congr_left fun _ hb => (recordAmong_eq_iff ..).2 fun _ hfile =>
    textOf?_append_of_mem (mem_named hb hfile) disk names

theorem map_recordAmong_eq_iff (disk : Disk) (root : String) (names : List String)
    (after : List Block) :
    after.map (recordAmong disk root (names ++ named root after)) =
        after.map (recordAmong disk root (named root after)) ↔
      ¬ Misread disk names (named root after) := by
  rw [List.map_inj_left]
  simp only [recordAmong_eq_iff]
  constructor
  · rintro h ⟨file, hmem, x, hx, y, hy, hne⟩
    obtain ⟨b, hb, hfile⟩ := List.mem_filterMap.1 hmem
    exact hne ((textOf?_append_eq_iff hmem).1 (h b hb file hfile) x hx y hy)
  · intro h b hb file hfile
    have hmem := mem_named hb hfile
    refine (textOf?_append_eq_iff hmem).2 fun x hx y hy => ?_
    by_contra hne
    exact h ⟨file, hmem, x, hx, y, hy, hne⟩

/-- What a record takes from its block alone. -/
def said (r : CompilerRecord) : Option String × Message × Nat × Nat :=
  (r.fileName, r.message, r.category, r.code)

/-! ## Main theorem -/

/-- The records of two outputs, one behind the other, are those of the first and then those of the
second, exactly unless a path is misread. Even then the records of the first are what they are
alone, and those of the second say what they say alone: only the text of the file, and with it the
range, comes from what was printed before. Noise between the two changes nothing. -/
theorem records_append_iff (disk : Disk) (root : String) {a b : String} (ha : EndsLine a.toList)
    (hb : BeginsApart (Text.outputLines b.toList)) :
    (records disk root (a ++ b) = records disk root a ++ records disk root b ↔
      ¬ Misread disk (named root (blocks a.toList)) (named root (blocks b.toList))) ∧
    (∃ later, records disk root (a ++ b) = records disk root a ++ later ∧
      later.map said = (records disk root b).map said) ∧
    ∀ noise, EndsLine noise.toList → IsNoise (Text.outputLines noise.toList) →
      records disk root (a ++ noise ++ b) = records disk root (a ++ b) := by
  have hblocks : blocks (a ++ b).toList = blocks a.toList ++ blocks b.toList := by
    rw [String.toList_append, blocks_append ha hb]
  have hrecords : records disk root (a ++ b) = records disk root a ++
      (blocks b.toList).map (recordAmong disk root
        (named root (blocks a.toList) ++ named root (blocks b.toList))) := by
    rw [records_eq, hblocks, named, List.filterMap_append, ← named, ← named, List.map_append,
      map_recordAmong_append, ← records_eq]
  refine ⟨?_, ⟨_, hrecords, ?_⟩, fun noise hends hnoise => ?_⟩
  · rw [hrecords, List.append_cancel_left_eq, records_eq disk root b, map_recordAmong_eq_iff]
  · rw [records_eq disk root b, List.map_map, List.map_map]
    rfl
  · have hwith : blocks (a ++ noise ++ b).toList = blocks (a ++ b).toList := by
      have hnone : blocks noise.toList = [] := hnoise.blocksOf_eq_nil
      have htail : BeginsApart (Text.outputLines (noise.toList ++ b.toList)) := by
        rw [outputLines_append hends]
        exact hnoise.beginsApart.append hb
      rw [hblocks, String.toList_append, String.toList_append, List.append_assoc,
        blocks_append ha htail, blocks_append hends hb, hnone, List.nil_append]
    rw [records_eq, hwith, ← records_eq]

/-- A finding in a file, and another one in the same file by another text of its path. -/
theorem records_append_respelled :
    EndsLine "a(1,1): error TS1: one\n  more\n".toList ∧
    BeginsApart (Text.outputLines "./a(1,5): error TS2: two\n".toList) ∧
    EndsLine "\nFound 2 errors.\n".toList ∧
    IsNoise (Text.outputLines "\nFound 2 errors.\n".toList) ∧
    records (project "let x") "/p" ("a(1,1): error TS1: one\n  more\n" ++ "\nFound 2 errors.\n" ++
        "./a(1,5): error TS2: two\n") =
      records (project "let x") "/p" "a(1,1): error TS1: one\n  more\n" ++
        records (project "let x") "/p" "./a(1,5): error TS2: two\n" := by
  have ha : EndsLine "a(1,1): error TS1: one\n  more\n".toList := by decide +kernel
  have hb : BeginsApart (Text.outputLines "./a(1,5): error TS2: two\n".toList) := by decide +kernel
  have hends : EndsLine "\nFound 2 errors.\n".toList := by decide +kernel
  have hnoise : IsNoise (Text.outputLines "\nFound 2 errors.\n".toList) := by
    simp only [IsNoise]
    decide +kernel
  obtain ⟨hiff, -, hbetween⟩ := records_append_iff (project "let x") "/p" ha hb
  exact ⟨ha, hb, hends, hnoise, (hbetween _ hends hnoise).trans (hiff.2 (by decide +kernel))⟩

/-- A path with a slash behind the file's name cannot be read, and then the file is not read by its
right name either. -/
theorem records_misread :
    let a := "a/(1,5): error TS1: one\n"
    let b := "a(1,5): error TS2: two\n"
    let texts output := (records (project "let x") "/p" output).map fun r => (r.code, r.fileText)
    EndsLine a.toList ∧ BeginsApart (Text.outputLines b.toList) ∧
    texts a = [(1, none)] ∧ texts b = [(2, some "let x")] ∧
    texts (a ++ b) = [(1, none), (2, none)] ∧
    records (project "let x") "/p" (a ++ b) ≠
      records (project "let x") "/p" a ++ records (project "let x") "/p" b := by
  intro a b texts
  have hfirst : texts a = [(1, none)] := by decide +kernel
  have hsecond : texts b = [(2, some "let x")] := by decide +kernel
  have hboth : texts (a ++ b) = [(1, none), (2, none)] := by decide +kernel
  refine ⟨by decide +kernel, by decide +kernel, hfirst, hsecond, hboth, fun h => ?_⟩
  have htexts : texts (a ++ b) = texts a ++ texts b := by simp only [texts, h, List.map_append]
  rw [hfirst, hsecond, hboth] at htexts
  exact absurd htexts (by decide)

end Listing

end Sidecheck
