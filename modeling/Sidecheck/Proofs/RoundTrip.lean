import Sidecheck.Proofs.Heading
/-!
# Listings are read as they are printed

The printer and the reader of a listing know nothing of each other: one goes through the trees of
messages and indents, the other cuts lines and counts blanks. They agree all the same. Line by
line the reader finds the blocks that were printed (`blocks_print`), the depths in a block are
those of the tree in preorder, and hanging each message under the last one above it builds the
tree again (`foldl_hang_preorderAll`). Together this is `records_print`.
-/

namespace Sidecheck

/-! ## Trees from their preorder -/

namespace MessageTree

/-- Adds a message with its depth. -/
def hang (tree : MessageTree) (e : Nat × String) : MessageTree := tree.attach e.2 e.1

/-- A message, one level further down. -/
def lower (e : Nat × String) : Nat × String := (e.1 + 1, e.2)

/-- Trees one level further down have their messages one level further down. -/
theorem preorderAll_succ (depth : Nat) : (trees : List MessageTree) →
    preorderAll (depth + 1) trees = (preorderAll depth trees).map lower
  | [] => rfl
  | .node text below :: rest => by
    simp only [preorderAll, preorder, List.map_cons, List.map_append, lower,
      preorderAll_succ (depth + 1) below, preorderAll_succ depth rest]

theorem le_of_mem_preorderAll {e : Nat × String} (depth : Nat) : (trees : List MessageTree) →
    e ∈ preorderAll depth trees → depth ≤ e.1
  | [], h => by cases h
  | .node text below :: rest, h => by
    simp only [preorderAll, preorder, List.cons_append, List.mem_cons, List.mem_append] at h
    rcases h with rfl | h | h
    · exact Nat.le_refl _
    · exact Nat.le_of_succ_le (le_of_mem_preorderAll (depth + 1) below h)
    · exact le_of_mem_preorderAll depth rest h

/-- What is lowered goes below the last tree. -/
theorem hang_lower (top : String) (trees : List MessageTree) (last : MessageTree)
    {e : Nat × String} (he : 1 ≤ e.1) :
    (node top (trees ++ [last])).hang (lower e) = node top (trees ++ [last.hang e]) := by
  rcases e with ⟨depth, text⟩
  cases depth with
  | zero => exact absurd he (Nat.not_succ_le_zero 0)
  | succ depth => simp [hang, lower, attach]

theorem foldl_hang_lower (top : String) (trees : List MessageTree) (last : MessageTree)
    {es : List (Nat × String)} (hes : ∀ e ∈ es, 1 ≤ e.1) :
    (es.map lower).foldl hang (node top (trees ++ [last])) =
      node top (trees ++ [es.foldl hang last]) := by
  induction es generalizing last with
  | nil => rfl
  | cons e es ih =>
    obtain ⟨he, hes⟩ := List.forall_mem_cons.1 hes
    rw [List.map_cons, List.foldl_cons, hang_lower top trees last he, ih _ hes, List.foldl_cons]

/-- Hanging up the messages of trees in preorder builds the trees. -/
theorem foldl_hang_preorderAll (top : String) (done : List MessageTree) :
    (trees : List MessageTree) →
    (preorderAll 1 trees).foldl hang (node top done) = node top (done ++ trees)
  | [] => by simp [preorderAll]
  | .node text below :: rest => by
    have hfirst : (node top done).hang (1, text) = node top (done ++ [node text []]) := rfl
    have hbelow := foldl_hang_preorderAll text [] below
    rw [preorderAll, preorder, List.cons_append, List.foldl_cons, hfirst, List.foldl_append,
      preorderAll_succ 1 below,
      foldl_hang_lower top done _ fun e he => le_of_mem_preorderAll 1 below he, hbelow,
      List.nil_append, foldl_hang_preorderAll top _ rest, List.append_assoc, List.singleton_append]

end MessageTree

namespace Message

/-- The message at the top. -/
def head : Message → String
  | .plain text => text
  | .tree t => t.text

/-- The messages below it in their order, each with its depth. -/
def details : Message → List (Nat × String)
  | .plain _ => []
  | .tree t => MessageTree.preorderAll 1 t.elaborations

/-- A message without elaborations is a plain one, for a listing shows no difference. -/
def simplified : Message → Message
  | .tree (.node text []) => .plain text
  | m => m

theorem one_le_of_mem_details {m : Message} {e : Nat × String} (h : e ∈ m.details) : 1 ≤ e.1 := by
  cases m with
  | plain text => cases h
  | tree t => exact MessageTree.le_of_mem_preorderAll 1 t.elaborations h

end Message

namespace Listing

/-- Reading the messages of a message gives it back. -/
theorem buildMessage_head_details (m : Message) :
    buildMessage m.head m.details = m.simplified := by
  unfold buildMessage
  match m with
  | .plain text => rfl
  | .tree (.node text []) => rfl
  | .tree (.node text (t :: trees)) =>
    have hsome : ((Message.tree (.node text (t :: trees))).details.isEmpty) = false := by
      rcases t with ⟨first, below⟩
      rfl
    rw [hsome]
    exact congrArg Message.tree (MessageTree.foldl_hang_preorderAll text [] (t :: trees))

/-! ## Lines -/

/-- The line of a message below another. -/
def indented (e : Nat × String) : List Char := List.replicate (2 * e.1) ' ' ++ e.2.toList

/-- A message that can stand below another: one line, with something on it but blanks at either
end. -/
structure Neat (text : String) : Prop where
  ne_nil : text.toList ≠ []
  oneLine : '\n' ∉ text.toList
  trimmed : Text.trim text.toList = text.toList

/-- Text of lines, each with a line feed behind it. -/
def ended (lines : List (List Char)) : List Char := lines.flatMap (· ++ ['\n'])

theorem outputLines_ended {lines : List (List Char)}
    (h : ∀ line ∈ lines, '\n' ∉ line ∧ Text.dropReturn line = line) :
    Text.outputLines (ended lines) = lines := by
  induction lines with
  | nil => rfl
  | cons line lines ih =>
    obtain ⟨⟨hline, hreturn⟩, hlines⟩ := List.forall_mem_cons.1 h
    rw [ended, List.flatMap_cons, List.append_assoc, List.singleton_append,
      Text.outputLines_append_cons hline, hreturn]
    exact congrArg _ (ih hlines)

/-- Between lines or behind them, line feeds make the same text if one more follows. -/
theorem intercalate_ended (line : List Char) (lines : List (List Char)) :
    ['\n'].intercalate (line :: lines) ++ ['\n'] = ended (line :: lines) := by
  induction lines generalizing line with
  | nil => simp [ended]
  | cons next lines ih =>
    rw [List.intercalate_cons_cons, List.append_assoc, List.append_assoc, ih next]
    simp [ended]

theorem flatten_ended (m : Message) :
    m.flatten.toList ++ ['\n'] = ended (m.head.toList :: m.details.map indented) := by
  rw [← intercalate_ended]
  cases m with
  | plain text => simp [Message.flatten, Message.head, Message.details]
  | tree t =>
    rcases t with ⟨text, below⟩
    simp only [Message.flatten, Message.head, Message.details, MessageTree.preorder,
      MessageTree.text, MessageTree.elaborations, String.toList_intercalate, List.map_cons,
      List.map_map]
    have htop : (String.ofList (List.replicate (2 * 0) ' ') ++ text).toList = text.toList := by
      simp
    have hbelow : (String.toList ∘ fun e : Nat × String =>
        String.ofList (List.replicate (2 * e.1) ' ') ++ e.2) = indented := by
      funext e
      simp [indented]
    rw [htop, hbelow]
    rfl

theorem byteLength_blanks (n : Nat) : Text.byteLength (List.replicate n ' ') = n := by
  induction n with
  | zero => rfl
  | succ n ih =>
    rw [List.replicate_succ, Text.byteLength_cons, ih, Nat.add_comm]
    rfl

section Indented

variable {e : Nat × String}

theorem oneLine_indented (he : Neat e.2) : '\n' ∉ indented e := by
  simp [indented, he.oneLine]

theorem dropReturn_indented (he : Neat e.2) : Text.dropReturn (indented e) = indented e := by
  refine Text.dropReturn_append ?_ he.trimmed
  rw [List.getLast?_replicate]
  split <;> decide

theorem trimStart_indented (he : Neat e.2) : Text.trimStart (indented e) = e.2.toList := by
  have hblank : ∀ c ∈ List.replicate (2 * e.1) ' ', Text.isBlank c = true := by
    intro c hc
    rw [List.eq_of_mem_replicate hc]
    rfl
  rw [Text.trimStart, indented, List.dropWhile_append_of_pos hblank]
  exact (Text.trimStart_trimEnd_of_trim he.trimmed).1

theorem allBlank_indented (he : Neat e.2) : Text.allBlank (indented e) = false := by
  obtain ⟨c, hc⟩ := Option.isSome_iff_exists.1 (List.getLast?_isSome.2 he.ne_nil)
  refine List.all_eq_false.2 ⟨c, List.mem_append_right _ (List.mem_of_getLast? hc), ?_⟩
  rw [Text.isBlank_of_getLast? (Text.trimStart_trimEnd_of_trim he.trimmed).2 hc]
  exact Bool.false_ne_true

theorem isBelow_indented (h : 1 ≤ e.1) : isBelow (indented e) = true := by
  obtain ⟨n, hn⟩ : ∃ n, 2 * e.1 = n + 1 := ⟨2 * e.1 - 1, by omega⟩
  simp [isBelow, indented, hn, List.replicate_succ]

/-- The depth is half the number of blanks. -/
theorem detail_indented (h : 1 ≤ e.1) (he : Neat e.2) :
    detail (indented e) = (e.1, e.2.toList) := by
  rw [detail, trimStart_indented he, indented, Text.byteLength_append, byteLength_blanks]
  simp only [Nat.add_sub_cancel, Prod.mk.injEq, and_true]
  omega

end Indented

/-! ## Listings -/

/-- A place as it is printed. -/
def Place.print (p : Place) : String :=
  .ofList p.path ++ "(" ++ toString p.line ++ "," ++ toString p.column ++ "): "

/-- A diagnostic that is printed. -/
structure Finding where
  place? : Option Place
  severity : Severity
  code : Nat
  message : Message

namespace Finding

/-- The diagnostic as it is printed. -/
def print (f : Finding) : String :=
  f.place?.elim "" Place.print ++ f.severity.name ++ " TS" ++ toString f.code ++ ": " ++
    f.message.flatten ++ "\n"

/-- The header of the diagnostic. -/
def header (f : Finding) : Header := ⟨f.place?, f.severity, f.code, f.message.head.toList⟩

/-- The diagnostic can be printed so that it is read again. -/
structure Printable (f : Finding) : Prop where
  header : f.header.Printable
  details : ∀ e ∈ f.message.details, Neat e.2

/-- The diagnostic as a block of a listing. -/
def block (f : Finding) : Block :=
  ⟨f.header, f.message.details.map fun e => (e.1, e.2.toList)⟩

/-- The lines that are printed. -/
def lines (f : Finding) : List (List Char) := f.header.written :: f.message.details.map indented

theorem toList_print (f : Finding) : f.print.toList = ended f.lines := by
  have hplace : (f.place?.elim "" Place.print).toList = f.place?.elim [] Place.written := by
    cases f.place? with
    | none => rfl
    | some p => simp [Place.print, Place.written, Place.start]
  have hmessage : f.message.flatten.toList ++ ['\n'] =
      f.message.head.toList ++ '\n' :: ended (f.message.details.map indented) := by
    rw [flatten_ended]
    simp [ended]
  simp [print, hplace, hmessage, lines, header, Header.written, Header.finding, ended]

theorem one_line_lines {f : Finding} (h : f.Printable) {line : List Char} (hl : line ∈ f.lines) :
    '\n' ∉ line ∧ Text.dropReturn line = line := by
  rcases List.mem_cons.1 hl with rfl | hl
  · exact ⟨Header.oneLine_written h.header, Header.dropReturn_written h.header⟩
  · obtain ⟨e, he, rfl⟩ := List.mem_map.1 hl
    exact ⟨oneLine_indented (h.details e he), dropReturn_indented (h.details e he)⟩

/-- Lines that belong to a block begin none. -/
theorem blocksOf_append {xs ys : List (List Char)} (h : ∀ line ∈ xs, isBelow line = true) :
    blocksOf (xs ++ ys) = blocksOf ys := by
  induction xs with
  | nil => rfl
  | cons x xs ih =>
    obtain ⟨hx, hxs⟩ := List.forall_mem_cons.1 h
    rw [List.cons_append, blocksOf, if_pos hx]
    exact ih hxs

/-- A printed diagnostic does not belong to the block before it. -/
theorem takeWhile_isBelow_lines {fs : List Finding} (h : ∀ f ∈ fs, f.Printable) :
    (fs.flatMap lines).takeWhile isBelow = [] := by
  cases fs with
  | nil => rfl
  | cons f fs =>
    have hheader := (h f List.mem_cons_self).header
    rw [List.flatMap_cons, lines, List.cons_append, List.takeWhile_cons_of_neg]
    rw [Header.isBelow_written hheader]
    exact Bool.false_ne_true

/-- The lines are read as the block. -/
theorem blocksOf_lines {fs : List Finding} (h : ∀ f ∈ fs, f.Printable) :
    blocksOf (fs.flatMap lines) = fs.map block := by
  induction fs with
  | nil => rfl
  | cons f fs ih =>
    obtain ⟨hf, hfs⟩ := List.forall_mem_cons.1 h
    have hbelow : ∀ line ∈ f.message.details.map indented, isBelow line = true := by
      intro line hline
      obtain ⟨e, he, rfl⟩ := List.mem_map.1 hline
      exact isBelow_indented (Message.one_le_of_mem_details he)
    have hkept : (f.message.details.map indented).filter (!Text.allBlank ·) =
        f.message.details.map indented := by
      refine List.filter_eq_self.2 fun line hline => ?_
      obtain ⟨e, he, rfl⟩ := List.mem_map.1 hline
      rw [allBlank_indented (hf.details e he)]
      rfl
    have hdetails : (f.message.details.map indented).map detail =
        f.message.details.map fun e => (e.1, e.2.toList) := by
      rw [List.map_map]
      exact List.map_congr_left fun e he =>
        detail_indented (Message.one_le_of_mem_details he) (hf.details e he)
    rw [List.flatMap_cons, lines, List.cons_append, blocksOf,
      if_neg (by rw [Header.isBelow_written hf.header]; exact Bool.false_ne_true),
      Header.parse?_written _ hf.header, List.takeWhile_append_of_pos hbelow,
      takeWhile_isBelow_lines hfs, List.append_nil, hkept, hdetails, blocksOf_append hbelow,
      ih hfs, List.map_cons, block]

/-- A listing that was printed is read as the blocks that were printed. -/
theorem blocks_print {fs : List Finding} (h : ∀ f ∈ fs, f.Printable) :
    blocks (String.join (fs.map print)).toList = fs.map block := by
  have hlines : (String.join (fs.map print)).toList = ended (fs.flatMap lines) := by
    simp only [String.toList_join, List.flatMap_map, toList_print, ended, List.flatMap_assoc]
  rw [blocks, hlines, outputLines_ended, blocksOf_lines h]
  intro line hline
  obtain ⟨f, hf, hline⟩ := List.mem_flatMap.1 hline
  exact one_line_lines (h f hf) hline

end Finding

/-! ## Main theorem -/

/-- Reading what was printed gives the diagnostics back, each once and in their order: the file
as seen from the root, the level, the code and the message with all that is below it. -/
theorem records_print (disk : Disk) (root : String) {fs : List Finding}
    (h : ∀ f ∈ fs, f.Printable) :
    (records disk root (String.join (fs.map Finding.print))).map
        (fun r => (r.fileName, r.category, r.code, r.message)) =
      fs.map fun f => (f.place?.map fun p => Path.join root (.ofList p.path),
        f.severity.code, f.code, f.message.simplified) := by
  simp only [records, Finding.blocks_print h, List.map_map]
  refine List.map_congr_left fun f _ => ?_
  have hid : (fun e : Nat × List Char => (e.1, String.ofList e.2)) ∘
      (fun e : Nat × String => (e.1, e.2.toList)) = id := by
    funext e
    simp
  have hmessage : buildMessage (.ofList f.message.head.toList)
      ((f.message.details.map fun e => (e.1, e.2.toList)).map fun e => (e.1, .ofList e.2)) =
      f.message.simplified := by
    rw [String.ofList_toList, List.map_map, hid, List.map_id, buildMessage_head_details]
  simp only [Function.comp, Block.record, Block.fileName?, Finding.block, Finding.header, hmessage]

/-- A message of two levels. -/
def nested : MessageTree := .node "none" [.node "one" [.node "two" []], .node "three" []]

/-- A diagnostic whose path has a blank and parentheses, and one without a place. -/
def twoFindings : List Finding :=
  [⟨some ⟨"a (1,2):b.ts".toList, 3, 14⟩, .error, 2769, .tree nested⟩,
    ⟨none, .warning, 6053, .plain "b?"⟩]

/-- Two diagnostics, printed and read. -/
theorem records_print_two :
    (records .empty "/p"
        "a (1,2):b.ts(3,14): error TS2769: none\n  one\n    two\n  three\nwarning TS6053: b?\n").map
        (fun r => (r.fileName, r.category, r.code, r.message)) =
      [(some "/p/a (1,2):b.ts", 1, 2769, .tree nested), (none, 0, 6053, .plain "b?")] := by
  have hplace : Place.Printable ⟨"a (1,2):b.ts".toList, 3, 14⟩ := by
    refine ⟨by decide, by decide, by decide, ?_, by decide, fun severity => ?_⟩
    · simp [List.infix_cons_iff]
    · cases severity <;> decide
  have hdetails : ∀ e ∈ [(1, "one"), (2, "two"), (1, "three")], Neat e.2 := by
    intro e he
    simp only [List.mem_cons, List.not_mem_nil, or_false] at he
    rcases he with rfl | rfl | rfl <;> exact ⟨by decide, by decide, by decide⟩
  have hfirst : Finding.Printable ⟨some ⟨"a (1,2):b.ts".toList, 3, 14⟩, .error, 2769,
      .tree nested⟩ :=
    ⟨⟨fun _ hp => Option.some.inj hp ▸ hplace, by decide, by decide, by decide⟩, hdetails⟩
  have hsecond : Finding.Printable ⟨none, .warning, 6053, .plain "b?"⟩ :=
    ⟨⟨nofun, by decide, by decide, by decide⟩, nofun⟩
  have h : ∀ f ∈ twoFindings, f.Printable :=
    List.forall_mem_cons.2 ⟨hfirst, List.forall_mem_singleton.2 hsecond⟩
  have htext : String.join (twoFindings.map Finding.print) =
      "a (1,2):b.ts(3,14): error TS2769: none\n  one\n    two\n  three\nwarning TS6053: b?\n" := rfl
  have hrecords := records_print .empty "/p" h
  rw [htext] at hrecords
  exact hrecords.trans rfl

end Listing

end Sidecheck
