import Sidecheck.Proofs.RoundTrip
/-!
# Every line is hung up

The lines below a header may be indented in any way. Each of them is hung up behind all that hang
already, as deep as it wants to be but no deeper than right below the one before it: that one is the
last in preorder, and the way to a line's place only ever leads through last elaborations
(`MessageTree.preorder_hang`). So no line is lost or moved, and the depths come from a scan of those
that the lines want: `Listing.buildMessage_preorder`.
-/

namespace Sidecheck

namespace MessageTree

/-- Where a message hangs behind another: as deep as it wants to be, up to right below. -/
def behind (before e : Nat × String) : Nat × String := (min e.1 (before.1 + 1), e.2)

theorem preorderAll_append (depth : Nat) (xs ys : List MessageTree) :
    preorderAll depth (xs ++ ys) = preorderAll depth xs ++ preorderAll depth ys := by
  induction xs with
  | nil => rfl
  | cons x xs ih => rw [List.cons_append, preorderAll, preorderAll, ih, List.append_assoc]

theorem preorder_node_append (top : String) (trees : List MessageTree) (last : MessageTree) :
    (node top (trees ++ [last])).preorder 0 =
      ((0, top) :: preorderAll 1 trees) ++ (last.preorder 0).map lower := by
  have hlast := preorderAll_succ 0 [last]
  simp only [preorderAll, List.append_nil] at hlast
  rw [preorder, preorderAll_append, preorderAll, preorderAll, List.append_nil, hlast]
  rfl

theorem exists_preorder_eq_append (tree : MessageTree) :
    ∃ init before, tree.preorder 0 = init ++ [before] := by
  obtain ⟨top, below⟩ := tree
  have hne : (node top below).preorder 0 ≠ [] := by simp [preorder]
  exact ⟨_, _, (List.dropLast_concat_getLast hne).symm⟩

/-- A first elaboration hangs right below the top, whatever depth it wants. -/
theorem hang_leaf (top : String) (e : Nat × String) :
    (node top []).hang e = node top [node e.2 []] := by
  obtain ⟨depth, text⟩ := e
  match depth with
  | 0 => rfl
  | 1 => rfl
  | depth + 2 => rfl

/-- A message comes behind all that hang already. The induction is on the depth that it wants: one
step down leads to the last elaboration, where everything is one level less deep. -/
theorem preorder_hang {tree : MessageTree} {init : List (Nat × String)} {before e : Nat × String}
    (htree : tree.preorder 0 = init ++ [before]) (he : 1 ≤ e.1) :
    (tree.hang e).preorder 0 = tree.preorder 0 ++ [behind before e] := by
  obtain ⟨depth, text⟩ := e
  obtain ⟨wanted, rfl⟩ := Nat.exists_eq_add_of_le' he
  clear he
  induction wanted generalizing tree init before with
  | zero =>
    obtain ⟨top, below⟩ := tree
    have hhang : (node top below).hang (1, text) = node top (below ++ [node text []]) := rfl
    rw [hhang, preorder_node_append]
    simp [preorder, preorderAll, lower, behind]
  | succ wanted ih =>
    obtain ⟨top, below⟩ := tree
    rcases List.eq_nil_or_concat below with rfl | ⟨trees, last, rfl⟩
    · obtain ⟨rfl, rfl⟩ : init = [] ∧ before = (0, top) := by
        simpa [preorder, preorderAll, eq_comm, List.append_eq_singleton_iff] using htree
      rw [hang_leaf]
      simp [preorder, preorderAll, behind]
    · rw [List.concat_eq_append] at htree ⊢
      obtain ⟨init', before', hlast⟩ := exists_preorder_eq_append last
      have hbefore : before = lower before' := by
        rw [preorder_node_append, hlast, List.map_append, ← List.append_assoc] at htree
        exact (List.singleton_inj.1 (List.append_inj' htree rfl).2).symm
      have hdeeper := hang_lower top trees last (e := (wanted + 1, text)) (Nat.succ_pos wanted)
      rw [lower] at hdeeper
      rw [hdeeper, preorder_node_append, preorder_node_append, ih hlast, hbefore]
      simp [lower, behind]

theorem preorder_foldl_hang {tree : MessageTree} {init : List (Nat × String)}
    {before : Nat × String} (htree : tree.preorder 0 = init ++ [before])
    {es : List (Nat × String)} (hes : ∀ e ∈ es, 1 ≤ e.1) :
    (es.foldl hang tree).preorder 0 = init ++ es.scanl behind before := by
  induction es generalizing tree init before with
  | nil => simpa using htree
  | cons e es ih =>
    obtain ⟨he, hes⟩ := List.forall_mem_cons.1 hes
    have hhang := preorder_hang htree he
    rw [htree] at hhang
    rw [List.foldl_cons, ih hhang hes, List.scanl_cons, List.append_assoc, List.singleton_append]

/-! ## Depths and texts apart -/

theorem map_fst_scanl_behind (before : Nat × String) (es : List (Nat × String)) :
    (es.scanl behind before).map (·.1) =
      (es.map (·.1)).scanl (fun above wanted => min wanted (above + 1)) before.1 := by
  induction es generalizing before with
  | nil => rfl
  | cons e es ih =>
    rw [List.scanl_cons, List.map_cons, ih, List.map_cons, List.scanl_cons]
    rfl

theorem map_snd_scanl_behind (before : Nat × String) (es : List (Nat × String)) :
    (es.scanl behind before).map (·.2) = before.2 :: es.map (·.2) := by
  induction es generalizing before with
  | nil => rfl
  | cons e es ih =>
    rw [List.scanl_cons, List.map_cons, ih]
    rfl

end MessageTree

/-! ## Main theorem -/

namespace Listing

/-- A header without lines below it is a plain message. Otherwise the messages of the tree in
preorder are the header's and those of the lines in their order, each once, and the depth of each is
the one that it wants or, if that is less, one more than the depth of the message before it. -/
theorem buildMessage_preorder (head : String) {details : List (Nat × String)}
    (h : ∀ e ∈ details, 1 ≤ e.1) :
    buildMessage head [] = .plain head ∧
    (details ≠ [] → ∃ tree, buildMessage head details = .tree tree ∧
      (tree.preorder 0).map (·.2) = head :: details.map (·.2) ∧
      (tree.preorder 0).map (·.1) =
        (details.map (·.1)).scanl (fun before wanted => min wanted (before + 1)) 0) := by
  refine ⟨rfl, fun hne => ⟨details.foldl MessageTree.hang (.node head []), ?_, ?_⟩⟩
  · have hsome : details.isEmpty = false := by simpa using hne
    rw [buildMessage, hsome]
    rfl
  · have hhead : (MessageTree.node head []).preorder 0 = [] ++ [(0, head)] := rfl
    rw [MessageTree.preorder_foldl_hang hhead h, List.nil_append, MessageTree.map_snd_scanl_behind,
      MessageTree.map_fst_scanl_behind]
    exact ⟨rfl, rfl⟩

/-- Lines that jump down by more than one level and come up again. -/
theorem buildMessage_preorder_jumps :
    let details := [(5, "a"), (2, "b"), (7, "c"), (1, "d"), (3, "e")]
    (∀ e ∈ details, 1 ≤ e.1) ∧ ∃ tree, buildMessage "head" details = .tree tree ∧
      (tree.preorder 0).map (·.2) = ["head", "a", "b", "c", "d", "e"] ∧
      (tree.preorder 0).map (·.1) = [0, 1, 2, 3, 1, 2] := by
  intro details
  have hone : ∀ e ∈ details, 1 ≤ e.1 := by decide
  obtain ⟨tree, htree, htexts, hdepths⟩ :=
    (buildMessage_preorder "head" hone).2 (List.cons_ne_nil _ _)
  exact ⟨hone, tree, htree, htexts, hdepths.trans (by decide)⟩

end Listing

end Sidecheck
