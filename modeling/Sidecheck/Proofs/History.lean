import Mathlib.Algebra.GroupWithZero.Nat
import Mathlib.Data.List.Induction
import Sidecheck.Proofs.Lookup
/-!
# The store over time

Three things change a store: a full check, a new list for one file, and the removal of a
directory. Each key has a history of its own, which can be told without the other keys: what the
edits leave under it, one after the other (`contents`), and since when it has been there without a
break (`since?`), counted in diagnostics that were put in.

The store is these histories put together. What it holds under a key is the key's contents
(`find_afterEdits`), and its entries come in the order of their times: `Dated`, which every edit
keeps (`dated_apply`). Everything else that can be seen of the store follows: `follows_afterEdits`.
-/

namespace Sidecheck.Store

/-! ## Keys -/

/-- The keys in the order of their entries. -/
def keys (s : Store) : List (Option String) := s.entries.map (·.1)

variable {s : Store} {key : Option String}

theorem hasKey_iff : s.hasKey key = true ↔ key ∈ s.keys := by
  simp [hasKey, keys]

/-- A key that is there keeps its place; a new one comes last. -/
theorem keys_put (s : Store) (key : Option String) (ds : List Diagnostic) :
    (s.put key ds).keys = if key ∈ s.keys then s.keys else s.keys ++ [key] := by
  unfold put
  by_cases h : s.hasKey key = true
  · rw [if_pos h, if_pos (hasKey_iff.1 h)]
    simp [keys]
  · rw [if_neg h, if_neg (mt hasKey_iff.2 h)]
    simp [keys]

theorem keys_filter (s : Store) (p : Option String → Bool) :
    keys ⟨s.entries.filter fun entry => p entry.1⟩ = s.keys.filter p := by
  simp only [keys, List.filter_map]
  rfl

theorem keys_update_nil (s : Store) (file : String) :
    (s.update file []).keys = s.keys.filter (· ≠ some file) :=
  keys_filter s (· ≠ some file)

theorem update_of_ne_nil (s : Store) (file : String) {ds : List Diagnostic} (h : ds ≠ []) :
    s.update file ds = s.put (some file) ds :=
  if_neg (by simpa using h)

theorem keys_removeUnder (s : Store) (dir : String) :
    (s.removeUnder dir).1.keys = s.keys.filter (!isUnder dir ·) :=
  keys_filter s (!isUnder dir ·)

/-- The number that a removal tells is that of the keys that are gone. -/
theorem snd_removeUnder (s : Store) (dir : String) :
    (s.removeUnder dir).2 = s.keys.countP (· ∉ (s.removeUnder dir).1.keys) := by
  have hgone : ∀ k ∈ s.keys, k ∉ (s.removeUnder dir).1.keys ↔ isUnder dir k = true := by
    intro k hk
    rw [keys_removeUnder, List.mem_filter]
    simp [hk]
  have hkept : (s.removeUnder dir).1.keys.length = s.keys.countP (!isUnder dir ·) := by
    rw [keys_removeUnder, List.countP_eq_length_filter]
  have hall : s.keys.length = s.keys.countP (isUnder dir) + s.keys.countP (!isUnder dir ·) := by
    simpa using s.keys.length_eq_countP_add_countP (isUnder dir)
  have hnumber : (s.removeUnder dir).2 = s.keys.length - (s.removeUnder dir).1.keys.length := by
    simp [removeUnder, keys]
  rw [List.countP_congr (q := isUnder dir) (by simpa using hgone), hnumber, hkept]
  omega

/-! ## Entries -/

/-- No entry is empty. -/
def Filled (s : Store) : Prop := ∀ entry ∈ s.entries, entry.2 ≠ []

theorem Filled.put (h : s.Filled) (key : Option String) {ds : List Diagnostic} (hds : ds ≠ []) :
    (s.put key ds).Filled := by
  unfold Store.put
  split
  · intro entry hentry
    obtain ⟨⟨k, old⟩, hmem, rfl⟩ := List.mem_map.1 hentry
    by_cases hk : k = key
    · simpa [hk] using hds
    · simpa [hk] using h _ hmem
  · intro entry hentry
    rcases List.mem_append.1 hentry with hmem | hmem
    · exact h entry hmem
    · rw [List.mem_singleton.1 hmem]
      exact hds

theorem Filled.filter (h : s.Filled) (p : Option String × List Diagnostic → Bool) :
    Filled ⟨s.entries.filter p⟩ :=
  fun entry hentry => h entry (List.mem_filter.1 hentry).1

theorem filled_ofList (ds : List Diagnostic) : (ofList ds).Filled := by
  induction ds using List.reverseRecOn with
  | nil =>
    intro entry hentry
    cases hentry
  | append_singleton ds d ih =>
    rw [ofList, List.foldl_append]
    exact ih.put d.file (by simp)

theorem Filled.isEmpty_iff (h : s.Filled) : s.isEmpty = true ↔ s.flatten = [] := by
  rw [isEmpty, List.isEmpty_iff, flatten, List.flatMap_eq_nil_iff]
  constructor
  · intro hnil entry hentry
    rw [hnil] at hentry
    cases hentry
  · intro hall
    exact List.eq_nil_iff_forall_not_mem.2 fun entry hentry => h entry hentry (hall entry hentry)

/-- A key finds its entry, as no other entry has it. -/
theorem find_of_mem (h : s.keys.Nodup) {ds : List Diagnostic} (hmem : (key, ds) ∈ s.entries) :
    s.find key = ds := by
  rcases s with ⟨entries⟩
  simp only [keys, find] at h hmem ⊢
  induction entries with
  | nil => cases hmem
  | cons entry rest ih =>
    obtain ⟨hnew, hrest⟩ := List.nodup_cons.1 h
    rcases List.mem_cons.1 hmem with rfl | hmem
    · simp
    · have hne : entry.1 ≠ key := by
        intro heq
        exact hnew (List.mem_map.2 ⟨_, hmem, heq.symm⟩)
      simpa [List.find?_cons, hne] using ih hrest hmem

theorem find_eq_nil (h : key ∉ s.keys) : s.find key = [] := by
  have hnone : s.entries.find? (·.1 = key) = none := by
    rw [List.find?_eq_none]
    intro entry hentry heq
    exact h (List.mem_map.2 ⟨entry, hentry, by simpa using heq⟩)
  simp [find, hnone]

/-- All diagnostics are those of the keys, key by key. -/
theorem flatten_eq_flatMap_find (h : s.keys.Nodup) : s.flatten = s.keys.flatMap s.find := by
  have hfind : s.entries.map (·.2) = s.entries.map fun entry => s.find entry.1 :=
    List.map_congr_left fun entry hentry => (find_of_mem h hentry).symm
  rw [flatten, keys, List.flatMap_def, List.flatMap_def, List.map_map, hfind]
  rfl

/-! ## Edits -/

/-- What changes a store. -/
inductive Edit
  /-- A full check has found these. -/
  | fill (ds : List Diagnostic)
  | update (file : String) (ds : List Diagnostic)
  | removeUnder (dir : String)

namespace Edit

/-- The store after an edit. -/
def apply (s : Store) : Edit → Store
  | fill ds => ofList ds
  | update file ds => s.update file ds
  | removeUnder dir => (s.removeUnder dir).1

/-- What an edit leaves under a key that holds something. -/
def contents (key : Option String) (held : List Diagnostic) : Edit → List Diagnostic
  | fill ds => ds.filter (·.file = key)
  | update file ds => if key = some file then ds else held
  | removeUnder dir => if isUnder dir key then [] else held

/-- How many diagnostics an edit puts in. -/
def size : Edit → Nat
  | fill ds | update _ ds => ds.length
  | removeUnder _ => 0

/-- Since when a key is there after an edit that comes at the time `now`, if before it the key was
there since `held`. A full check begins anew. -/
def since? (now : Nat) (key : Option String) (held : Option Nat) : Edit → Option Nat
  | fill ds => (ds.findIdx? (·.file = key)).map (now + ·)
  | update file ds =>
    if key = some file then (if ds = [] then none else held.or (some now)) else held
  | removeUnder dir => if isUnder dir key then none else held

/-- What a full check has found. -/
def filled? : Edit → Option (List Diagnostic)
  | fill ds => some ds
  | update .. | removeUnder _ => none

end Edit

/-- The store after edits that begin with the empty one. -/
def afterEdits (es : List Edit) : Store := es.foldl Edit.apply empty

/-- What the edits leave under a key, one after the other. -/
def contents (key : Option String) (es : List Edit) : List Diagnostic :=
  es.foldl (Edit.contents key) []

/-- The time after edits: the number of diagnostics that they have put in. -/
def clock (es : List Edit) : Nat := (es.map Edit.size).sum

/-- The time after edits, and since when a key has been there. -/
def track (key : Option String) (es : List Edit) : Nat × Option Nat :=
  es.foldl (fun t e => (t.1 + e.size, e.since? t.1 key t.2)) (0, none)

/-- Since when a key has been there without a break: the time at which it was last put in while it
was not there. -/
def since? (key : Option String) (es : List Edit) : Option Nat := (track key es).2

/-- What the last full check has found. -/
def lastFill (es : List Edit) : List Diagnostic := (es.reverse.findSome? Edit.filled?).getD []

theorem afterEdits_concat (es : List Edit) (e : Edit) :
    afterEdits (es ++ [e]) = e.apply (afterEdits es) := by
  simp [afterEdits]

theorem contents_concat (key : Option String) (es : List Edit) (e : Edit) :
    contents key (es ++ [e]) = e.contents key (contents key es) := by
  simp [contents]

theorem clock_concat (es : List Edit) (e : Edit) : clock (es ++ [e]) = clock es + e.size := by
  simp [clock]

theorem fst_track (key : Option String) (es : List Edit) : (track key es).1 = clock es := by
  induction es using List.reverseRecOn with
  | nil => rfl
  | append_singleton es e ih =>
    rw [clock_concat, ← ih]
    simp [track]

theorem since?_concat (key : Option String) (es : List Edit) (e : Edit) :
    since? key (es ++ [e]) = e.since? (clock es) key (since? key es) := by
  rw [← fst_track key]
  simp [since?, track]

/-- What is under a key is what the edits have left there. -/
theorem find_afterEdits (es : List Edit) (key : Option String) :
    (afterEdits es).find key = contents key es := by
  induction es using List.reverseRecOn with
  | nil => rfl
  | append_singleton es e ih =>
    rw [afterEdits_concat, contents_concat, ← ih]
    cases e with
    | fill ds => exact find_ofList ds key
    | update file ds => exact find_update _ file ds key
    | removeUnder dir => exact find_removeUnder _ dir key

theorem filled_afterEdits (es : List Edit) : (afterEdits es).Filled := by
  induction es using List.reverseRecOn with
  | nil =>
    intro entry hentry
    cases hentry
  | append_singleton es e ih =>
    rw [afterEdits_concat]
    cases e with
    | fill ds => exact filled_ofList ds
    | update file ds =>
      by_cases hds : ds = []
      · subst hds
        exact ih.filter _
      · rw [Edit.apply, update_of_ne_nil _ file hds]
        exact ih.put (some file) hds
    | removeUnder dir => exact ih.filter _

/-! ## The order of entries -/

/-- A key came in before another. -/
def Before (time? : Option String → Option Nat) (a b : Option String) : Prop :=
  ∃ m n, time? a = some m ∧ time? b = some n ∧ m < n

/-- The keys that are there have times before `now`, and come in the order of these. -/
structure Dated (s : Store) (time? : Option String → Option Nat) (now : Nat) : Prop where
  mem_keys : ∀ key, key ∈ s.keys ↔ (time? key).isSome = true
  lt_now : ∀ key m, time? key = some m → m < now
  sorted : s.keys.Pairwise (Before time?)

namespace Dated

variable {time? : Option String → Option Nat} {now : Nat}

theorem nodup (h : Dated s time? now) : s.keys.Nodup := by
  refine h.sorted.imp ?_
  rintro a _ ⟨m, n, hm, hn, hlt⟩ rfl
  rw [hm] at hn
  exact absurd (Option.some.inj hn) (Nat.ne_of_lt hlt)

theorem congr (h : Dated s time? now) {time?' : Option String → Option Nat}
    (heq : ∀ key, time?' key = time? key) : Dated s time?' now :=
  (funext heq : time?' = time?) ▸ h

theorem empty (now : Nat) : Dated Store.empty (fun _ => none) now where
  mem_keys key := by simp [keys, Store.empty]
  lt_now := nofun
  sorted := .nil

/-- A key that is put in keeps its time if it has one, and else comes in now. -/
theorem put (h : Dated s time? now) (key : Option String) (ds : List Diagnostic) {later : Nat}
    (hlater : now < later) :
    Dated (s.put key ds)
      (fun k => if k = key then (time? k).or (some now) else time? k) later := by
  by_cases hkey : key ∈ s.keys
  · -- Nothing changes but the entry's list.
    obtain ⟨m, hm⟩ := Option.isSome_iff_exists.1 ((h.mem_keys key).1 hkey)
    have hsame : (fun k => if k = key then (time? k).or (some now) else time? k) = time? := by
      funext k
      by_cases hk : k = key
      · simp [hk, hm]
      · simp [hk]
    rw [hsame]
    refine ⟨?_, fun k n hn => Nat.lt_trans (h.lt_now k n hn) hlater, ?_⟩
    · rw [keys_put, if_pos hkey]
      exact h.mem_keys
    · rw [keys_put, if_pos hkey]
      exact h.sorted
  · have hold : ∀ k ∈ s.keys, k ≠ key := fun k hk heq => hkey (heq ▸ hk)
    have hnone : time? key = none := by
      rw [← Option.not_isSome_iff_eq_none]
      exact fun hs => hkey ((h.mem_keys key).2 hs)
    refine ⟨fun k => ?_, fun k n hn => ?_, ?_⟩
    · rw [keys_put, if_neg hkey, List.mem_append, List.mem_singleton, h.mem_keys]
      by_cases hk : k = key <;> simp [hk]
    · by_cases hk : k = key
      · simp only [hk, hnone, Option.none_or, if_true, Option.some.injEq] at hn
        omega
      · rw [if_neg hk] at hn
        exact Nat.lt_trans (h.lt_now k n hn) hlater
    · rw [keys_put, if_neg hkey, List.pairwise_append]
      refine ⟨h.sorted.imp_of_mem fun ha hb hab => ?_, List.pairwise_singleton _ _, ?_⟩
      · simpa only [Before, if_neg (hold _ ha), if_neg (hold _ hb)] using hab
      · intro a ha b hb
        obtain rfl := List.mem_singleton.1 hb
        obtain ⟨m, hm⟩ := Option.isSome_iff_exists.1 ((h.mem_keys a).1 ha)
        exact ⟨m, now, by simp [hold a ha, hm], by simp [hnone], h.lt_now a m hm⟩

/-- Keys that go away take their times with them. -/
theorem filter (h : Dated s time? now) (p : Option String → Bool) :
    Dated ⟨s.entries.filter fun entry => p entry.1⟩
      (fun k => if p k then time? k else none) now where
  mem_keys key := by
    rw [keys_filter, List.mem_filter, h.mem_keys]
    cases p key <;> simp
  lt_now key m hm := by
    split at hm
    · exact h.lt_now key m hm
    · cases hm
  sorted := by
    rw [keys_filter]
    refine (h.sorted.filter p).imp_of_mem fun ha hb hab => ?_
    simpa only [Before, (List.mem_filter.1 ha).2, (List.mem_filter.1 hb).2, if_true] using hab

/-- A full check puts its diagnostics in one by one, each file with its first one. -/
theorem ofList (now : Nat) (ds : List Diagnostic) :
    Dated (Store.ofList ds) (fun k => (ds.findIdx? (·.file = k)).map (now + ·))
      (now + ds.length) := by
  induction ds using List.reverseRecOn with
  | nil => exact empty now
  | append_singleton ds d ih =>
    have hstep := ih.put d.file ((Store.ofList ds).find d.file ++ [d]) (Nat.lt_succ_self _)
    rw [Store.ofList, List.foldl_append, List.length_append, ← Nat.add_assoc]
    refine hstep.congr fun k => ?_
    rw [List.findIdx?_append, List.findIdx?_singleton]
    by_cases hk : k = d.file
    · subst hk
      cases ds.findIdx? (·.file = d.file) <;> simp
    · simp [hk, Ne.symm hk]

end Dated

/-- An edit keeps the entries in the order of their keys' times. -/
theorem dated_apply {es : List Edit} (h : Dated s (since? · es) (clock es)) (e : Edit) :
    Dated (e.apply s) (fun key => e.since? (clock es) key (since? key es))
      (clock es + e.size) := by
  cases e with
  | fill ds => exact .ofList (clock es) ds
  | update file ds =>
    by_cases hds : ds = []
    · subst hds
      refine (h.filter (· ≠ some file)).congr fun k => ?_
      by_cases hk : k = some file <;> simp [Edit.since?, hk]
    · have hlater : clock es < clock es + ds.length :=
        Nat.lt_add_of_pos_right (List.length_pos_iff.2 hds)
      rw [Edit.apply, update_of_ne_nil s file hds]
      refine (h.put (some file) ds hlater).congr fun k => ?_
      simp [Edit.since?, hds]
  | removeUnder dir =>
    refine (h.filter (!isUnder dir ·)).congr fun k => ?_
    by_cases hk : isUnder dir k = true <;> simp [Edit.since?, hk]

theorem dated_afterEdits (es : List Edit) :
    Dated (afterEdits es) (since? · es) (clock es) := by
  induction es using List.reverseRecOn with
  | nil => exact .empty 0
  | append_singleton es e ih =>
    rw [afterEdits_concat, clock_concat]
    simpa only [since?_concat] using dated_apply ih e

/-! ## Full checks -/

theorem mem_keys_ofList {ds : List Diagnostic} :
    key ∈ (ofList ds).keys ↔ ∃ d ∈ ds, d.file = key := by
  rw [(Dated.ofList 0 ds).mem_keys]
  simp

/-- Members sorted into distinct drawers, each into its own, are still the same members. -/
theorem flatMap_filter_perm {α κ : Type} [DecidableEq κ] (drawer : α → κ) {ks : List κ}
    (hn : ks.Nodup) : ∀ {xs : List α}, (∀ x ∈ xs, drawer x ∈ ks) →
      (ks.flatMap fun k => xs.filter (drawer · = k)).Perm xs := by
  induction ks with
  | nil =>
    intro xs h
    rw [List.eq_nil_iff_forall_not_mem.2 fun x hx => List.not_mem_nil (h x hx)]
    rfl
  | cons k ks ih =>
    intro xs h
    obtain ⟨hk, hks⟩ := List.nodup_cons.1 hn
    let others := xs.filter (drawer · ≠ k)
    have hothers : ∀ x ∈ others, drawer x ∈ ks := by
      intro x hx
      obtain ⟨hmem, hne⟩ := List.mem_filter.1 hx
      exact (List.mem_cons.1 (h x hmem)).resolve_left (by simpa using hne)
    -- What lies in the drawers behind is among the others.
    have hsame : ∀ k' ∈ ks, others.filter (drawer · = k') = xs.filter (drawer · = k') := by
      intro k' hk'
      rw [List.filter_filter]
      refine List.filter_congr fun x _ => ?_
      by_cases hx : drawer x = k'
      · have hne : k' ≠ k := fun heq => hk (heq ▸ hk')
        simp [hx, hne]
      · simp [hx]
    have hrest : (ks.flatMap fun k' => xs.filter (drawer · = k')).Perm others := by
      rw [List.flatMap_def, ← List.map_congr_left hsame, ← List.flatMap_def]
      exact ih hks hothers
    rw [List.flatMap_cons]
    refine (hrest.append_left _).trans ?_
    simpa [others] using List.filter_append_perm (drawer · = k) xs

/-- A full check's diagnostics are all in the store, each as often as it was found. -/
theorem flatten_ofList_perm (ds : List Diagnostic) : (ofList ds).flatten.Perm ds := by
  have hn := (Dated.ofList 0 ds).nodup
  have hfind : (ofList ds).find = fun key => ds.filter (·.file = key) :=
    funext (find_ofList ds)
  rw [flatten_eq_flatMap_find hn, hfind]
  exact flatMap_filter_perm (·.file) hn fun d hd => mem_keys_ofList.2 ⟨d, hd, rfl⟩

/-! ## Diagnostics by their own file -/

/-- What has no file comes from the last full check. -/
theorem contents_none (es : List Edit) :
    contents none es = (lastFill es).filter (·.file = none) := by
  induction es using List.reverseRecOn with
  | nil => rfl
  | append_singleton es e ih =>
    rw [contents_concat]
    cases e with
    | fill ds => simp [lastFill, Edit.contents, Edit.filled?, List.findSome?_cons]
    | update file ds | removeUnder dir =>
      simpa [lastFill, Edit.contents, Edit.filled?, isUnder, List.findSome?_cons] using ih

/-- If new lists are about their own files, every diagnostic is under its own key. -/
theorem file_eq_of_mem_contents {es : List Edit}
    (h : ∀ file ds, .update file ds ∈ es → ∀ d ∈ ds, d.file = some file) :
    ∀ d ∈ contents key es, d.file = key := by
  induction es using List.reverseRecOn with
  | nil => simp [contents]
  | append_singleton es e ih =>
    have hes := ih fun file ds hmem => h file ds (by simp [hmem])
    rw [contents_concat]
    cases e with
    | fill ds => simp [Edit.contents]
    | update file ds =>
      by_cases hk : key = some file
      · simpa [Edit.contents, hk] using h file ds (by simp)
      · simpa [Edit.contents, hk] using hes
    | removeUnder dir =>
      by_cases hk : isUnder dir key = true
      · simp [Edit.contents, hk]
      · simpa [Edit.contents, hk] using hes

/-- If every diagnostic is under its own key, the diagnostics of a file are those under its key. -/
theorem filter_flatten (h : s.keys.Nodup) (own : ∀ k, ∀ d ∈ s.find k, d.file = k) :
    s.flatten.filter (·.file = key) = s.find key := by
  have hfilter (k : Option String) : (s.find k).filter (·.file = key) =
      if k = key then s.find k else [] := by
    split
    · rename_i hk
      exact List.filter_eq_self.2 fun d hd => by simp [own k d hd, hk]
    · rename_i hk
      exact List.filter_eq_nil_iff.2 fun d hd => by simp [own k d hd, hk]
  rw [flatten_eq_flatMap_find h, List.filter_flatMap]
  simp only [hfilter]
  rw [flatMap_eq_of_nodup h key fun k hk => if_neg hk, if_pos rfl]
  split
  · rfl
  · rename_i hmem
    exact (find_eq_nil hmem).symm

/-! ## Main theorem -/

/-- All that can be seen of a store, told by the histories of its keys. -/
structure Follows (s : Store) (es : List Edit) : Prop where
  nodup_keys : s.keys.Nodup
  filled : s.Filled
  size : s.size = s.flatten.length
  isEmpty : s.isEmpty = true ↔ s.flatten = []
  fileCount : s.fileCount = s.keys.length
  get : ∀ file, s.get file = contents (some file) es
  find_none : s.find none = (lastFill es).filter (·.file = none)
  /-- New lists that are about their own files add nothing without a file. -/
  filter_none : (∀ file ds, .update file ds ∈ es → ∀ d ∈ ds, d.file = some file) →
    s.flatten.filter (·.file = none) = (lastFill es).filter (·.file = none)
  flatten : s.flatten = s.keys.flatMap (contents · es)
  mem_keys : ∀ key, key ∈ s.keys ↔ (since? key es).isSome = true
  sorted : s.keys.Pairwise (Before (since? · es))
  /-- A file that is there keeps its place, one that goes leaves the others in their order, and
  one that is added comes last. -/
  keys_update : ∀ file ds, (s.update file ds).keys =
    if ds = [] then s.keys.filter (· ≠ some file)
    else if some file ∈ s.keys then s.keys else s.keys ++ [some file]
  keys_removeUnder : ∀ dir, (s.removeUnder dir).1.keys = s.keys.filter (!isUnder dir ·)
  snd_removeUnder : ∀ dir,
    (s.removeUnder dir).2 = s.keys.countP (· ∉ (s.removeUnder dir).1.keys)

/-- Whatever the edits were, the store is what the histories of its keys say. -/
theorem follows_afterEdits (es : List Edit) : (afterEdits es).Follows es := by
  have hdated := dated_afterEdits es
  have hfind : (afterEdits es).find = (contents · es) := funext (find_afterEdits es)
  refine {
    nodup_keys := hdated.nodup
    filled := filled_afterEdits es
    size := size_eq_length_flatten _
    isEmpty := (filled_afterEdits es).isEmpty_iff
    fileCount := by simp [fileCount, keys]
    get := fun file => find_afterEdits es (some file)
    find_none := by rw [find_afterEdits, contents_none]
    filter_none := ?_
    flatten := by rw [flatten_eq_flatMap_find hdated.nodup, hfind]
    mem_keys := hdated.mem_keys
    sorted := hdated.sorted
    keys_update := ?_
    keys_removeUnder := fun dir => keys_removeUnder _ dir
    snd_removeUnder := fun dir => snd_removeUnder _ dir }
  · intro own
    have hown : ∀ k, ∀ d ∈ (afterEdits es).find k, d.file = k := by
      intro k d hd
      rw [find_afterEdits] at hd
      exact file_eq_of_mem_contents own d hd
    rw [filter_flatten hdated.nodup hown, find_afterEdits, contents_none]
  · intro file ds
    split
    · rename_i hds
      rw [hds, keys_update_nil]
    · rename_i hds
      rw [update_of_ne_nil _ file hds, keys_put]

/-- A file that went and came back is last, and one that got a new list stays where it was. -/
example :
    let a : Diagnostic := { checker := .esLint, message := "", file := some "/a" }
    let b : Diagnostic := { checker := .esLint, message := "", file := some "/b" }
    (afterEdits [.fill [a, b], .update "/a" [], .update "/b" [b, b], .update "/a" [a]]).keys =
      [some "/b", some "/a"] := by
  decide

end Sidecheck.Store
