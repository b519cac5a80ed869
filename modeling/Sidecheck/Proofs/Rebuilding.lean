import Sidecheck.Proofs.Rechecking
/-!
# A store can be rebuilt from what it holds

`flatten` forgets the keys. It loses nothing if every diagnostic is about the file it is stored
under: filling a store with all of them gives the same store again (`ofList_flatten`). Keys come
back in their order because each has an entry, and no entry is empty.

What a session does to its store is a list of edits (`edits_answer`), and the new lists among
them are about their own files as long as the checker's are, since the diagnostic that stands in
for a failed check names the file. So every store that a session can reach is keyed rightly and
can be rebuilt: `keyed_and_rebuilds`.
-/

namespace Sidecheck

namespace Store

variable {s : Store} {key : Option String}

/-- Every diagnostic is about the file that it is stored under. -/
def Keyed (s : Store) : Prop := ∀ entry ∈ s.entries, ∀ d ∈ entry.2, d.file = entry.1

/-! ## The keys of a full check -/

theorem keys_add (s : Store) (d : Diagnostic) :
    (s.add d).keys = if d.file ∈ s.keys then s.keys else s.keys ++ [d.file] :=
  keys_put s d.file _

theorem keys_foldl_add_of_mem (hkey : key ∈ s.keys) {ds : List Diagnostic}
    (own : ∀ d ∈ ds, d.file = key) : (ds.foldl add s).keys = s.keys := by
  induction ds generalizing s with
  | nil => rfl
  | cons d ds ih =>
    have hd : d.file = key := own d (by simp)
    have hadd : (s.add d).keys = s.keys := by rw [keys_add, hd, if_pos hkey]
    rw [List.foldl_cons, ih (by rw [hadd]; exact hkey) (fun e he => own e (by simp [he])), hadd]

/-- The diagnostics of a new file add its key, once. -/
theorem keys_foldl_add_new (hkey : key ∉ s.keys) {ds : List Diagnostic} (hne : ds ≠ [])
    (own : ∀ d ∈ ds, d.file = key) : (ds.foldl add s).keys = s.keys ++ [key] := by
  obtain ⟨d, ds, rfl⟩ := List.exists_cons_of_ne_nil hne
  have hd : d.file = key := own d (by simp)
  have hadd : (s.add d).keys = s.keys ++ [key] := by rw [keys_add, hd, if_neg hkey]
  have hmem : key ∈ (s.add d).keys := by simp [hadd]
  rw [List.foldl_cons, keys_foldl_add_of_mem hmem (fun e he => own e (by simp [he])), hadd]

theorem keys_foldl_add_flatMap {ks : List (Option String)} {held : Option String → List Diagnostic}
    (hnodup : (s.keys ++ ks).Nodup) (filled : ∀ k ∈ ks, held k ≠ [])
    (own : ∀ k ∈ ks, ∀ d ∈ held k, d.file = k) :
    ((ks.flatMap held).foldl add s).keys = s.keys ++ ks := by
  induction ks generalizing s with
  | nil => simp
  | cons k ks ih =>
    have hk : k ∉ s.keys := fun hmem =>
      (List.nodup_append.1 hnodup).2.2 k hmem k (by simp) rfl
    have hkeys := keys_foldl_add_new hk (filled k (by simp)) (own k (by simp))
    rw [List.flatMap_cons, List.foldl_append,
      ih (by simpa [hkeys] using hnodup) (fun k' hk' => filled k' (by simp [hk']))
        (fun k' hk' => own k' (by simp [hk'])), hkeys, List.append_assoc, List.singleton_append]

/-! ## Filling a store with its own contents -/

/-- A store is its keys, with what each of them finds. -/
theorem entries_eq_map (h : s.keys.Nodup) : s.entries = s.keys.map fun k => (k, s.find k) := by
  rw [keys, List.map_map]
  conv_lhs => rw [← List.map_id s.entries]
  exact List.map_congr_left fun entry hentry => by simp [find_of_mem h hentry]

theorem Keyed.file_eq (h : s.Keyed) (hn : s.keys.Nodup) :
    ∀ k, ∀ d ∈ s.find k, d.file = k := by
  intro k d hd
  by_cases hk : k ∈ s.keys
  · obtain ⟨⟨k', ds⟩, hmem, rfl⟩ := List.mem_map.1 hk
    rw [find_of_mem hn hmem] at hd
    exact h _ hmem d hd
  · rw [find_eq_nil hk] at hd
    cases hd

/-- A full check that finds what the store holds leaves the store as it is. -/
theorem ofList_flatten (hn : s.keys.Nodup) (filled : s.Filled) (keyed : s.Keyed) :
    ofList s.flatten = s := by
  have own := keyed.file_eq hn
  have hkeys : (ofList s.flatten).keys = s.keys := by
    rw [flatten_eq_flatMap_find hn, ofList]
    exact keys_foldl_add_flatMap (by simpa [keys, empty] using hn)
      (fun k hk => find_ne_nil filled hn hk) (fun k _ => own k)
  have hfind (k : Option String) : (ofList s.flatten).find k = s.find k := by
    rw [find_ofList, filter_flatten hn own]
  have hentries : (ofList s.flatten).entries = s.entries := by
    rw [entries_eq_map (hkeys ▸ hn), entries_eq_map hn, hkeys]
    exact List.map_congr_left fun k _ => by rw [hfind]
  exact congrArg Store.mk hentries

/-! ## Stores after edits -/

/-- A new list is about its own file. -/
def Edit.IsOwn : Edit → Prop
  | update file ds => ∀ d ∈ ds, d.file = some file
  | fill _ | removeUnder _ => True

theorem keyed_afterEdits {es : List Edit} (h : ∀ e ∈ es, e.IsOwn) : (afterEdits es).Keyed := by
  intro entry hentry d hd
  have hfind := find_of_mem (dated_afterEdits es).nodup hentry
  rw [← hfind, find_afterEdits] at hd
  exact file_eq_of_mem_contents (fun file ds hmem => h _ hmem) d hd

theorem ofList_flatten_afterEdits {es : List Edit} (h : ∀ e ∈ es, e.IsOwn) :
    ofList (afterEdits es).flatten = afterEdits es :=
  ofList_flatten (dated_afterEdits es).nodup (filled_afterEdits es) (keyed_afterEdits h)

end Store

/-! ## What a session does to its store -/

namespace Session

/-- The session after calls. -/
def after (s : Session) (calls : List Call) : Session :=
  calls.foldl (fun s c => (s.answer c).session) s

/-- What the checker finds in a file is about that file. -/
def Call.IsOwn (c : Call) (root : String) : Prop :=
  ∀ file records, c.runner.checkFile root file = .ok records →
    ∀ d ∈ Record.normalizeAll c.disk records, d.file = some file

/-- The edits that a call makes. -/
def edits (s : Session) (c : Call) : List Store.Edit :=
  match c.request, s.phase with
  | .checkAll, _ =>
    match c.runner.checkProject s.root with
    | .ok records => [.fill (Record.normalizeAll c.disk records)]
    | .error _ => []
  | .handle _, .idle => []
  | .handle (.change path), .watching =>
    [.update path (diagnose c.disk c.runner path (c.runner.checkFile s.root path))]
  | .handle (.unlink path), .watching => [.update path [], .removeUnder path]

theorem edits_answer (s : Session) (c : Call) :
    (s.answer c).session.store = (s.edits c).foldl Store.Edit.apply s.store := by
  obtain ⟨disk, runner, request⟩ := c
  cases request with
  | checkAll =>
    cases hcheck : runner.checkProject s.root with
    | error e => simp [answer, edits, hcheck, s.checkAll_of_error disk hcheck]
    | ok records =>
      simp [answer, edits, hcheck, s.checkAll_of_ok disk hcheck, Store.Edit.apply]
  | handle e =>
    cases hphase : s.phase with
    | idle => simp [answer, edits, hphase, handle_of_idle hphase]
    | watching =>
      cases e <;>
        simp [answer, edits, hphase, handle_of_watching hphase, storeAfter, Store.Edit.apply,
          Runner.perform]

theorem root_answer (s : Session) (c : Call) : (s.answer c).session.root = s.root := by
  obtain ⟨disk, runner, request⟩ := c
  cases request with
  | checkAll =>
    cases hcheck : runner.checkProject s.root with
    | error e => simp [answer, s.checkAll_of_error disk hcheck]
    | ok records => simp [answer, s.checkAll_of_ok disk hcheck]
  | handle e =>
    cases hphase : s.phase with
    | idle => simp [answer, handle_of_idle hphase]
    | watching => simp [answer, handle_of_watching hphase]

/-- A file that could not be checked has a diagnostic that names it. -/
theorem file_eq_of_mem_diagnose {c : Call} {root file : String} (h : c.IsOwn root) {d : Diagnostic}
    (hd : d ∈ diagnose c.disk c.runner file (c.runner.checkFile root file)) :
    d.file = some file := by
  cases hcheck : c.runner.checkFile root file with
  | error e =>
    rw [hcheck] at hd
    obtain rfl := List.mem_singleton.1 hd
    rfl
  | ok records =>
    rw [hcheck] at hd
    exact h file records hcheck d hd

theorem isOwn_edits {s : Session} {c : Call} (h : c.IsOwn s.root) :
    ∀ e ∈ s.edits c, e.IsOwn := by
  intro e he
  unfold edits at he
  split at he
  · split at he
    · obtain rfl := List.mem_singleton.1 he
      trivial
    · cases he
  · cases he
  · obtain rfl := List.mem_singleton.1 he
    exact fun d hd => file_eq_of_mem_diagnose h hd
  · simp only [List.mem_cons, List.not_mem_nil, or_false] at he
    rcases he with rfl | rfl
    · intro d hd
      cases hd
    · trivial

/-- The store after calls is one that edits have made: a call's edits come behind those so far. -/
theorem exists_afterEdits {s : Session} {es : List Store.Edit} (hs : s.store = Store.afterEdits es)
    (hes : ∀ e ∈ es, e.IsOwn) {calls : List Call} (hcalls : ∀ c ∈ calls, c.IsOwn s.root) :
    ∃ es', (s.after calls).store = Store.afterEdits es' ∧ ∀ e ∈ es', e.IsOwn := by
  induction calls generalizing s es with
  | nil => exact ⟨es, hs, hes⟩
  | cons c calls ih =>
    obtain ⟨hc, hcalls⟩ := List.forall_mem_cons.1 hcalls
    have hstore : (s.answer c).session.store = Store.afterEdits (es ++ s.edits c) := by
      rw [edits_answer, hs]
      simp [Store.afterEdits]
    refine ih hstore ?_ (by simpa [root_answer] using hcalls)
    intro e he
    rcases List.mem_append.1 he with he | he
    · exact hes e he
    · exact isOwn_edits hc e he

/-! ## Main theorem -/

/-- Whatever a session has been asked to do and however its checks went: each diagnostic that it
holds is about the file it is stored under, and filling any store with all of them gives its own
store, with the same files in the same order and the same list for each. -/
theorem keyed_and_rebuilds (root : String) (reporter : Reporter) {calls : List Call}
    (h : ∀ c ∈ calls, c.IsOwn root) :
    let s : Session := ({ root, reporter } : Session).after calls
    (∀ entry ∈ s.store.entries, ∀ d ∈ entry.2, d.file = entry.1) ∧
      ∀ other : Store, (Store.Edit.fill s.store.flatten).apply other = s.store := by
  intro s
  have hstart : ({ root, reporter } : Session).store = Store.afterEdits [] := rfl
  obtain ⟨es, hstore, hes⟩ := exists_afterEdits hstart nofun h
  have hs : s.store = Store.afterEdits es := hstore
  rw [hs]
  exact ⟨Store.keyed_afterEdits hes, fun _ => Store.ofList_flatten_afterEdits hes⟩

/-- A linter that finds one error in each file, and cannot check `/p/d/b` on its own. -/
def erring : Runner where
  checker := .esLint
  checkProject _ := .ok [found "/p/d/b", found "/p/a", found "/p/d/b"]
  checkFile _ file := if file = "/p/d/b" then .error (.exited "eslint" 2 "") else .ok [found file]
where
  found (file : String) : Record := .lint ⟨file, [⟨none, 2, "m", none, none, none, none⟩], none⟩

/-- A failed check, a list that is replaced, and a directory that goes and comes back. -/
theorem keyed_and_rebuilds_erring :
    let call (request : Request) : Call := ⟨.empty, erring, request⟩
    let calls := [call .checkAll, call (.handle (.change "/p/d/b")),
      call (.handle (.change "/p/c")), call (.handle (.unlink "/p/d")),
      call (.handle (.change "/p/d/b"))]
    let s : Session := ({ root := "/p", reporter := { checker := .esLint } } : Session).after calls
    (∀ c ∈ calls, c.IsOwn "/p") ∧
      s.store.keys = [some "/p/a", some "/p/c", some "/p/d/b"] ∧
      ∀ other : Store, (Store.Edit.fill s.store.flatten).apply other = s.store := by
  intro call calls s
  have hown (request : Request) : (call request).IsOwn "/p" := by
    intro file records h d hd
    by_cases hfile : file = "/p/d/b"
    · simp [call, erring, hfile] at h
    · obtain rfl : [erring.found file] = records := by simpa [call, erring, hfile] using h
      obtain rfl := List.mem_singleton.1 hd
      rfl
  have hcalls : ∀ c ∈ calls, c.IsOwn "/p" := by
    simp [calls, hown]
  exact ⟨hcalls, by decide, (keyed_and_rebuilds "/p" { checker := .esLint } hcalls).2⟩

end Session

end Sidecheck
