import Mathlib.Data.Set.Basic
import Sidecheck.Proofs.Below
import Sidecheck.Proofs.Coalescing
import Sidecheck.Watch.Watcher
/-!
# Watching comes to what a full check would find

A project's files change while a session watches them. Changes are noticed at once, but they are
taken, checked and stored one at a time and much later, and more changes may happen in between. A
`Scene` is all of this at one moment, and `Step` is anything that can happen next, so what holds of
every `Reached` scene holds for every interleaving.

`Inv` carries the proof. Of a file that events still wait for, the last of them says whether the
file is there, which is all that matters, since its text is read later. Every other file is up to
date in the store, or will be as soon as the check that is running is done. So when nothing waits,
the store holds for every file what a full check would now find: `watching_converges`. And it can
always come to that, since a watcher gives what waits: `exists_rest`.
-/

namespace Sidecheck

/-! ## Taking events -/

namespace Watcher

/-- The events that were noticed and not taken yet, the next one first. -/
def waiting (w : Watcher) : List FileEvent := w.queue ++ w.arrived

theorem waiting_arrive (w : Watcher) (es : List FileEvent) :
    (w.arrive es).waiting = w.waiting ++ es := by
  simp [waiting, arrive]

/-- Where the next event comes from: the queue, or what has arrived if the queue is empty. -/
theorem take?_cases {w w' : Watcher} {e : FileEvent} (h : w.take? = some (e, w')) :
    (w.queue = e :: w'.queue ∧ w'.arrived = w.arrived) ∨
    (w.queue = [] ∧ Queue.fresh w.arrived = e :: w'.queue ∧ w'.arrived = []) := by
  rcases w with ⟨matcher, arrived, queue⟩
  cases queue with
  | nil =>
    simp only [take?, refill, List.isEmpty_nil, if_true, Queue.pushAll_eq_fresh] at h
    cases hf : Queue.fresh arrived with
    | nil => simp [hf] at h
    | cons x rest =>
      simp only [hf, Option.some.injEq, Prod.mk.injEq] at h
      obtain ⟨rfl, rfl⟩ := h
      exact .inr ⟨rfl, rfl, rfl⟩
  | cons x rest =>
    simp only [take?, refill, List.isEmpty_cons, Bool.false_eq_true, if_false, Option.some.injEq,
      Prod.mk.injEq] at h
    obtain ⟨rfl, rfl⟩ := h
    exact .inl ⟨rfl, rfl⟩

/-- Nothing is made up. -/
theorem mem_waiting_of_take? {w w' : Watcher} {e : FileEvent} (h : w.take? = some (e, w')) :
    ∀ x ∈ e :: w'.waiting, x ∈ w.waiting := by
  intro x hx
  unfold waiting at hx ⊢
  rcases take?_cases h with ⟨hq, ha⟩ | ⟨hq, hf, ha⟩
  · rw [hq, ← ha]
    exact hx
  · rw [ha, List.append_nil, ← hf] at hx
    rw [hq, List.nil_append]
    exact (Queue.freshFrom_sublist [] w.arrived).subset hx

theorem length_waiting_of_take? {w w' : Watcher} {e : FileEvent} (h : w.take? = some (e, w')) :
    w'.waiting.length < w.waiting.length := by
  unfold waiting
  rcases take?_cases h with ⟨hq, ha⟩ | ⟨hq, hf, ha⟩
  · rw [hq, ha, List.cons_append, List.length_cons]
    exact Nat.lt_succ_self _
  · have hfresh := (Queue.freshFrom_sublist [] w.arrived).length_le
    rw [← Queue.fresh, hf, List.length_cons] at hfresh
    rw [hq, ha, List.append_nil, List.nil_append]
    exact hfresh

/-- Taking an event leaves the last words as they were. -/
theorem lastWord?_of_take? {w w' : Watcher} {e : FileEvent} {file : String}
    (h : w.take? = some (e, w')) (own : Queue.OwnWords file w.waiting) :
    lastWord? file (e :: w'.waiting) = lastWord? file w.waiting := by
  unfold waiting at own ⊢
  rcases take?_cases h with ⟨hq, ha⟩ | ⟨hq, hf, ha⟩
  · rw [hq, ← ha, List.cons_append]
  · rw [hq, List.nil_append] at own ⊢
    rw [ha, List.append_nil, ← hf]
    exact Queue.lastWord?_fresh_of_own own

end Watcher

/-! ## Files and a checker that reads them one by one -/

/-- The texts of the files that are there. -/
abbrev Contents (Text : Type) := String → Option Text

variable {Text : Type} {watched : Set String}

namespace Contents

/-- What a file's last event should say: whether it is there. -/
def word (c : Contents Text) (file : String) : Word := if (c file).isSome then .checked else .gone

/-- The contents after one file got a text, or was deleted. -/
def set (c : Contents Text) (file : String) (text : Option Text) : Contents Text :=
  fun other => if other = file then text else c other

theorem set_self (c : Contents Text) (file : String) (text : Option Text) :
    c.set file text file = text := if_pos rfl

theorem set_of_ne (c : Contents Text) {file other : String} (text : Option Text)
    (h : other ≠ file) : c.set file text other = c other := if_neg h

/-- The files that are there, each once. -/
structure Lists (names : List String) (c : Contents Text) : Prop where
  nodup : names.Nodup
  mem_iff : ∀ file, file ∈ names ↔ (c file).isSome = true

/-- A finite number of watched files and no others. -/
structure Within (watched : Set String) (c : Contents Text) : Prop where
  exists_lists : ∃ names, Lists names c
  mem_watched : ∀ file, (c file).isSome = true → file ∈ watched

theorem Lists.exists_set {names : List String} {c : Contents Text} (h : Lists names c)
    (file : String) (text : Option Text) : ∃ names, Lists names (c.set file text) := by
  cases text with
  | none =>
    refine ⟨names.filter (· ≠ file), h.nodup.filter _, fun other => ?_⟩
    by_cases ho : other = file
    · subst ho; simp [set_self]
    · simp [set_of_ne _ _ ho, ho, h.mem_iff]
  | some t =>
    by_cases hf : file ∈ names
    · refine ⟨names, h.nodup, fun other => ?_⟩
      by_cases ho : other = file
      · subst ho; simp [set_self, hf]
      · simp [set_of_ne _ _ ho, h.mem_iff]
    · refine ⟨file :: names, List.nodup_cons.2 ⟨hf, h.nodup⟩, fun other => ?_⟩
      by_cases ho : other = file
      · subst ho; simp [set_self]
      · simp [set_of_ne _ _ ho, ho, h.mem_iff]

theorem Within.set {c : Contents Text} (h : c.Within watched) {file : String} {text : Option Text}
    (hf : text.isSome = true → file ∈ watched) : (c.set file text).Within watched where
  exists_lists := by
    obtain ⟨names, hn⟩ := h.exists_lists
    exact hn.exists_set file text
  mem_watched other ho := by
    by_cases he : other = file
    · subst he
      exact hf (by rwa [set_self] at ho)
    · rw [set_of_ne _ _ he] at ho
      exact h.mem_watched other ho

end Contents

/-- A checker that judges each watched file by that file's text alone, and the project that it
runs in. A file that is there can always be checked; of one that is not, nothing is asked. -/
structure LocalChecker (watched : Set String) (Text : Type) where
  root : String
  /-- The disk while the files have certain texts. -/
  disk : Contents Text → Disk
  /-- The checks as they go while the files have certain texts. -/
  runner : Contents Text → Runner
  diagnostics : (file : String) → Text → List Diagnostic
  file_eq : ∀ file text, ∀ d ∈ diagnostics file text, d.file = some file
  checkFile : ∀ c file text, Contents.Within watched c → c file = some text →
    ∃ records, (runner c).checkFile root file = .ok records ∧
      Record.normalizeAll (disk c) records = diagnostics file text
  checkProject : ∀ c, Contents.Within watched c →
    ∃ records names, (runner c).checkProject root = .ok records ∧ Contents.Lists names c ∧
      Record.normalizeAll (disk c) records =
        names.flatMap fun file => (c file).elim [] (diagnostics file)

namespace LocalChecker

variable (k : LocalChecker watched Text)

/-- What the checker says of a file with the text that it has; nothing if it is not there. -/
def found (c : Contents Text) (file : String) : List Diagnostic :=
  (c file).elim [] (k.diagnostics file)

theorem file_eq_of_mem_found {c : Contents Text} {file : String} {d : Diagnostic}
    (h : d ∈ k.found c file) : d.file = some file := by
  unfold found at h
  cases hc : c file with
  | none => simp [hc] at h
  | some text =>
    rw [hc] at h
    exact k.file_eq file text d h

theorem found_congr {c c' : Contents Text} {file : String} (h : c file = c' file) :
    k.found c file = k.found c' file := by
  simp only [found, h]

/-- Of the diagnostics of several files, those of one file are its own. -/
theorem filter_flatMap_found (c : Contents Text) {names : List String} (hn : names.Nodup)
    (file : String) :
    (names.flatMap (k.found c)).filter (·.file = some file) =
      if file ∈ names then k.found c file else [] := by
  have own : ∀ name, (k.found c name).filter (·.file = some file) =
      if name = file then k.found c name else [] := by
    intro name
    split
    · rename_i h
      refine List.filter_eq_self.2 fun d hd => ?_
      simp [k.file_eq_of_mem_found hd, h]
    · rename_i h
      refine List.filter_eq_nil_iff.2 fun d hd => ?_
      simp [k.file_eq_of_mem_found hd, h]
  rw [List.filter_flatMap]
  simp only [own]
  rw [Store.flatMap_eq_of_nodup hn file fun name hname => if_neg hname, if_pos rfl]

/-- The store of a full check holds for every file what the checker says of it. -/
theorem exists_records (c : Contents Text) (h : c.Within watched) :
    ∃ records, (k.runner c).checkProject k.root = .ok records ∧
      ∀ file, (Store.ofList (Record.normalizeAll (k.disk c) records)).get file =
        k.found c file := by
  obtain ⟨records, names, hrun, hlists, hall⟩ := k.checkProject c h
  refine ⟨records, hrun, fun file => ?_⟩
  rw [Store.get_ofList, hall]
  refine (k.filter_flatMap_found c hlists.nodup file).trans ?_
  split
  · rfl
  · rename_i hmem
    rw [hlists.mem_iff, Bool.not_eq_true, Option.isSome_eq_false_iff, Option.isNone_iff_eq_none]
      at hmem
    simp [found, hmem]

end LocalChecker

/-! ## A project under watch -/

/-- A project whose files change, and the session that watches it. -/
structure Scene (Text : Type) where
  files : Contents Text
  watcher : Watcher
  session : Session
  /-- What the full check that is running has seen of the files so far. -/
  checking : Option (Contents Text) := none
  /-- The event that is being handled, and what its check has seen of the files. -/
  handling : Option (FileEvent × Contents Text) := none

/-- What can happen next. A check takes its time: it sees each file at some moment between its
start and its end. -/
inductive Step (k : LocalChecker watched Text) (s : Scene Text) : Scene Text → Prop
  | write {file : String} (text : Text) (h : file ∈ watched) :
    Step k s { s with
      files := s.files.set file (some text)
      watcher := s.watcher.arrive [.change file] }
  | delete {file : String} (h : file ∈ watched) :
    Step k s { s with
      files := s.files.set file none
      watcher := s.watcher.arrive [.unlink file] }
  | startCheck (h : s.session.phase = .idle) (hfree : s.checking = none) :
    Step k s { s with checking := some s.files }
  /-- The full check reads a file, perhaps again. -/
  | look {seen : Contents Text} (file : String) (h : s.checking = some seen) :
    Step k s { s with checking := some (seen.set file (s.files file)) }
  | finishCheck {seen : Contents Text} (h : s.checking = some seen) :
    Step k s { s with
      session := (s.session.checkAll (k.disk seen) (k.runner seen)).session
      checking := none }
  | receive {e : FileEvent} {w : Watcher} (h : s.session.phase = .watching)
      (hfree : s.handling = none) (htake : s.watcher.take? = some (e, w)) :
    Step k s { s with watcher := w, handling := some (e, s.files) }
  /-- The check of the event's file reads it, perhaps again. -/
  | reread {e : FileEvent} {seen : Contents Text} (h : s.handling = some (e, seen)) :
    Step k s { s with handling := some (e, s.files) }
  | finish {e : FileEvent} {seen : Contents Text} (h : s.handling = some (e, seen)) :
    Step k s { s with
      session := (s.session.handle (k.disk seen) (k.runner seen) e).session
      handling := none }

/-- The watch has just been opened, and nothing was checked yet. -/
structure Opened (k : LocalChecker watched Text) (s : Scene Text) : Prop where
  within : s.files.Within watched
  root : s.session.root = k.root
  phase : s.session.phase = .idle
  waiting : s.watcher.waiting = []
  checking : s.checking = none
  handling : s.handling = none

/-- The scenes that can come about. -/
inductive Reached (k : LocalChecker watched Text) : Scene Text → Prop
  | opened {s : Scene Text} (h : Opened k s) : Reached k s
  | step {s t : Scene Text} (h : Reached k s) (hst : Step k s t) : Reached k t

/-- No path names the same as another or lies below it. -/
def Apart (watched : Set String) : Prop :=
  ∀ p ∈ watched, ∀ q ∈ watched, p ≠ q → ¬ Path.parts p <+: Path.parts q

/-! ## Events of watched files -/

theorem Apart.eq_of_isUnder (apart : Apart watched) {p q : String} (hp : p ∈ watched)
    (hq : q ∈ watched) (h : Store.isUnder p (some q) = true) : p = q := by
  by_contra hne
  exact apart p hp q hq hne (Path.isPrefix_parts_of_isUnder h)

theorem Apart.eq_of_same (apart : Apart watched) {p q : String} (hp : p ∈ watched)
    (hq : q ∈ watched) (h : Path.same p q = true) : p = q := by
  by_contra hne
  have hparts : Path.parts p = Path.parts q := by simpa [Path.same] using h
  exact apart p hp q hq hne (hparts ▸ List.prefix_refl _)

/-- Of a watched file only its own events speak. -/
theorem path_of_word (apart : Apart watched) {e : FileEvent} {file : String}
    (he : e.path ∈ watched) (hf : file ∈ watched) (h : (e.word? file).isSome = true) :
    e.path = file := by
  cases e with
  | change path =>
    have hp : path = file := by simpa [FileEvent.word?] using h
    exact hp
  | unlink path =>
    have hp : path = file ∨ Store.isUnder path (some file) = true := by
      simpa [FileEvent.word?] using h
    exact hp.elim id (apart.eq_of_isUnder he hf)

theorem word?_eq_none (apart : Apart watched) {e : FileEvent} {file : String}
    (he : e.path ∈ watched) (hf : file ∈ watched) (h : e.path ≠ file) : e.word? file = none := by
  rw [← Option.not_isSome_iff_eq_none]
  exact fun hs => h (path_of_word apart he hf hs)

theorem ownWords (apart : Apart watched) {es : List FileEvent} (hes : ∀ e ∈ es, e.path ∈ watched)
    {file : String} (hf : file ∈ watched) : Queue.OwnWords file es where
  path_of_word e he hs := path_of_word apart (hes e he) hf hs
  path_of_same e he hs := apart.eq_of_same (hes e he) hf hs

/-! ## The invariant -/

/-- No event waits for the file. -/
def Scene.Quiet (s : Scene Text) (file : String) : Prop := lastWord? file s.watcher.waiting = none

/-- Each watched file is up to date, or the last event that waits for it says whether it is
there. A check that is running has seen of a file without such an event what it holds now. -/
structure Inv (k : LocalChecker watched Text) (s : Scene Text) : Prop where
  within : s.files.Within watched
  root : s.session.root = k.root
  idle : s.checking.isSome = true → s.session.phase = .idle
  paths : ∀ e ∈ s.watcher.waiting, e.path ∈ watched
  words : ∀ file ∈ watched, ∀ w, lastWord? file s.watcher.waiting = some w →
    w = s.files.word file
  checking : ∀ seen, s.checking = some seen → seen.Within watched ∧
    ∀ file ∈ watched, s.Quiet file → seen file = s.files file
  handling : ∀ e seen, s.handling = some (e, seen) → seen.Within watched ∧ e.path ∈ watched ∧
    ∀ file ∈ watched, s.Quiet file → ∀ w, e.word? file = some w →
      w = s.files.word file ∧ seen file = s.files file
  stored : s.session.phase = .watching → ∀ file ∈ watched, s.Quiet file →
    (∀ e seen, s.handling = some (e, seen) → e.word? file = none) →
    s.session.store.get file = k.found s.files file
  unwatched : s.session.phase = .watching → ∀ file ∉ watched, s.session.store.get file = []

theorem inv_opened {k : LocalChecker watched Text} {s : Scene Text} (h : Opened k s) : Inv k s where
  within := h.within
  root := h.root
  idle _ := h.phase
  paths e he := by simp [h.waiting] at he
  words file _ w hw := by simp [h.waiting, lastWord?] at hw
  checking seen hs := by simp [h.checking] at hs
  handling e seen hs := by simp [h.handling] at hs
  stored hp := by simp [h.phase] at hp
  unwatched hp := by simp [h.phase] at hp

variable {k : LocalChecker watched Text} {s : Scene Text}

/-- A file changes, and the event that says so waits behind all others. -/
theorem inv_set (apart : Apart watched) (hi : Inv k s) {file : String} (hf : file ∈ watched)
    (text : Option Text) {e : FileEvent} (hpath : e.path = file)
    (hword : e.word? file = some ((s.files.set file text).word file)) :
    Inv k { s with files := s.files.set file text, watcher := s.watcher.arrive [e] } := by
  have hwaiting : lastWord? file (s.watcher.arrive [e]).waiting =
      some ((s.files.set file text).word file) := by
    rw [Watcher.waiting_arrive, lastWord?_append, lastWord?_singleton, hword, Option.some_or]
  have hother : ∀ other ∈ watched, other ≠ file →
      lastWord? other (s.watcher.arrive [e]).waiting = lastWord? other s.watcher.waiting := by
    intro other ho hne
    have hnone : e.word? other = none :=
      word?_eq_none apart (hpath ▸ hf) ho (by rw [hpath]; exact Ne.symm hne)
    rw [Watcher.waiting_arrive, lastWord?_append, lastWord?_singleton, hnone, Option.none_or]
  -- A file that is quiet now is another one, and was quiet before.
  have hquiet : ∀ other ∈ watched, lastWord? other (s.watcher.arrive [e]).waiting = none →
      other ≠ file ∧ s.Quiet other := by
    intro other ho hq
    have hne : other ≠ file := by
      rintro rfl
      rw [hwaiting] at hq
      cases hq
    exact ⟨hne, (hother other ho hne).symm.trans hq⟩
  refine ⟨hi.within.set fun _ => hf, hi.root, hi.idle, ?_, ?_, ?_, ?_, ?_, hi.unwatched⟩
  · intro x hx
    rw [Watcher.waiting_arrive, List.mem_append, List.mem_singleton] at hx
    rcases hx with hx | rfl
    · exact hi.paths x hx
    · exact hpath ▸ hf
  · intro other ho w hw
    by_cases hne : other = file
    · subst hne
      rw [hwaiting] at hw
      exact (Option.some.inj hw).symm
    · rw [hother other ho hne] at hw
      rw [hi.words other ho w hw]
      simp only [Contents.word, Contents.set_of_ne _ _ hne]
  · intro seen hs
    obtain ⟨hseen, heq⟩ := hi.checking seen hs
    refine ⟨hseen, fun other ho hq => ?_⟩
    obtain ⟨hne, hq'⟩ := hquiet other ho hq
    exact (heq other ho hq').trans (Contents.set_of_ne _ _ hne).symm
  · intro x seen hs
    obtain ⟨hseen, hx, heq⟩ := hi.handling x seen hs
    refine ⟨hseen, hx, fun other ho hq w hw => ?_⟩
    obtain ⟨hne, hq'⟩ := hquiet other ho hq
    simpa only [Contents.word, Contents.set_of_ne _ _ hne] using heq other ho hq' w hw
  · intro hp other ho hq hfree
    obtain ⟨hne, hq'⟩ := hquiet other ho hq
    rw [hi.stored hp other ho hq' hfree]
    exact k.found_congr (Contents.set_of_ne _ _ hne).symm

theorem inv_startCheck (hi : Inv k s) (h : s.session.phase = .idle) :
    Inv k { s with checking := some s.files } where
  __ := hi
  idle _ := h
  checking seen hs := by
    cases hs
    exact ⟨hi.within, fun _ _ _ => rfl⟩

theorem inv_look (hi : Inv k s) {seen : Contents Text} (file : String)
    (h : s.checking = some seen) :
    Inv k { s with checking := some (seen.set file (s.files file)) } where
  __ := hi
  idle _ := hi.idle (by simp [h])
  checking now hs := by
    cases hs
    obtain ⟨hseen, heq⟩ := hi.checking seen h
    refine ⟨hseen.set (hi.within.mem_watched file), fun other ho hq => ?_⟩
    by_cases hne : other = file
    · subst hne
      exact Contents.set_self _ _ _
    · rw [Contents.set_of_ne _ _ hne]
      exact heq other ho hq

/-- The full check is done. A file that it saw too early has an event that waits. -/
theorem inv_finishCheck (hi : Inv k s) {seen : Contents Text} (h : s.checking = some seen) :
    Inv k { s with
      session := (s.session.checkAll (k.disk seen) (k.runner seen)).session
      checking := none } := by
  obtain ⟨hseen, heq⟩ := hi.checking seen h
  obtain ⟨records, hrun, hget⟩ := k.exists_records seen hseen
  have hsession : (s.session.checkAll (k.disk seen) (k.runner seen)).session =
      { s.session with
        store := Store.ofList (Record.normalizeAll (k.disk seen) records)
        phase := .watching } := by
    simp only [Session.checkAll, Runner.perform, hi.root, hrun]
  rw [hsession]
  refine { hi with idle := ?_, checking := ?_, stored := ?_, unwatched := ?_ }
  · intro hs
    cases hs
  · intro now hs
    cases hs
  · intro _ file hf hq _
    exact (hget file).trans (k.found_congr (heq file hf hq))
  · intro _ file hf
    have hnone : seen file = none := by
      rw [← Option.not_isSome_iff_eq_none]
      exact fun hs => hf (hseen.mem_watched file hs)
    refine (hget file).trans ?_
    simp [LocalChecker.found, hnone]

/-- An event is taken. If no other waits for its file, it says whether the file is there. -/
theorem inv_receive (apart : Apart watched) (hi : Inv k s) {e : FileEvent} {w : Watcher}
    (h : s.session.phase = .watching) (hfree : s.handling = none)
    (htake : s.watcher.take? = some (e, w)) :
    Inv k { s with watcher := w, handling := some (e, s.files) } := by
  have hmem := Watcher.mem_waiting_of_take? htake
  have hlast : ∀ file ∈ watched, lastWord? file s.watcher.waiting =
      (lastWord? file w.waiting).or (e.word? file) := by
    intro file hf
    rw [← Watcher.lastWord?_of_take? htake (ownWords apart hi.paths hf), ← List.singleton_append,
      lastWord?_append, lastWord?_singleton]
  refine { hi with paths := ?_, words := ?_, checking := ?_, handling := ?_, stored := ?_ }
  · intro x hx
    exact hi.paths x (hmem x (List.mem_cons_of_mem _ hx))
  · intro file hf word hw
    exact hi.words file hf word (by rw [hlast file hf, hw, Option.some_or])
  · intro seen hs
    have hidle := hi.idle (by rw [hs]; rfl)
    rw [h] at hidle
    cases hidle
  · intro x seen hs
    cases hs
    refine ⟨hi.within, hi.paths e (hmem e List.mem_cons_self), fun file hf hq word hw => ?_⟩
    exact ⟨hi.words file hf word (by rw [hlast file hf, hq, Option.none_or, hw]), rfl⟩
  · intro hp file hf hq hsilent
    have hquiet : s.Quiet file := by
      have hnone : e.word? file = none := hsilent e s.files rfl
      rw [Scene.Quiet, hlast file hf, hq, Option.none_or, hnone]
    exact hi.stored hp file hf hquiet (by simp [hfree])

theorem inv_reread (hi : Inv k s) {e : FileEvent} {seen : Contents Text}
    (h : s.handling = some (e, seen)) : Inv k { s with handling := some (e, s.files) } := by
  obtain ⟨_, hpath, heq⟩ := hi.handling e seen h
  refine { hi with handling := ?_, stored := ?_ }
  · intro x now hs
    cases hs
    exact ⟨hi.within, hpath, fun file hf hq w hw => ⟨(heq file hf hq w hw).1, rfl⟩⟩
  · intro hp file hf hq hsilent
    refine hi.stored hp file hf hq fun x now hs => ?_
    rw [h] at hs
    cases hs
    exact hsilent e s.files rfl

/-- The check of a file that is there gives what the checker says of its text. -/
theorem heeding_checked {c : Contents Text} (hc : c.Within watched) {file : String}
    (hthere : (c file).isSome = true) (session : Session) (hroot : session.root = k.root) :
    session.heeding (k.disk c) (k.runner c) file (some .checked) = k.found c file := by
  obtain ⟨text, htext⟩ := Option.isSome_iff_exists.1 hthere
  obtain ⟨records, hrun, hall⟩ := k.checkFile c file text hc htext
  simp [Session.heeding, Runner.perform, hroot, hrun, Session.diagnose, hall, LocalChecker.found,
    htext]

/-- An event has been handled. What its check saw is what the file holds, unless another event
waits for the file. -/
theorem inv_finish (hi : Inv k s) {e : FileEvent} {seen : Contents Text}
    (h : s.handling = some (e, seen)) :
    Inv k { s with
      session := (s.session.handle (k.disk seen) (k.runner seen) e).session
      handling := none } := by
  obtain ⟨hseen, hpath, heq⟩ := hi.handling e seen h
  have hphase := Session.phase_handle (k.disk seen) (k.runner seen) s.session e
  refine { hi with root := ?_, idle := ?_, handling := ?_, stored := ?_, unwatched := ?_ }
  · rw [Session.root_handle, hi.root]
  · rw [hphase]
    exact hi.idle
  · intro x now hs
    cases hs
  · intro hp file hf hq _
    rw [hphase] at hp
    refine (Session.get_handle (k.disk seen) (k.runner seen) s.session e file hp).trans ?_
    cases hw : e.word? file with
    | none =>
      refine hi.stored hp file hf hq fun x now hs => ?_
      rw [h] at hs
      cases hs
      exact hw
    | some w =>
      obtain ⟨hword, hfile⟩ := heq file hf hq w hw
      rw [← k.found_congr hfile]
      unfold Contents.word at hword
      rw [← hfile] at hword
      split at hword
      · rename_i hthere
        rw [hword]
        exact heeding_checked hseen hthere s.session hi.root
      · rename_i hgone
        rw [Option.not_isSome_iff_eq_none] at hgone
        simp [hword, Session.heeding, LocalChecker.found, hgone]
  · intro hp file hf
    rw [hphase] at hp
    refine (Session.get_handle (k.disk seen) (k.runner seen) s.session e file hp).trans ?_
    cases hw : e.word? file with
    | none => exact hi.unwatched hp file hf
    | some w =>
      cases w with
      | gone => rfl
      | checked =>
        -- Only the file's own change has it checked, and that file is watched.
        cases e with
        | change path =>
          have hp : path = file := by
            by_contra hne
            simp [FileEvent.word?, hne] at hw
          exact absurd (hp ▸ hpath) hf
        | unlink path =>
          simp only [FileEvent.word?] at hw
          split at hw <;> cases hw

theorem inv_step (apart : Apart watched) (hi : Inv k s) {t : Scene Text} (h : Step k s t) :
    Inv k t := by
  cases h with
  | @write file text hf =>
    refine inv_set apart hi hf (some text) (e := .change file) rfl ?_
    simp [FileEvent.word?, Contents.word, Contents.set_self]
  | @delete file hf =>
    refine inv_set apart hi hf none (e := .unlink file) rfl ?_
    simp [FileEvent.word?, Contents.word, Contents.set_self]
  | startCheck hidle _ => exact inv_startCheck hi hidle
  | look file hs => exact inv_look hi file hs
  | finishCheck hs => exact inv_finishCheck hi hs
  | receive hp hfree htake => exact inv_receive apart hi hp hfree htake
  | reread hs => exact inv_reread hi hs
  | finish hs => exact inv_finish hi hs

theorem reached_inv (apart : Apart watched) {t : Scene Text} (h : Reached k t) : Inv k t := by
  induction h with
  | opened ho => exact inv_opened ho
  | step _ hst ih => exact inv_step apart ih hst

/-! ## Coming to rest -/

/-- A session that watches is done with the event in its hands if nothing else happens. -/
theorem exists_free (hwatching : s.session.phase = .watching) :
    ∃ t, Relation.ReflTransGen (Step k) s t ∧ t.files = s.files ∧ t.watcher = s.watcher ∧
      t.session.phase = .watching ∧ t.handling = none := by
  cases hhandling : s.handling with
  | none => exact ⟨s, .refl, rfl, rfl, hwatching, hhandling⟩
  | some handled =>
    obtain ⟨e, seen⟩ := handled
    refine ⟨_, .single (.finish hhandling), rfl, rfl, ?_, rfl⟩
    exact (Session.phase_handle (k.disk seen) (k.runner seen) s.session e).trans hwatching

/-- The events that wait can all be handled, one after the other, while the files stay as they
are. So every scene under watch can come to rest. -/
theorem exists_rest (hwatching : s.session.phase = .watching) :
    ∃ t, Relation.ReflTransGen (Step k) s t ∧ t.files = s.files ∧ t.session.phase = .watching ∧
      t.handling = none ∧ t.watcher.isIdle = true := by
  -- Each event that is taken leaves fewer to wait.
  induction hwaiting : s.watcher.waiting.length using Nat.strong_induction_on generalizing s with
  | _ n ih =>
    obtain ⟨free, hsteps, hfiles, hwatcher, hphase, hfree⟩ := exists_free (k := k) hwatching
    cases htake : free.watcher.take? with
    | none => exact ⟨free, hsteps, hfiles, hphase, hfree, Watcher.take?_eq_none_iff.1 htake⟩
    | some taken =>
      obtain ⟨e, rest⟩ := taken
      have hfewer := Watcher.length_waiting_of_take? htake
      rw [hwatcher, hwaiting] at hfewer
      obtain ⟨t, hlater, hsame, hrest⟩ := ih _ hfewer
        (s := { free with watcher := rest, handling := some (e, free.files) }) hphase rfl
      exact ⟨t, (hsteps.tail (.receive hphase hfree htake)).trans hlater, hsame.trans hfiles, hrest⟩

/-! ## Main theorem -/

/-- Whatever happened and in whatever order: once no event waits or is being handled, the store
holds for every file what a full check of the files as they are now would find. -/
theorem watching_converges (apart : Apart watched) (k : LocalChecker watched Text)
    {s : Scene Text} (h : Reached k s) (hwatching : s.session.phase = .watching)
    (hfree : s.handling = none) (hrest : s.watcher.isIdle = true) :
    ∃ records, (k.runner s.files).checkProject k.root = .ok records ∧
      ∀ file, s.session.store.get file =
        (Store.ofList (Record.normalizeAll (k.disk s.files) records)).get file := by
  have hi := reached_inv apart h
  obtain ⟨records, hrun, hget⟩ := k.exists_records s.files hi.within
  refine ⟨records, hrun, fun file => ?_⟩
  rw [hget file]
  by_cases hf : file ∈ watched
  · have hquiet : s.Quiet file := by
      have hrest' : s.watcher.arrived = [] ∧ s.watcher.queue = [] := by
        simpa [Watcher.isIdle] using hrest
      simp [Scene.Quiet, Watcher.waiting, hrest'.1, hrest'.2, lastWord?]
    exact hi.stored hwatching file hf hquiet (by simp [hfree])
  · have hnone : s.files file = none := by
      rw [← Option.not_isSome_iff_eq_none]
      exact fun hs => hf (hi.within.mem_watched file hs)
    rw [hi.unwatched hwatching file hf]
    simp [LocalChecker.found, hnone]

/-- A finding that quotes a file's whole text. -/
def quoting (file text : String) : Record :=
  .lint {
    filePath := file
    messages := [{
      ruleId := none, severity := 2, message := text
      line := none, column := none, endLine := none, endColumn := none }]
    source := none }

/-- Two files side by side. -/
def neighbours : List String := ["/p/a", "/p/b"]

/-- A linter of the two files that complains of all it reads. -/
def quoter : LocalChecker {file | file ∈ neighbours} String where
  root := "/p"
  disk _ := .empty
  runner c := {
    checker := .esLint
    checkProject := fun _ =>
      .ok (neighbours.filterMap fun file => (c file).map (quoting file))
    checkFile := fun _ file =>
      match c file with
      | some text => .ok [quoting file text]
      | none => .error (.exited "eslint" 2 "no such file") }
  diagnostics file text := Record.normalizeAll .empty [quoting file text]
  file_eq file text d hd := by
    have hone : Record.normalizeAll .empty [quoting file text] =
      [{ checker := .esLint, message := text, file := some file, severity := some .error }] := rfl
    rw [hone, List.mem_singleton] at hd
    rw [hd]
  checkFile c file text _ hc := ⟨[quoting file text], by simp only [hc], rfl⟩
  checkProject c hc := by
    refine ⟨_, neighbours.filter fun file => (c file).isSome, rfl, ⟨?_, fun file => ?_⟩, ?_⟩
    · exact (by decide : neighbours.Nodup).filter _
    · rw [List.mem_filter, and_iff_right_iff_imp]
      exact hc.mem_watched file
    · cases ha : c "/p/a" <;> cases hb : c "/p/b" <;> simp [neighbours, ha, hb] <;> rfl

/-- One file is written while the first check runs, the other is deleted after it. -/
theorem watching_converges_quoter :
    Apart {file | file ∈ neighbours} ∧
    ∃ s, Reached quoter s ∧ s.session.phase = .watching ∧ s.handling = none ∧
      s.watcher.isIdle = true ∧ s.files "/p/a" = some "x" ∧ s.files "/p/b" = none ∧
      ∃ records, (quoter.runner s.files).checkProject quoter.root = .ok records ∧
        ∀ file, s.session.store.get file =
          (Store.ofList (Record.normalizeAll (quoter.disk s.files) records)).get file := by
  have apart : Apart {file | file ∈ neighbours} :=
    (by decide : ∀ p ∈ neighbours, ∀ q ∈ neighbours, p ≠ q → ¬ Path.parts p <+: Path.parts q)
  let start : Contents String := fun file => if file = "/p/b" then some "y" else none
  let added := start.set "/p/a" (some "x")
  let left := added.set "/p/b" none
  let matcher : Matcher := ⟨"/p", [], []⟩
  let idle : Session := { root := "/p", reporter := { checker := .esLint } }
  let checked : Session := (idle.checkAll .empty (quoter.runner start)).session
  let updated : Session := (checked.handle .empty (quoter.runner left) (.change "/p/a")).session
  have opened : Opened quoter ⟨start, { matcher }, idle, none, none⟩ := by
    refine ⟨⟨⟨["/p/b"], by decide, ?_⟩, ?_⟩, rfl, rfl, rfl, rfl, rfl⟩ <;>
      · intro file
        by_cases h : file = "/p/b" <;> simp [start, neighbours, h]
  have hchecked : Reached quoter ⟨added, { matcher, arrived := [.change "/p/a"] }, checked,
      none, none⟩ :=
    (((Reached.opened opened).step (.startCheck rfl rfl)).step (.write "x" (.head _))).step
      (.finishCheck (show _ = some start from rfl))
  have hupdated : Reached quoter ⟨left, { matcher, queue := [.unlink "/p/b"] }, updated,
      none, none⟩ :=
    ((hchecked.step (.delete (.tail _ (.head _)))).step (.receive rfl rfl rfl)).step
      (.finish (show _ = some (_, left) from rfl))
  have hlast := (hupdated.step (.receive rfl rfl rfl)).step
    (.finish (show _ = some (_, left) from rfl))
  exact ⟨apart, _, hlast, rfl, rfl, rfl, rfl, rfl,
    watching_converges apart quoter hlast rfl rfl rfl⟩

end Sidecheck
