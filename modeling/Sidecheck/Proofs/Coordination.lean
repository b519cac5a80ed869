import Mathlib.Algebra.GroupWithZero.Nat
import Sidecheck.Run
/-!
# What the coordinator makes of the channel

Workers tell their events in any order, and the coordinator stops by a count, not because the
channel is empty. `Settles` is what the count has to see to it that nothing stays unread, and
`settles_of_interleaving` is why it does: an event that is still on its way comes from a worker
that has not told its last one, and that worker is still counted.

So for every interleaving the coordinator's result is the events themselves, sorted by what they
are for, in the order in which they came: `drain_route_interleaving`. What one worker has told can be
found again among the events by a mark that they bear: `Interleaving.filter_eq`.
-/

namespace Sidecheck

/-! ## Interleavings -/

section Interleavings

variable {α : Type}

/-- A way for the members of several streams to come one after the other: each stream keeps its
order, and that is all that is known of the whole. -/
inductive Interleaving : (streams : List (List α)) → (arrived : List α) → Prop
  | done {streams : List (List α)} (h : ∀ s ∈ streams, s = []) : Interleaving streams []
  /-- Any stream may be the next to send its first member. -/
  | next (before : List (List α)) {after : List (List α)} {rest arrived : List α} (a : α)
      (h : Interleaving (before ++ rest :: after) arrived) :
      Interleaving (before ++ (a :: rest) :: after) (a :: arrived)

variable {streams : List (List α)} {arrived : List α}

/-- What arrives is what the streams have sent. -/
theorem Interleaving.perm (h : Interleaving streams arrived) : arrived.Perm streams.flatten := by
  induction h with
  | done h => rw [List.flatten_eq_nil_iff.2 h]
  | @next before after rest _ a _ ih =>
    simp only [List.flatten_append, List.flatten_cons, List.cons_append] at ih ⊢
    exact (ih.cons a).trans List.perm_middle.symm

/-- One stream after the other is one way. -/
theorem Interleaving.flatten (streams : List (List α)) :
    Interleaving streams streams.flatten := by
  -- The streams before the one that sends have nothing left.
  suffices h : ∀ (blanks : List (List α)), (∀ s ∈ blanks, s = []) →
      Interleaving (blanks ++ streams) streams.flatten by
    simpa using h [] (by simp)
  induction streams with
  | nil =>
    intro blanks hblanks
    exact .done (by simpa using hblanks)
  | cons s streams ih =>
    intro blanks hblanks
    induction s with
    | nil =>
      have hblanks' : ∀ t ∈ blanks ++ [[]], t = [] := by
        intro t ht
        rcases List.mem_append.1 ht with ht | ht
        · exact hblanks t ht
        · exact List.mem_singleton.1 ht
      simpa using ih (blanks ++ [[]]) hblanks'
    | cons a s ihs => exact .next blanks a ihs

/-- Of what arrives, a part is an interleaving of the streams' parts. -/
theorem Interleaving.filterMap {β : Type} (h : Interleaving streams arrived) (f : α → Option β) :
    Interleaving (streams.map (·.filterMap f)) (arrived.filterMap f) := by
  induction h with
  | done h =>
    refine .done fun s hs => ?_
    obtain ⟨t, ht, rfl⟩ := List.mem_map.1 hs
    rw [h t ht, List.filterMap_nil]
  | next before a _ ih =>
    rw [List.map_append, List.map_cons] at ih ⊢
    cases ha : f a with
    | none => simpa only [List.filterMap_cons, ha] using ih
    | some b => simpa only [List.filterMap_cons, ha] using Interleaving.next _ b ih

/-- If at most one stream sends anything, what arrives is the streams as they are. -/
theorem Interleaving.eq_flatten (h : Interleaving streams arrived)
    (hone : streams.countP (!·.isEmpty) ≤ 1) : arrived = streams.flatten := by
  induction h with
  | done h => exact (List.flatten_eq_nil_iff.2 h).symm
  | @next before after rest _ a _ ih =>
    rw [List.countP_append, List.countP_cons_of_pos rfl] at hone
    have hbefore : before.flatten = [] := by
      have hnone : before.countP (!·.isEmpty) = 0 := by omega
      refine List.flatten_eq_nil_iff.2 fun s hs => ?_
      simpa using List.countP_eq_zero.1 hnone s hs
    have hone' : (before ++ rest :: after).countP (!·.isEmpty) ≤ 1 := by
      rw [List.countP_append, List.countP_cons]
      split <;> omega
    rw [ih hone']
    simp only [List.flatten_append, List.flatten_cons, hbefore, List.nil_append, List.cons_append]

/-- A stream that is the only one to send anything arrives as it is. -/
theorem Interleaving.eq_of_alone {before after : List (List α)} {s : List α}
    (h : Interleaving (before ++ s :: after) arrived) (hbefore : ∀ t ∈ before, t = [])
    (hafter : ∀ t ∈ after, t = []) : arrived = s := by
  have hnone {streams : List (List α)} (hnil : ∀ t ∈ streams, t = []) :
      streams.countP (!·.isEmpty) = 0 :=
    List.countP_eq_zero.2 fun t ht => by simp [hnil t ht]
  have hone : (before ++ s :: after).countP (!·.isEmpty) ≤ 1 := by
    rw [List.countP_append, List.countP_cons, hnone hbefore, hnone hafter]
    split <;> omega
  rw [h.eq_flatten hone, List.flatten_append, List.flatten_cons,
    List.flatten_eq_nil_iff.2 hbefore, List.flatten_eq_nil_iff.2 hafter, List.nil_append,
    List.append_nil]

/-- If each stream marks what it sends with a key of its own, the key finds the stream again. -/
theorem Interleaving.filter_eq {ι κ : Type} [DecidableEq κ] {members : List ι}
    {stream : ι → List α} {key : ι → κ} {mark : α → κ}
    (h : Interleaving (members.map stream) arrived) (hdistinct : (members.map key).Nodup)
    (hmark : ∀ i ∈ members, ∀ a ∈ stream i, mark a = key i) {i : ι} (hi : i ∈ members) :
    arrived.filter (mark · = key i) = stream i := by
  obtain ⟨front, back, rfl⟩ := List.append_of_mem hi
  have hself : (stream i).filter (mark · = key i) = stream i :=
    List.filter_eq_self.2 fun a ha => by simpa using hmark i hi a ha
  have hother : ∀ j ∈ front ++ back, (stream j).filter (mark · = key i) = [] := by
    intro j hj
    have hne : key j ≠ key i := by
      have hnodup := (List.perm_middle.map key).nodup_iff.1 hdistinct
      rw [List.map_cons] at hnodup
      exact fun hkey => (List.nodup_cons.1 hnodup).1 (hkey ▸ List.mem_map_of_mem hj)
    have hj' : j ∈ front ++ i :: back := List.perm_middle.mem_iff.2 (.tail _ hj)
    refine List.filter_eq_nil_iff.2 fun a ha => ?_
    simpa [hmark j hj' a ha] using hne
  -- Of what arrives, the other streams leave nothing.
  have hfilter := h.filterMap (Option.guard (mark · = key i))
  simp only [List.filterMap_eq_filter, List.map_map, Function.comp_def, List.map_append,
    List.map_cons, hself] at hfilter
  refine hfilter.eq_of_alone ?_ ?_
  · rintro _ ht
    obtain ⟨j, hj, rfl⟩ := List.mem_map.1 ht
    exact hother j (List.mem_append_left _ hj)
  · rintro _ ht
    obtain ⟨j, hj, rfl⟩ := List.mem_map.1 ht
    exact hother j (List.mem_append_right _ hj)

end Interleavings

/-! ## What events are for -/

namespace WorkerEvent

/-- The entry for the terminal. -/
def line? : WorkerEvent → Option String
  | .console entry => some entry
  | _ => none

/-- The update of the overlay. -/
def payload? : WorkerEvent → Option Payload
  | .overlay payload => some payload
  | _ => none

/-- The summary of a check that is complete. -/
def summary? : WorkerEvent → Option Summary
  | .finished _ summary => some summary
  | _ => none

/-- The checker whose worker has failed. -/
def failure? : WorkerEvent → Option Checker
  | .failed checker _ => some checker
  | _ => none

end WorkerEvent

/-! ## What workers tell -/

namespace Worker

theorem told_append (xs ys : List Action) :
    told (xs ++ ys) = told xs ++ told ys := List.filterMap_append

theorem told_map_ran (runs : List CheckRun) : told (runs.map .ran) = [] := by
  simp [told]

theorem told_map_told (events : List WorkerEvent) : told (events.map .told) = events := by
  rw [told, List.filterMap_map]
  exact List.filterMap_some

theorem isFinal_of_mem_eventsOf {r : Report} {e : WorkerEvent} (h : e ∈ eventsOf r) :
    e.isFinal = false := by
  rcases List.mem_append.1 h with h | h
  · obtain ⟨_, _, rfl⟩ := List.mem_map.1 h
    rfl
  · obtain ⟨_, _, rfl⟩ := List.mem_map.1 h
    rfl

end Worker

namespace Coordinator

/-- The events of one worker, of which only the last may be final. -/
def Orderly (events : List WorkerEvent) : Prop := ∀ e ∈ events.dropLast, e.isFinal = false

/-- The worker ends without a final event. -/
def isSilent (events : List WorkerEvent) : Bool := events.all (!·.isFinal)

variable {e : WorkerEvent} {rest : List WorkerEvent}

theorem Orderly.of_cons (h : Orderly (e :: rest)) : Orderly rest := by
  cases rest with
  | nil => simp [Orderly]
  | cons x xs =>
    intro y hy
    exact h y (by rw [List.dropLast_cons_cons]; exact List.mem_cons_of_mem _ hy)

/-- Nothing follows a final event. -/
theorem Orderly.eq_nil_of_isFinal (h : Orderly (e :: rest)) (he : e.isFinal = true) :
    rest = [] := by
  cases rest with
  | nil => rfl
  | cons x xs =>
    have hfalse := h e (by rw [List.dropLast_cons_cons]; exact List.mem_cons_self)
    rw [he] at hfalse
    cases hfalse

/-- Events that are not final may come before. -/
theorem Orderly.append {first others : List WorkerEvent} (h : Orderly others)
    (hfirst : ∀ e ∈ first, e.isFinal = false) : Orderly (first ++ others) := by
  intro e he
  cases others with
  | nil =>
    rw [List.append_nil] at he
    exact hfirst e (List.dropLast_subset _ he)
  | cons x xs =>
    rw [List.dropLast_append_of_ne_nil (List.cons_ne_nil x xs), List.mem_append] at he
    exact he.elim (hfirst e) (h e)

/-- A worker tells one final event, or is silent. -/
theorem Orderly.countP_isFinal {events : List WorkerEvent} (h : Orderly events) :
    events.countP (·.isFinal) + (if isSilent events then 1 else 0) = 1 := by
  induction events with
  | nil => rfl
  | cons e rest ih =>
    cases he : e.isFinal with
    | true =>
      rw [h.eq_nil_of_isFinal he]
      simp [isSilent, he]
    | false => simpa [isSilent, List.countP_cons, he] using ih h.of_cons

/-- Every worker tells one final event, or is silent. -/
theorem countP_isFinal_flatten {streams : List (List WorkerEvent)}
    (h : ∀ s ∈ streams, Orderly s) :
    streams.flatten.countP (·.isFinal) + streams.countP isSilent = streams.length := by
  induction streams with
  | nil => rfl
  | cons s streams ih =>
    obtain ⟨hs, hstreams⟩ := List.forall_mem_cons.1 h
    have hone := hs.countP_isFinal
    have hall := ih hstreams
    rw [List.flatten_cons, List.countP_append, List.countP_cons, List.length_cons]
    omega

/-! ## The count -/

/-- While events are on their way, a worker is counted that has not told its last one. -/
inductive Settles : (pending : Nat) → (events : List WorkerEvent) → Prop
  | nil (pending : Nat) : Settles pending []
  | last {pending : Nat} {e : WorkerEvent} {rest : List WorkerEvent} (he : e.isFinal = true)
      (h : Settles pending rest) : Settles (pending + 1) (e :: rest)
  | cons {pending : Nat} {e : WorkerEvent} {rest : List WorkerEvent} (he : e.isFinal = false)
      (h : Settles (pending + 1) rest) : Settles (pending + 1) (e :: rest)

/-- The count settles if it is no less than the number of workers that have more to tell. -/
theorem settles_of_interleaving {streams : List (List WorkerEvent)} {arrived : List WorkerEvent}
    {pending : Nat} (h : Interleaving streams arrived) (orderly : ∀ s ∈ streams, Orderly s)
    (hp : streams.countP (!·.isEmpty) ≤ pending) : Settles pending arrived := by
  induction h generalizing pending with
  | done _ => exact .nil pending
  | @next before after rest _ e _ ih =>
    have hown : Orderly (e :: rest) := orderly _ (by simp)
    have horderly : ∀ s ∈ before ++ rest :: after, Orderly s := by
      intro s hs
      rcases List.mem_append.1 hs with hs | hs
      · exact orderly s (by simp [hs])
      · rcases List.mem_cons.1 hs with rfl | hs
        · exact hown.of_cons
        · exact orderly s (by simp [hs])
    rw [List.countP_append, List.countP_cons_of_pos rfl] at hp
    obtain ⟨pending, rfl⟩ : ∃ n, pending = n + 1 := ⟨pending - 1, by omega⟩
    cases he : e.isFinal with
    | true =>
      -- The stream is at its end, so one worker less has more to tell.
      refine .last he (ih horderly ?_)
      rw [hown.eq_nil_of_isFinal he, List.countP_append,
        List.countP_cons_of_neg (by simp)]
      omega
    | false =>
      refine .cons he (ih horderly ?_)
      rw [List.countP_append, List.countP_cons]
      split <;> omega

/-- The workers that are still counted after all events. -/
def left (pending : Nat) (events : List WorkerEvent) : Nat :=
  pending - events.countP (·.isFinal)

theorem left_last (pending : Nat) (he : e.isFinal = true) :
    left (pending + 1) (e :: rest) = left pending rest := by
  rw [left, List.countP_cons_of_pos he, Nat.add_sub_add_right, left]

theorem left_cons (pending : Nat) (he : e.isFinal = false) :
    left pending (e :: rest) = left pending rest := by
  rw [left, List.countP_cons_of_neg (by simp [he]), left]

/-! ## What is made of events -/

/-- All that a build can make of events, in the order in which they are. -/
def Build.ofEvents (events : List WorkerEvent) (missing : Nat) : Build where
  lines := events.filterMap (·.line?)
  outcome.errors := ((events.filterMap (·.summary?)).map (·.errors)).sum
  outcome.warnings := ((events.filterMap (·.summary?)).map (·.warnings)).sum
  outcome.failed := events.filterMap (·.failure?)
  outcome.missing := missing
  unread := []

/-- All that can be made of the events of workers that watch, in the order in which they are. -/
def Serve.ofEvents (events : List WorkerEvent) (live : Nat) : Serve where
  lines := events.filterMap (·.line?)
  posted := events.filterMap (·.payload?)
  failed := events.filterMap (·.failure?)
  live := live
  unread := []

/-- A build reads everything, and every event counts for what it is. -/
theorem drain_eq {pending : Nat} {events : List WorkerEvent} (h : Settles pending events) :
    drain pending events = .ofEvents events (left pending events) := by
  induction h with
  | nil pending => cases pending <;> rfl
  | @last pending e rest he _ ih =>
    rw [left_last pending he]
    cases e with
    | console entry | overlay payload => cases he
    | finished checker summary | failed checker reason =>
      rw [drain, ih]
      rfl
  | @cons pending e rest he _ ih =>
    rw [left_cons _ he]
    cases e with
    | finished checker summary | failed checker reason => cases he
    | console entry | overlay payload =>
      rw [drain, ih]
      · rfl
      · exact Nat.noConfusion

/-- While workers watch, everything is read and every event is passed on for what it is. -/
theorem route_eq {live : Nat} {events : List WorkerEvent} (h : Settles live events) :
    route live events = .ofEvents events (left live events) := by
  induction h with
  | nil live => cases live <;> rfl
  | @last live e rest he _ ih =>
    rw [left_last live he]
    cases e with
    | console entry | overlay payload => cases he
    | finished checker summary | failed checker reason =>
      rw [route, ih]
      rfl
  | @cons live e rest he _ ih =>
    rw [left_cons _ he]
    cases e with
    | finished checker summary | failed checker reason => cases he
    | console entry | overlay payload =>
      rw [route, ih]
      · rfl
      · exact Nat.noConfusion

/-- Two orders of the same events differ in the order of the failures only. -/
theorem Build.outcome_ofEvents_of_perm {events others : List WorkerEvent}
    (h : events.Perm others) (missing : Nat) :
    (ofEvents events missing).outcome =
      { (ofEvents others missing).outcome with failed := events.filterMap (·.failure?) } := by
  have hsum (f : Summary → Nat) : ((events.filterMap (·.summary?)).map f).sum =
      ((others.filterMap (·.summary?)).map f).sum := ((h.filterMap _).map f).sum_nat
  simp only [ofEvents, hsum]

/-! ## Whole builds -/

variable {streams : List (List WorkerEvent)} {arrived : List WorkerEvent}

theorem left_length (h : Interleaving streams arrived) (orderly : ∀ s ∈ streams, Orderly s) :
    left streams.length arrived = streams.countP isSilent := by
  rw [left, h.perm.countP_eq, ← countP_isFinal_flatten orderly, Nat.add_sub_cancel_left]

theorem drain_interleaving (h : Interleaving streams arrived)
    (orderly : ∀ s ∈ streams, Orderly s) :
    drain streams.length arrived = .ofEvents arrived (streams.countP isSilent) := by
  rw [drain_eq (settles_of_interleaving h orderly List.countP_le_length), left_length h orderly]

/-- What a worker does in a build: one full check, then events of which the last one is final. -/
theorem exists_build (c : Worker.Context) (disk : Disk) (runner : Runner) :
    ∃ events last,
      Worker.build c disk runner = .ran (.project c.root) :: (events ++ [last]).map .told ∧
      (∀ e ∈ events, e.isFinal = false) ∧ last.isFinal = true := by
  rw [Worker.build, Session.checkAll]
  split
  · exact ⟨[], _, rfl, by simp, rfl⟩
  · exact ⟨_, _, rfl, fun e he => Worker.isFinal_of_mem_eventsOf he, rfl⟩

theorem exists_told_build (c : Worker.Context) (disk : Disk) (runner : Runner) :
    ∃ events last, Worker.told (Worker.build c disk runner) = events ++ [last] ∧
      (∀ e ∈ events, e.isFinal = false) ∧ last.isFinal = true := by
  obtain ⟨events, last, hbuild, hevents, hlast⟩ := exists_build c disk runner
  refine ⟨events, last, ?_, hevents, hlast⟩
  rw [hbuild, ← List.singleton_append, Worker.told_append, Worker.told_map_told]
  rfl

/-- In a build every worker tells a final event, so none is missing and nothing stays unread,
whatever the order. -/
theorem drain_told_build {α : Type} (workers : List α) (context : α → Worker.Context)
    (disk : α → Disk) (runner : α → Runner)
    (h : Interleaving
      (workers.map fun a => Worker.told (Worker.build (context a) (disk a) (runner a))) arrived) :
    drain workers.length arrived = .ofEvents arrived 0 := by
  have hstreams : ∀ events ∈ workers.map fun a =>
      Worker.told (Worker.build (context a) (disk a) (runner a)),
      Orderly events ∧ isSilent events = false := by
    intro events hevents
    obtain ⟨a, _, rfl⟩ := List.mem_map.1 hevents
    obtain ⟨first, last, heq, hfirst, hlast⟩ :=
      exists_told_build (context a) (disk a) (runner a)
    refine ⟨?_, ?_⟩
    · simpa only [Orderly, heq, List.dropLast_concat] using hfirst
    · simp [isSilent, heq, hlast]
  have hdrain := drain_interleaving h fun events hevents => (hstreams events hevents).1
  rw [List.countP_eq_zero.2 fun events hevents => by simp [(hstreams events hevents).2],
    List.length_map] at hdrain
  exact hdrain

/-! ## Main theorem -/

/-- Whatever the order in which the workers' events come: a build writes every entry and counts
every summary, failure and silent worker; while workers watch, every entry is written and every
payload posted, each once and in the order of the events. -/
theorem drain_route_interleaving (orderly : ∀ s ∈ streams, Orderly s)
    (h : Interleaving streams arrived) :
    drain streams.length arrived = {
      lines := arrived.filterMap (·.line?)
      outcome := {
        errors := ((streams.flatten.filterMap (·.summary?)).map (·.errors)).sum
        warnings := ((streams.flatten.filterMap (·.summary?)).map (·.warnings)).sum
        failed := arrived.filterMap (·.failure?)
        missing := streams.countP isSilent }
      unread := [] } ∧
    route streams.length arrived = {
      lines := arrived.filterMap (·.line?)
      posted := arrived.filterMap (·.payload?)
      failed := arrived.filterMap (·.failure?)
      live := streams.countP isSilent
      unread := [] } ∧
    ∀ other, Interleaving streams other →
      ((drain streams.length other).outcome.failed.Perm
          (drain streams.length arrived).outcome.failed ∧
        { (drain streams.length other).outcome with failed := [] } =
          { (drain streams.length arrived).outcome with failed := [] }) := by
  have hdrain {events : List WorkerEvent} (hevents : Interleaving streams events) :=
    drain_interleaving hevents orderly
  refine ⟨?_, ?_, fun other hother => ⟨?_, ?_⟩⟩
  · rw [hdrain h]
    exact congrArg (Build.mk _ · _) (Build.outcome_ofEvents_of_perm h.perm _)
  · rw [route_eq (settles_of_interleaving h orderly List.countP_le_length),
      left_length h orderly]
    rfl
  · rw [hdrain hother, hdrain h]
    exact (hother.perm.trans h.perm.symm).filterMap _
  · rw [hdrain hother, hdrain h,
      Build.outcome_ofEvents_of_perm (hother.perm.trans h.perm.symm)]

/-- One worker fails early and one ends silently while a third is still at work. -/
theorem drain_route_interleaving_three :
    let payload : Payload := ⟨"update", "eslint", []⟩
    let streams : List (List WorkerEvent) :=
      [[.console "a", .overlay payload, .finished .esLint ⟨2, 1⟩],
        [.failed .typeScript "no compiler"], [.console "b"]]
    let arrived : List WorkerEvent :=
      [.console "a", .failed .typeScript "no compiler", .overlay payload, .console "b",
        .finished .esLint ⟨2, 1⟩]
    drain 3 arrived = ⟨["a", "b"], ⟨2, 1, [.typeScript], 1⟩, []⟩ ∧
    route 3 arrived = ⟨["a", "b"], [payload], [.typeScript], 1, []⟩ ∧
    (∀ s ∈ streams, Orderly s) ∧ Interleaving streams arrived := by
  intro payload streams arrived
  have orderly : ∀ s ∈ streams, Orderly s := by
    simp [streams, Orderly, WorkerEvent.isFinal]
  have h : Interleaving streams arrived :=
    .next [] _ <| .next [_] _ <| .next [] _ <| .next [_, _] _ <| .next [] _ <| .done (by simp)
  obtain ⟨hdrain, hroute, -⟩ := drain_route_interleaving orderly h
  exact ⟨hdrain, hroute, orderly, h⟩

end Coordinator

end Sidecheck
