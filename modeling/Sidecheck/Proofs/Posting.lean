import Sidecheck.Proofs.Serving
/-!
# What the overlay and the terminal show

Each time a session's store may have changed, one report says what it then holds. The workers of
several checkers report on one channel, and the overlay keeps the last payload of each checker. A
worker's payloads come in its own order and bear its checker's name, so whatever comes in between,
that last payload is the one for the store as it is (`filter_posted`, `shown_is_current`).
-/

namespace Sidecheck

/-- A worker's life so far: what it knows from the beginning, and what it has taken since. -/
structure Worker.Life where
  context : Worker.Context
  moments : List Worker.Moment

namespace Worker.Life

/-- The worker as it is now. -/
def worker (l : Life) : Worker := (live { context := l.context } l.moments).1

/-- What the worker has told. -/
def told (l : Life) : List WorkerEvent := Worker.told (live { context := l.context } l.moments).2

/-- The last payload that was told shows what the store holds. -/
theorem getLast?_payloads (l : Life) :
    (l.told.filterMap (·.payload?)).getLast? = l.worker.showing? := by
  have hlast := getLast?_payloads_live { context := l.context } l.moments
  rwa [showing?, Option.bind_none, Option.or_none] at hlast

theorem checkerId_payloads (l : Life) :
    ∀ p ∈ l.told.filterMap (·.payload?), p.checkerId = l.context.checker.id :=
  checkerId_live (reportsOwn_begin l.context) l.moments

theorem orderly_told (l : Life) : Coordinator.Orderly l.told := orderly_live _ l.moments

end Worker.Life

namespace Coordinator

open Worker (Life)

variable {lives : List Life} {arrived : List WorkerEvent}

/-- Every payload is posted, in the order of the events. -/
theorem posted_route (h : Interleaving (lives.map (·.told)) arrived) :
    (route lives.length arrived).posted = arrived.filterMap (·.payload?) := by
  have orderly : ∀ events ∈ lives.map (·.told), Orderly events := by
    intro events hevents
    obtain ⟨l, _, rfl⟩ := List.mem_map.1 hevents
    exact l.orderly_told
  have hcount : (lives.map (·.told)).countP (!·.isEmpty) ≤ lives.length := by
    simpa using List.countP_le_length (p := (!·.isEmpty)) (l := lives.map (·.told))
  rw [route_eq (settles_of_interleaving h orderly hcount)]
  rfl

/-- What is posted with a checker's name is what that checker's worker has told. -/
theorem filter_posted (h : Interleaving (lives.map (·.told)) arrived)
    (hdistinct : (lives.map (·.context.checker)).Nodup) {l : Life} (hl : l ∈ lives) :
    (route lives.length arrived).posted.filter (·.checkerId = l.context.checker.id) =
      l.told.filterMap (·.payload?) := by
  rw [posted_route h]
  have hpayloads := h.filterMap (·.payload?)
  rw [List.map_map] at hpayloads
  have hids : (lives.map (·.context.checker.id)).Nodup :=
    List.pairwise_map.2 ((List.pairwise_map.1 hdistinct).imp
      fun hne hid => hne (Checker.id_injective hid))
  exact hpayloads.filter_eq hids (fun l _ => l.checkerId_payloads) hl

end Coordinator

/-! ## Main theorem -/

/-- The overlay and the terminal show the current store. A successful full check and every event
after it are answered with one report, which shows the store as it is then. And whatever the lives
of several workers and the order of their events, the last payload that is posted for a checker is
the one that shows what its worker's store holds now. -/
theorem shown_is_current :
    (∀ (s : Session) (first : Session.Call) (events : List Session.Call) (records : List Record),
      first.request = .checkAll → first.runner.checkProject s.root = .ok records →
      (∀ c ∈ events, c.IsEvent) →
      ∀ step ∈ s.trace (first :: events),
        ∃ x, step.shown = .report x ∧ x.Shows s.reporter step.session.store) ∧
    ∀ (lives : List Worker.Life) (arrived : List WorkerEvent),
      (lives.map (·.context.checker)).Nodup → Interleaving (lives.map (·.told)) arrived →
      ∀ l ∈ lives,
        ((Coordinator.route lives.length arrived).posted.filter
          (·.checkerId = l.context.checker.id)).getLast? = l.worker.showing? := by
  refine ⟨?_, ?_⟩
  · intro s first events records hfirst hrecords hevents step hstep
    have hanswer : s.answer first = s.checkAll first.disk first.runner := by
      rw [Session.answer, hfirst]
    rw [Session.trace, hanswer, s.checkAll_of_ok first.disk hrecords] at hstep
    rcases List.mem_cons.1 hstep with rfl | hstep
    · exact ⟨_, rfl, Reporter.shows_report _ _⟩
    · exact ⟨_, Session.shown_trace hevents _ rfl step hstep, Reporter.shows_report _ _⟩
  · intro lives arrived hdistinct h l hl
    rw [Coordinator.filter_posted h hdistinct hl, l.getLast?_payloads]

/-- A compiler has nothing to say and a linter warns of a file. When the file is removed, the warning
goes. -/
theorem shown_is_current_linter :
    let disk : Disk := ⟨.directory [("p", .directory [])], []⟩
    let warning : Record := .lint ⟨"/p/a", [⟨none, 1, "unused", none, none, none, none⟩], none⟩
    let runner (records : List Record) : Runner :=
      ⟨.esLint, fun _ => .ok records, fun _ _ => .ok []⟩
    let life (checker : Checker) (records : List Record) : Worker.Life :=
      { context := ⟨checker, "/p", false, none, ["."], []⟩
        moments := [.message (.configure true true), .message (.watch "/p")].map
          (⟨disk, runner records, ·⟩) }
    let lives := [life .typeScript [], life .esLint [warning]]
    let arrived := (lives.map (·.told)).flatten
    let s : Session := { root := "/p", reporter := { checker := .esLint } }
    let trace := s.trace
      [⟨disk, runner [warning], .checkAll⟩, ⟨disk, runner [], .handle (.unlink "/p/a")⟩]
    (lives.map (·.context.checker)).Nodup ∧ Interleaving (lives.map (·.told)) arrived ∧
      ((Coordinator.route 2 arrived).posted.filter (·.checkerId = Checker.typeScript.id)).getLast? =
        some ⟨Payload.errorEvent, "typescript", []⟩ ∧
      ((Coordinator.route 2 arrived).posted.filter (·.checkerId = Checker.esLint.id)).getLast? =
        some ⟨Payload.errorEvent, "eslint",
          [⟨"unused", "", some "/p/a", none, "ESLint", some 0, none⟩]⟩ ∧
      (trace.map (·.session.store.size) = [1, 0] ∧
        ∀ step ∈ trace, ∃ x, step.shown = .report x ∧ x.Shows s.reporter step.session.store) := by
  intro disk warning runner life lives arrived s trace
  have hdistinct : (lives.map (·.context.checker)).Nodup :=
    (by decide : [Checker.typeScript, .esLint].Nodup)
  have harrived := Interleaving.flatten (lives.map (·.told))
  have hlast := shown_is_current.2 lives arrived hdistinct harrived
  refine ⟨hdistinct, harrived, ?_, ?_, ?_, ?_⟩
  · exact (hlast (life .typeScript []) (.head _)).trans (by rfl)
  · exact (hlast (life .esLint [warning]) (.tail _ (.head _))).trans (by rfl)
  · rfl
  · refine shown_is_current.1 s ⟨disk, runner [warning], .checkAll⟩ _ [warning] rfl rfl ?_
    intro c hc
    rw [List.mem_singleton.1 hc]
    exact ⟨_, rfl⟩

end Sidecheck
