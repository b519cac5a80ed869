import Sidecheck.Proofs.Coordination
import Sidecheck.Proofs.Taking
/-!
# The life of a worker

A worker that watches takes one input after the other, each at a moment of its own: disk and checker
may be others each time. `Worker.Effect` lists what an input can come to for those who listen, and
`effect_step` is why there is nothing else. A report goes out exactly when the session has a new
store, and a failure is the end.

So at any time a worker's last payload is that of the store it has: `getLast?_payloads_live`. Of its
events only the last may be final: `orderly_live`.
-/

namespace Sidecheck

/-- The payload that shows what the store holds. There is one from the first full result on, if the
overlay is on. -/
def Session.showing? (s : Session) : Option Payload :=
  match s.phase with
  | .idle => none
  | .watching => s.report.payload

theorem Reporter.checkerId_report {r : Reporter} {s : Store} {p : Payload}
    (h : p ∈ (r.report s).payload) : p.checkerId = r.checker.id := by
  rw [(r.shows_report s).payload] at h
  split at h
  · rw [← Option.some.inj h]
  · cases h

namespace Worker

/-- The payload that shows what the worker's store holds. -/
def showing? (w : Worker) : Option Payload := w.session?.bind (·.showing?)

/-! ## Lives -/

/-- An input, with the disk and the checker as they are when it is taken. -/
structure Moment where
  disk : Disk
  runner : Runner
  input : Input

/-- Takes inputs one by one, each at its moment. -/
def live (w : Worker) : List Moment → Worker × List Action
  | [] => (w, [])
  | m :: rest =>
    let (w, first) := w.step m.disk m.runner m.input
    let (w, others) := w.live rest
    (w, first ++ others)

/-- A run is a life in which disk and checker stay as they are. -/
theorem run_eq_live (w : Worker) (disk : Disk) (runner : Runner) (inputs : List Input) :
    w.run disk runner inputs = w.live (inputs.map (⟨disk, runner, ·⟩)) := by
  induction inputs generalizing w with
  | nil => rfl
  | cons i rest ih => simp only [run, live, List.map_cons, ih]

theorem told_live_cons (w : Worker) (m : Moment) (rest : List Moment) :
    told (w.live (m :: rest)).2 =
      told (w.step m.disk m.runner m.input).2 ++
        told ((w.step m.disk m.runner m.input).1.live rest).2 :=
  told_append _ _

/-- After its end a worker does nothing. -/
theorem live_of_hasEnded {w : Worker} (h : w.hasEnded = true) (ms : List Moment) :
    w.live ms = (w, []) := by
  induction ms with
  | nil => rfl
  | cons m rest ih => simp [live, step, h, ih]

/-! ## What an input does -/

/-- What an input comes to: the worker after it, and what is told. -/
inductive Effect (w next : Worker) : List WorkerEvent → Prop
  /-- Nothing is told, and the session stays as it is. -/
  | silent (hnext : next.session? = w.session?) : Effect w next []
  /-- There is a session now. It has nothing to tell yet. -/
  | configured (overlay terminal : Bool) (hsession : w.session? = none)
      (hnext : next.session? =
        some { root := w.context.root, reporter := reporter w.context overlay terminal }) :
      Effect w next []
  /-- The session has a new store, and reports it. -/
  | reported {s : Session} (store : Store) (hsession : w.session? = some s)
      (hnext : next.session? = some { s with store, phase := .watching }) :
      Effect w next (eventsOf (s.reporter.report store))
  /-- The worker stops with a failure. The session stays as it is. -/
  | failed (f : Failure) (hnext : next.session? = w.session?) (hended : next.hasEnded = true) :
      Effect w next [.failed w.context.checker f.message]

theorem settle_context (w : Worker) : w.settle.context = w.context := by
  unfold settle
  split <;> rfl

theorem settle_session? (w : Worker) : w.settle.session? = w.session? := by
  unfold settle
  split <;> rfl

theorem Takes.effect {w next : Worker} {disk : Disk} {runner : Runner} {input : Input}
    {done : List Action} (h : w.Takes disk runner input next done) :
    next.context = w.context ∧ w.Effect next (told done) := by
  cases h with
  | ended | deaf | noticed | idle | dropped => exact ⟨rfl, .silent rfl⟩
  | violated m v => exact ⟨rfl, .failed (.violation v) rfl rfl⟩
  | configured overlay terminal _ hs => exact ⟨rfl, .configured overlay terminal hs rfl⟩
  | unopened root e => exact ⟨rfl, .failed (.watch e) rfl rfl⟩
  | unchecked root e _ hs => exact ⟨rfl, .failed (.check e) hs.symm rfl⟩
  | checked root store _ hs =>
    refine ⟨rfl, ?_⟩
    rw [← List.singleton_append, told_append, told_map_told]
    exact .reported store hs rfl
  | released | closed | unwatched => exact ⟨settle_context _, .silent (settle_session? _)⟩
  | handled _ _ hs =>
    refine ⟨rfl, ?_⟩
    rw [told_append, told_map_ran, told_map_told]
    exact .reported _ hs rfl

/-- Whatever a worker takes, it stays the worker of its checker, and what it tells is the effect
on its session. -/
theorem effect_step (w : Worker) (disk : Disk) (runner : Runner) (input : Input) :
    let result := w.step disk runner input
    result.1.context = w.context ∧ w.Effect result.1 (told result.2) :=
  (takes_step w disk runner input).effect

/-! ## The order of events -/

/-- Events that are not final, or a final one with which the worker ends. -/
theorem Effect.isFinal {w next : Worker} {events : List WorkerEvent} (h : w.Effect next events) :
    (∀ e ∈ events, e.isFinal = false) ∨ (∃ e, events = [e]) ∧ next.hasEnded = true := by
  cases h with
  | silent | configured => exact .inl (by simp)
  | reported => exact .inl fun e he => isFinal_of_mem_eventsOf he
  | failed f _ hended => exact .inr ⟨⟨_, rfl⟩, hended⟩

theorem orderly_live (w : Worker) (ms : List Moment) :
    Coordinator.Orderly (told (w.live ms).2) := by
  induction ms generalizing w with
  | nil => simp [live, told, Coordinator.Orderly]
  | cons m rest ih =>
    rw [told_live_cons]
    rcases (effect_step w m.disk m.runner m.input).2.isFinal with hopen | ⟨⟨e, he⟩, hended⟩
    · exact (ih _).append hopen
    · rw [he, live_of_hasEnded hended]
      simp [told, Coordinator.Orderly]

/-! ## The last payload -/

theorem payloads_eventsOf (r : Report) :
    (eventsOf r).filterMap (·.payload?) = r.payload.toList := by
  have hlines : (r.lines.map WorkerEvent.console).filterMap (·.payload?) = [] := by
    rw [List.filterMap_map]
    exact List.filterMap_eq_nil_iff.2 fun _ _ => rfl
  have hpayload : (r.payload.toList.map WorkerEvent.overlay).filterMap (·.payload?) =
      r.payload.toList := by
    rw [List.filterMap_map]
    exact List.filterMap_some
  rw [eventsOf, List.filterMap_append, hlines, hpayload, List.nil_append]

/-- The last payload of an effect shows what the store then holds. If it has none, what is to be
shown stays. -/
theorem Effect.getLast?_payloads {w next : Worker} {events : List WorkerEvent}
    (h : w.Effect next events) :
    (events.filterMap (·.payload?)).getLast?.or w.showing? = next.showing? := by
  cases h with
  | silent hnext => simp [showing?, hnext]
  | configured _ _ hsession hnext => simp [showing?, hsession, hnext, Session.showing?]
  | @reported s store hsession hnext =>
    have hshown : next.showing? = (s.reporter.report store).payload := by
      simp [showing?, hnext, Session.showing?, Session.report]
    rw [payloads_eventsOf, hshown]
    cases hoverlay : s.reporter.overlay with
    | true => simp [Reporter.report, hoverlay]
    | false =>
      -- Without an overlay there was nothing to be shown before.
      have hbefore : w.showing? = none := by
        cases hphase : s.phase <;>
          simp [showing?, hsession, Session.showing?, hphase, Session.report, Reporter.report,
            hoverlay]
      simp [Reporter.report, hoverlay, hbefore]
  | failed f hnext _ => simp [showing?, hnext, WorkerEvent.payload?]

theorem getLast?_payloads_live (w : Worker) (ms : List Moment) :
    ((told (w.live ms).2).filterMap (·.payload?)).getLast?.or w.showing? =
      (w.live ms).1.showing? := by
  induction ms generalizing w with
  | nil => simp [live, told]
  | cons m rest ih =>
    rw [told_live_cons, List.filterMap_append, List.getLast?_append, Option.or_assoc,
      (effect_step w m.disk m.runner m.input).2.getLast?_payloads]
    exact ih _

/-! ## Whose payloads they are -/

/-- The worker's session, if there is one, reports for the worker's checker. -/
def ReportsOwn (w : Worker) : Prop :=
  ∀ s, w.session? = some s → ∃ overlay terminal, s.reporter = reporter w.context overlay terminal

theorem reportsOwn_begin (c : Context) : ReportsOwn { context := c } := by
  intro s hs
  cases hs

theorem Effect.reportsOwn {w next : Worker} {events : List WorkerEvent} (h : w.Effect next events)
    (hcontext : next.context = w.context) (hw : w.ReportsOwn) : next.ReportsOwn := by
  intro s hs
  rw [hcontext]
  cases h with
  | silent hnext | failed _ hnext _ => exact hw s (hnext ▸ hs)
  | configured overlay terminal _ hnext =>
    obtain rfl := Option.some.inj (hnext.symm.trans hs)
    exact ⟨overlay, terminal, rfl⟩
  | @reported before store hsession hnext =>
    obtain rfl := Option.some.inj (hnext.symm.trans hs)
    exact hw before hsession

theorem Effect.checkerId {w next : Worker} {events : List WorkerEvent} (h : w.Effect next events)
    (hw : w.ReportsOwn) {p : Payload} (hp : p ∈ events.filterMap (·.payload?)) :
    p.checkerId = w.context.checker.id := by
  cases h with
  | silent | configured | failed => simp [WorkerEvent.payload?] at hp
  | @reported s store hsession =>
    obtain ⟨overlay, terminal, hreporter⟩ := hw s hsession
    rw [payloads_eventsOf, Option.mem_toList] at hp
    rw [Reporter.checkerId_report hp, hreporter]
    rfl

/-- All payloads of a worker are those of its checker. -/
theorem checkerId_live {w : Worker} (hw : w.ReportsOwn) (ms : List Moment) :
    ∀ p ∈ (told (w.live ms).2).filterMap (·.payload?), p.checkerId = w.context.checker.id := by
  induction ms generalizing w with
  | nil => simp [live, told]
  | cons m rest ih =>
    obtain ⟨hcontext, heffect⟩ := effect_step w m.disk m.runner m.input
    intro p hp
    rw [told_live_cons, List.filterMap_append, List.mem_append] at hp
    rcases hp with hp | hp
    · exact heffect.checkerId hw hp
    · rw [← hcontext]
      exact ih (heffect.reportsOwn hcontext hw) p hp

end Worker

end Sidecheck
