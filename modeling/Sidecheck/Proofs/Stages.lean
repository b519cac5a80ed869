import Mathlib.Data.List.Induction
import Sidecheck.Proofs.Posting
/-!
# How far a worker has come

A worker's parts change with every message and file event, but few of their combinations come about,
and `Worker.Stage` lists them together with the messages that lead there. `Takes.stage` shows that
no input leads out of the list.

What a worker may be told and what it does then follows from its stage: nothing is checked or
reported before it was configured and told to watch (`begun_of_work`), a message out of turn is its
end (`step_of_violates`), no message counts after its release (`live_eq_filter`), and an event that
is taken finds a session that waits for it (`Stage.watching_of_watcher`).
-/

namespace Sidecheck

/-- The action is a check, or part of a report. -/
def Worker.Action.isWork : Worker.Action → Bool
  | .ran _ => true
  | .told e => !e.isFinal

/-- The input is a message. -/
def Worker.Input.isMessage : Worker.Input → Bool
  | .message _ => true
  | _ => false

namespace Worker

variable {w next : Worker} {disk : Disk} {runner : Runner} {input : Input} {done : List Action}

/-! ## What is heard -/

/-- The message that an input is, if the worker takes it. -/
def hearing (w : Worker) : Input → List Message
  | .message m => if w.hears then [m] else []
  | _ => []

/-- The messages that a worker takes, in their order. -/
def heard (w : Worker) : List Moment → List Message
  | [] => []
  | m :: rest => w.hearing m.input ++ (w.step m.disk m.runner m.input).1.heard rest

theorem live_append (w : Worker) (ms ns : List Moment) :
    w.live (ms ++ ns) =
      (((w.live ms).1.live ns).1, (w.live ms).2 ++ ((w.live ms).1.live ns).2) := by
  induction ms generalizing w with
  | nil => rfl
  | cons m ms ih => simp [live, ih]

theorem heard_append (w : Worker) (ms ns : List Moment) :
    w.heard (ms ++ ns) = w.heard ms ++ (w.live ms).1.heard ns := by
  induction ms generalizing w with
  | nil => rfl
  | cons m ms ih => simp [heard, live, ih]

theorem live_singleton (w : Worker) (m : Moment) : w.live [m] = w.step m.disk m.runner m.input := by
  simp [live]

theorem heard_singleton (w : Worker) (m : Moment) : w.heard [m] = w.hearing m.input := by
  simp [heard]

theorem hears_eq_true_iff : w.hears = true ↔ w.isListening = true ∧ w.hasEnded = false := by
  simp [hears]

theorem hears_eq_false_iff : w.hears = false ↔ w.isListening = false ∨ w.hasEnded = true := by
  cases hl : w.isListening <;> simp [hears, hl]

theorem hearing_of_deaf (h : w.hears = false) (input : Input) : w.hearing input = [] := by
  cases input <;> simp [hearing, h]

/-! ## Stages -/

/-- The worker was configured first and told to watch next. -/
def Begun (messages : List Message) : Prop :=
  ∃ overlay terminal root, [.configure overlay terminal, .watch root] <+: messages

theorem Begun.append {messages : List Message} (h : Begun messages) (more : List Message) :
    Begun (messages ++ more) := by
  obtain ⟨overlay, terminal, root, hbeginning⟩ := h
  exact ⟨overlay, terminal, root, hbeginning.trans (List.prefix_append messages more)⟩

theorem Begun.exists_configure {messages : List Message} (h : Begun messages) :
    ∃ overlay terminal, .configure overlay terminal ∈ messages := by
  obtain ⟨overlay, terminal, root, hbeginning⟩ := h
  exact ⟨overlay, terminal, hbeginning.subset List.mem_cons_self⟩

/-- The combinations of a worker's parts that come about, each with the messages that lead to
it. -/
inductive Stage (w : Worker) : List Message → Prop
  | fresh (hsession : w.session? = none) (hwatch : w.watcher? = none) (h : w.hears = true) :
    Stage w []
  | configured {s : Session} (overlay terminal : Bool) (hsession : w.session? = some s)
    (hwatch : w.watcher? = none) (h : w.hears = true) : Stage w [.configure overlay terminal]
  /-- A full check was successful. Messages or events can still arrive. -/
  | watching {s : Session} {before : List Message} (hbegun : Begun before)
    (hsession : w.session? = some s) (hphase : s.phase = .watching)
    (hopen : w.isListening = true ∨ w.watcher?.isSome = true) (h : w.hasEnded = false) :
    Stage w before
  | ended (before : List Message) (h : w.hasEnded = true) : Stage w before

variable {before : List Message}

theorem stage_begin (c : Context) : Stage { context := c } [] := .fresh rfl rfl rfl

/-- Only a session that waits for events has a watch open. -/
theorem Stage.watching_of_watcher (hw : w.Stage before) (h : w.hasEnded = false)
    (hwatch : w.watcher?.isSome = true) :
    Begun before ∧ ∃ s, w.session? = some s ∧ s.phase = .watching := by
  cases hw with
  | fresh _ hnone | configured _ _ _ hnone => simp [hnone] at hwatch
  | watching hbegun hs hphase => exact ⟨hbegun, _, hs, hphase⟩
  | ended _ hended => simp [h] at hended

theorem Stage.watching_of_take {e : FileEvent} {watcher : Watcher} (hw : w.Stage before)
    (h : w.hasEnded = false) (hwait : w.watcher?.bind (·.take?) = some (e, watcher)) :
    Begun before ∧ ∃ s, w.session? = some s ∧ s.phase = .watching := by
  obtain ⟨_, hwatch, _⟩ := Option.bind_eq_some_iff.1 hwait
  exact hw.watching_of_watcher h (by simp [hwatch])

/-- There is a session from the first configuration on. -/
theorem Stage.isSome_session_iff (hw : w.Stage before) (h : w.hasEnded = false) :
    w.session?.isSome = true ↔ ∃ overlay terminal, .configure overlay terminal ∈ before := by
  cases hw with
  | fresh hs => simp [hs]
  | configured overlay terminal hs => simp [hs]
  | watching hbegun hs => exact ⟨fun _ => hbegun.exists_configure, fun _ => by simp [hs]⟩
  | ended _ hended => simp [h] at hended

theorem Stage.begun_of_watch {s : Session} (hw : w.Stage before) (h : w.hears = true)
    (hs : w.session? = some s) (root : String) :
    Begun (before ++ w.hearing (.message (.watch root))) := by
  cases hw with
  | fresh hs' => simp [hs] at hs'
  | configured overlay terminal =>
    refine ⟨overlay, terminal, root, ?_⟩
    simp [hearing, h]
  | watching hbegun => exact hbegun.append _
  | ended _ hended => simp [hears, hended] at h

theorem Stage.settle_deaf (hw : w.Stage before) (h : w.hasEnded = false) (more : List Message) :
    Stage ({ w with isListening := false } : Worker).settle (before ++ more) := by
  unfold settle
  split
  · rename_i hopen
    have hwatch : w.watcher?.isSome = true := by simpa using hopen
    obtain ⟨hbegun, s, hs, hphase⟩ := hw.watching_of_watcher h hwatch
    exact .watching (hbegun.append more) hs hphase (.inr hwatch) h
  · exact .ended _ rfl

theorem Stage.settle_unwatched (hw : w.Stage before) (h : w.hasEnded = false) :
    Stage ({ w with watcher? := none } : Worker).settle before := by
  unfold settle
  split
  · rename_i hopen
    have hlistening : w.isListening = true := by simpa using hopen
    cases hw with
    | fresh hs _ hh => exact .fresh hs rfl hh
    | configured overlay terminal hs _ hh => exact .configured overlay terminal hs rfl hh
    | watching hbegun hs hphase => exact .watching hbegun hs hphase (.inl hlistening) h
    | ended _ hended => exact .ended _ hended
  · exact .ended _ rfl

/-- No input leads out of the list of stages. -/
theorem Takes.stage (ht : w.Takes disk runner input next done) (hw : w.Stage before) :
    next.Stage (before ++ w.hearing input) := by
  cases ht with
  | ended _ h => exact .ended _ h
  | deaf m h =>
    rw [hearing_of_deaf (hears_eq_false_iff.2 (.inl h)), List.append_nil]
    exact hw
  | violated | unopened | unchecked => exact .ended _ rfl
  | configured overlay terminal h hs =>
    cases hw with
    | fresh _ hwatch =>
      rw [hearing, if_pos h, List.nil_append]
      exact .configured overlay terminal rfl hwatch h
    | configured _ _ hs' | watching _ hs' => simp [hs] at hs'
    | ended _ hended => simp [hears, hended] at h
  | checked root store h hs =>
    have hbegun := hw.begun_of_watch h hs root
    exact .watching hbegun rfl rfl (.inr rfl) (hears_eq_true_iff.1 h).2
  | released h => exact hw.settle_deaf (hears_eq_true_iff.1 h).2 _
  | closed h => exact hw.settle_deaf h _
  | noticed n h =>
    simp only [hearing, List.append_nil]
    cases hw with
    | fresh hs hwatch hh => exact .fresh hs (by simp [hwatch]) hh
    | configured overlay terminal hs hwatch hh =>
      exact .configured overlay terminal hs (by simp [hwatch]) hh
    | watching hbegun hs hphase hopen => exact .watching hbegun hs hphase (by simpa using hopen) h
    | ended _ hended => exact .ended _ hended
  | idle =>
    simp only [hearing, List.append_nil]
    exact hw
  | dropped h hwait hidle =>
    -- An event that waits is that of an open watch, and then the session waits for events.
    obtain ⟨-, s, hs, hphase⟩ := hw.watching_of_take h hwait
    simp [hidle s hs] at hphase
  | handled h hwait =>
    simp only [hearing, List.append_nil]
    exact .watching (hw.watching_of_take h hwait).1 rfl rfl (.inr rfl) h
  | unwatched h =>
    simp only [hearing, List.append_nil]
    exact hw.settle_unwatched h

theorem stage_live (hw : w.Stage before) (ms : List Moment) :
    (w.live ms).1.Stage (before ++ w.heard ms) := by
  induction ms generalizing w before with
  | nil => simpa [live, heard] using hw
  | cons m ms ih =>
    rw [heard, ← List.append_assoc]
    exact ih ((takes_step w m.disk m.runner m.input).stage hw)

/-! ## The beginning -/

theorem Takes.begun_of_work (ht : w.Takes disk runner input next done) (hw : w.Stage before)
    {a : Action} (ha : a ∈ done) (hwork : a.isWork = true) : Begun (before ++ w.hearing input) := by
  cases ht with
  | ended | deaf | configured | released | closed | noticed | idle | dropped | unwatched =>
    cases ha
  | violated | unopened =>
    rw [List.mem_singleton.1 ha] at hwork
    cases hwork
  | unchecked root e h hs => exact hw.begun_of_watch h hs root
  | checked root store h hs => exact hw.begun_of_watch h hs root
  | handled h hwait => exact (hw.watching_of_take h hwait).1.append _

/-- Nothing is checked or reported before the beginning is complete. -/
theorem begun_of_work (hw : w.Stage before) {ms : List Moment} {a : Action}
    (ha : a ∈ (w.live ms).2) (hwork : a.isWork = true) : Begun (before ++ w.heard ms) := by
  induction ms generalizing w before with
  | nil => cases ha
  | cons m ms ih =>
    have ht := takes_step w m.disk m.runner m.input
    rw [heard, ← List.append_assoc]
    rcases List.mem_append.1 ha with ha | ha
    · exact (ht.begun_of_work hw ha hwork).append _
    · exact ih (ht.stage hw) ha

/-! ## The end -/

/-- A message out of turn is the end. -/
theorem step_of_violates {m : Message} {v : Violation} (h : w.hears = true) (hv : w.Violates m v)
    (disk : Disk) (runner : Runner) :
    w.step disk runner (.message m) =
      ({ w with hasEnded := true }, [w.context.giveUp (.violation v)]) := by
  obtain ⟨hl, hrunning⟩ := hears_eq_true_iff.1 h
  cases hv with
  | notConfigured root hs => simp [step, takeMessage, fail, hl, hrunning, hs]
  | configuredTwice overlay terminal hs =>
    obtain ⟨s, hs⟩ := Option.isSome_iff_exists.1 hs
    simp [step, takeMessage, fail, hl, hrunning, hs]
  | watchedTwice root hs hwatch =>
    obtain ⟨s, hs⟩ := Option.isSome_iff_exists.1 hs
    obtain ⟨watcher, hwatch⟩ := Option.isSome_iff_exists.1 hwatch
    simp [step, takeMessage, fail, hl, hrunning, hs, hwatch]

/-- An event that a session waits for is applied, and the store after it is reported. -/
theorem step_of_take {s : Session} {e : FileEvent} {watcher : Watcher} (h : w.hasEnded = false)
    (hwait : w.watcher?.bind (·.take?) = some (e, watcher)) (hs : w.session? = some s)
    (hphase : s.phase = .watching) (disk : Disk) (runner : Runner) :
    w.step disk runner .fileEvent =
      ({ w with
          watcher? := some watcher
          session? := some { s with store := s.storeAfter disk runner e } },
        (s.runFor? e).toList.map .ran ++
          (eventsOf (s.reporter.report (s.storeAfter disk runner e))).map .told) := by
  simp [step, takeFileEvent, afterStep, h, hwait, hs, Session.handle_of_watching hphase, ← hphase]

/-- Reports, and behind them at most one failure, with which the worker ends. -/
structure Output (c : Context) (ended : Bool) (events : List WorkerEvent) (reports : List Report)
    (failure? : Option Failure) : Prop where
  events_eq : events = reports.flatMap eventsOf ++
    failure?.toList.map fun f => .failed c.checker f.message
  ended : failure?.isSome = true → ended = true
  own : ∀ r ∈ reports, ∃ overlay terminal store, r = (reporter c overlay terminal).report store

theorem exists_output_live (hw : w.ReportsOwn) (ms : List Moment) :
    ∃ reports failure?,
      Output w.context (w.live ms).1.hasEnded (told (w.live ms).2) reports failure? := by
  induction ms generalizing w with
  | nil => exact ⟨[], none, rfl, by simp, by simp⟩
  | cons m ms ih =>
    obtain ⟨hcontext, heffect⟩ := effect_step w m.disk m.runner m.input
    obtain ⟨reports, failure?, htold, hended, hown⟩ := ih (heffect.reportsOwn hcontext hw)
    rw [hcontext] at htold hown
    rw [told_live_cons, htold]
    generalize told (w.step m.disk m.runner m.input).2 = events at heffect ⊢
    cases heffect with
    | silent | configured => exact ⟨reports, failure?, rfl, hended, hown⟩
    | @reported s store hs =>
      obtain ⟨overlay, terminal, hreporter⟩ := hw s hs
      refine ⟨s.reporter.report store :: reports, failure?, by simp, hended, ?_⟩
      intro r hr
      rcases List.mem_cons.1 hr with rfl | hr
      · exact ⟨overlay, terminal, store, by rw [hreporter]⟩
      · exact hown r hr
    | failed f _ hlast =>
      -- Nothing follows, as the worker has ended.
      rw [live_of_hasEnded hlast] at htold
      rw [← htold]
      refine ⟨[], some f, by simp [told], ?_, by simp⟩
      intro _
      simp only [live, live_of_hasEnded hlast, hlast]

/-! ## The release -/

theorem settle_isListening (w : Worker) : w.settle.isListening = w.isListening := by
  unfold settle
  split <;> rfl

theorem hasEnded_settle (h : w.hasEnded = true) : w.settle.hasEnded = true := by
  unfold settle
  split
  · exact h
  · rfl

theorem Takes.hears_eq_false (ht : w.Takes disk runner input next done) (h : w.hears = false) :
    next.hears = false := by
  rw [hears_eq_false_iff] at h ⊢
  cases ht with
  | ended | deaf | noticed | idle | dropped | handled => exact h
  | violated | unopened | unchecked => exact .inr rfl
  | configured | checked => exact h
  | released | closed => exact .inl (settle_isListening _)
  | unwatched =>
    rcases h with hl | hended
    · exact .inl ((settle_isListening _).trans hl)
    · exact .inr (hasEnded_settle hended)

/-- The release and the end of the channel are the last that a worker hears. -/
theorem hears_of_released (h : input = .message .release ∨ input = .closed) :
    (w.step disk runner input).1.hears = false := by
  have ht := takes_step w disk runner input
  generalize (w.step disk runner input).1 = next, (w.step disk runner input).2 = done at ht ⊢
  rw [hears_eq_false_iff]
  rcases h with rfl | rfl
  · cases ht with
    | ended _ hended => exact .inr hended
    | deaf _ hl => exact .inl hl
    | violated _ _ _ hv => cases hv
    | released => exact .inl (settle_isListening _)
  · cases ht with
    | ended _ hended => exact .inr hended
    | closed => exact .inl (settle_isListening _)

/-- Whoever takes no more messages does not notice them. -/
theorem live_eq_filter (h : w.hears = false) (ms : List Moment) :
    w.live ms = w.live (ms.filter (!·.input.isMessage)) := by
  induction ms generalizing w with
  | nil => rfl
  | cons m ms ih =>
    have hnext := (takes_step w m.disk m.runner m.input).hears_eq_false h
    cases hm : m.input.isMessage with
    | false => simp only [live, List.filter_cons, hm, Bool.not_false, if_true, ih hnext]
    | true =>
      have hstep : w.step m.disk m.runner m.input = (w, []) := by
        cases hinput : m.input with
        | message msg =>
          rcases hears_eq_false_iff.1 h with hl | hended
          · simp [step, hl]
          · simp [step, hended]
        | closed | notice _ | fileEvent | unwatched => simp [hinput, Input.isMessage] at hm
      simp only [live, List.filter_cons, hm, hstep, Bool.not_true, Bool.false_eq_true, if_false,
        List.nil_append]
      exact ih h

/-! ## Lives -/

theorem context_live (w : Worker) (ms : List Moment) : (w.live ms).1.context = w.context := by
  induction ms generalizing w with
  | nil => rfl
  | cons m ms ih => exact (ih _).trans (effect_step w m.disk m.runner m.input).1

namespace Life

def actions (l : Life) : List Action := (live { context := l.context } l.moments).2

/-- The messages that the worker has taken. -/
def heard (l : Life) : List Message := Worker.heard { context := l.context } l.moments

def further (l : Life) (ms : List Moment) : Life := { l with moments := l.moments ++ ms }

variable (l : Life)

theorem worker_further (ms : List Moment) : (l.further ms).worker = (l.worker.live ms).1 := by
  simp only [worker, further, live_append]

theorem actions_further (ms : List Moment) :
    (l.further ms).actions = l.actions ++ (l.worker.live ms).2 := by
  simp only [actions, worker, further, live_append]

theorem heard_further (ms : List Moment) :
    (l.further ms).heard = l.heard ++ l.worker.heard ms := by
  simp only [heard, worker, further, heard_append]

theorem context_worker : l.worker.context = l.context := context_live _ _

/-- A life is the beginning, or a life with one moment more. -/
@[elab_as_elim]
theorem by_moments {motive : Life → Prop} (begin : ∀ c, motive ⟨c, []⟩)
    (moment : ∀ l m, motive l → motive (l.further [m])) (l : Life) : motive l := by
  obtain ⟨c, ms⟩ := l
  induction ms using List.reverseRecOn with
  | nil => exact begin c
  | append_singleton ms m ih => exact moment ⟨c, ms⟩ m ih

theorem stage_worker : l.worker.Stage l.heard := stage_live (stage_begin l.context) l.moments

/-- With the next message the worker ends: it reports a violation, and does nothing else, whatever
comes later. -/
def EndsAt (m : Message) (v : Violation) : Prop :=
  ∀ disk runner more, (l.further (⟨disk, runner, .message m⟩ :: more)).worker.hasEnded = true ∧
    (l.further (⟨disk, runner, .message m⟩ :: more)).actions =
      l.actions ++ [l.context.giveUp (.violation v)]

/-- If an event waits, one is taken. It finds a session that waits for it and is applied, and the
store after it is reported. -/
def Handles : Prop :=
  ∀ watcher, l.worker.watcher? = some watcher → watcher.isIdle = false →
    ∃ e rest, watcher.take? = some (e, rest) ∧
      ∃ s, l.worker.session? = some s ∧ s.phase = .watching ∧ ∀ disk runner,
        let after := l.further [⟨disk, runner, .fileEvent⟩]
        after.worker.session? = some { s with store := s.storeAfter disk runner e } ∧
          after.actions = l.actions ++ ((s.runFor? e).toList.map .ran ++
            (eventsOf (s.reporter.report (s.storeAfter disk runner e))).map .told)

variable {l}

theorem endsAt_of_violates {m : Message} {v : Violation} (h : l.worker.hears = true)
    (hv : l.worker.Violates m v) : l.EndsAt m v := by
  intro disk runner more
  rw [worker_further, actions_further, ← context_worker]
  simp only [live, step_of_violates h hv, live_of_hasEnded, List.append_nil, and_self]

theorem handles_of_running (h : l.worker.hasEnded = false) : l.Handles := by
  intro watcher hwatcher hwaits
  have htake : watcher.take? ≠ none := by
    rw [ne_eq, Watcher.take?_eq_none_iff, hwaits]
    exact Bool.false_ne_true
  obtain ⟨⟨e, rest⟩, htake⟩ := Option.ne_none_iff_exists'.1 htake
  have hwait : l.worker.watcher?.bind (·.take?) = some (e, rest) := by
    rw [hwatcher, Option.bind_some, htake]
  obtain ⟨-, s, hs, hphase⟩ := l.stage_worker.watching_of_take h hwait
  refine ⟨e, rest, htake, s, hs, hphase, ?_⟩
  intro disk runner after
  rw [worker_further, actions_further]
  simp only [live, step_of_take h hwait hs hphase, List.append_nil, and_self]

/-- A worker that watches keeps to its protocol, whatever it is sent and whatever happens to the
files. -/
structure Safe (l : Life) : Prop where
  output : ∃ reports failure?, Output l.context l.worker.hasEnded l.told reports failure?
  unfinished : ∀ checker summary, .finished checker summary ∉ l.told
  /-- Nothing is checked or reported before a configuration, and then an order to watch, are
  received. -/
  begun : ∀ a ∈ l.actions, a.isWork = true → Begun l.heard
  notConfigured : l.worker.hears = true →
    (∀ overlay terminal, .configure overlay terminal ∉ l.heard) →
    ∀ root, l.EndsAt (.watch root) .notConfigured
  configuredTwice : l.worker.hears = true →
    (∃ overlay terminal, .configure overlay terminal ∈ l.heard) →
    ∀ overlay terminal, l.EndsAt (.configure overlay terminal) .configuredTwice
  watchedTwice : l.worker.hears = true → l.worker.watcher?.isSome = true →
    ∀ root, l.EndsAt (.watch root) .watchedTwice
  /-- After the release, or the end of the channel, messages change nothing. -/
  released : ∀ disk runner input, input = .message .release ∨ input = .closed → ∀ more,
    let after := l.further [⟨disk, runner, input⟩]
    (after.further more).worker = (after.further (more.filter (!·.input.isMessage))).worker ∧
      (after.further more).actions = (after.further (more.filter (!·.input.isMessage))).actions
  handled : l.worker.hasEnded = false → l.Handles

/-- A worker is safe under any messages. -/
theorem serving_safe (l : Life) : l.Safe where
  output := exists_output_live (reportsOwn_begin l.context) l.moments
  unfinished checker summary hmem := by
    obtain ⟨reports, failure?, houtput⟩ := exists_output_live (reportsOwn_begin l.context) l.moments
    rw [told, houtput.events_eq] at hmem
    simp [eventsOf] at hmem
  begun a ha hwork := by
    have hbegun := begun_of_work (stage_begin l.context) ha hwork
    rwa [List.nil_append] at hbegun
  notConfigured h hnone root := by
    refine endsAt_of_violates h (.notConfigured root ?_)
    rw [← Option.not_isSome_iff_eq_none,
      l.stage_worker.isSome_session_iff (hears_eq_true_iff.1 h).2]
    rintro ⟨overlay, terminal, hmem⟩
    exact hnone overlay terminal hmem
  configuredTwice h hmem overlay terminal := by
    refine endsAt_of_violates h (.configuredTwice overlay terminal ?_)
    exact (l.stage_worker.isSome_session_iff (hears_eq_true_iff.1 h).2).2 hmem
  watchedTwice h hwatch root := by
    obtain ⟨-, s, hs, -⟩ := l.stage_worker.watching_of_watcher (hears_eq_true_iff.1 h).2 hwatch
    exact endsAt_of_violates h (.watchedTwice root (by simp [hs]) hwatch)
  released disk runner input hinput more := by
    intro after
    have hdeaf : after.worker.hears = false := by
      rw [worker_further]
      exact hears_of_released hinput
    rw [after.worker_further, after.worker_further, after.actions_further, after.actions_further,
      ← live_eq_filter hdeaf]
    exact ⟨rfl, rfl⟩
  handled := handles_of_running

/-- A linter watches, and a file has changed. A second order to watch would be the end; the change,
when it is taken, is handled. -/
theorem serving_safe_linter :
    let disk : Disk := ⟨.directory [("p", .directory [("a", .file .empty false)])], []⟩
    let runner : Runner := ⟨.esLint, fun _ => .ok [], fun _ _ => .ok []⟩
    let l : Life :=
      { context := ⟨.esLint, "/p", false, none, ["."], []⟩
        moments := [.message (.configure false true), .message (.watch "/p"),
          .notice ⟨.modified, ["/p/a".toUTF8]⟩].map (⟨disk, runner, ·⟩) }
    l.Safe ∧ l.EndsAt (.watch "/p") .watchedTwice ∧
      ∃ watcher rest s, l.worker.watcher? = some watcher ∧
        watcher.take? = some (.change "/p/a", rest) ∧ l.worker.session? = some s ∧
        s.phase = .watching := by
  intro disk runner l
  have hsafe := serving_safe l
  have hchange : l.worker.watcher?.map (fun w => (w.isIdle, w.take?.map (·.1))) =
      some (false, some (.change "/p/a")) := by
    dsimp only [l, runner, disk]
    decide +kernel
  obtain ⟨watcher, hwatcher, hwaits⟩ := Option.map_eq_some_iff.1 hchange
  obtain ⟨hwaits, hfirst⟩ := Prod.mk.inj hwaits
  obtain ⟨e, rest, htake, s, hs, hphase, -⟩ := hsafe.handled (by rfl) watcher hwatcher hwaits
  obtain rfl : e = .change "/p/a" := by
    rw [htake] at hfirst
    exact Option.some.inj hfirst
  exact ⟨hsafe, hsafe.watchedTwice (by rfl) (by rfl) "/p", watcher, rest, s, hwatcher, htake, hs,
    hphase⟩

end Life

end Worker

end Sidecheck
