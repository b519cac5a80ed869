import Sidecheck.Proofs.Stages
/-!
# Workers that are told things in order

Where a run watches, every worker is told three things: how to report, what to watch, and that no
more follows. A worker that hears them in this order, as far as they come, has nothing to complain
of (`not_violates`). It checks everything when it opens its watch and never again (`fullChecks_le`,
`fullChecks_of_opened`). The release only keeps it from listening: it goes on with the file events
as if nothing had been said (`live_deafen`).
-/

namespace Sidecheck

def CheckRun.isProject : CheckRun → Bool
  | .project _ => true
  | .file .. => false

namespace Worker

variable {w next : Worker} {disk : Disk} {runner : Runner} {input : Input} {actions : List Action}
  {before : List Message} {m : Message} {overlay terminal : Bool} {root : String}

def Message.isWatch : Message → Bool
  | .watch _ => true
  | .configure .. | .release => false

/-- The messages to a worker that watches. -/
def protocol (overlay terminal : Bool) (root : String) : List Message :=
  [.configure overlay terminal, .watch root, .release]

/-! ## Messages in order -/

/-- What comes next in the protocol, and after what. -/
theorem eq_of_prefix_protocol (h : before ++ [m] <+: protocol overlay terminal root) :
    before = [] ∧ m = .configure overlay terminal ∨
    before = [.configure overlay terminal] ∧ m = .watch root ∨
    before = [.configure overlay terminal, .watch root] ∧ m = .release := by
  match before with
  | [] => simpa [protocol] using h
  | [a] => simpa [protocol] using h
  | [a, b] => simpa [protocol, and_assoc] using h
  | a :: b :: c :: rest =>
    have hlength := h.length_le
    simp only [protocol, List.length_append, List.length_cons, List.length_nil] at hlength
    omega

theorem countP_isWatch_le (h : before <+: protocol overlay terminal root) :
    before.countP (·.isWatch) ≤ 1 :=
  h.sublist.countP_le

/-- A worker that has only been configured has a session, and no watch. -/
theorem Stage.of_configured (hw : w.Stage [.configure overlay terminal]) (h : w.hears = true) :
    w.session?.isSome = true ∧ w.watcher? = none := by
  cases hw with
  | configured _ _ hs hwatch => exact ⟨by simp [hs], hwatch⟩
  | watching hbegun =>
    obtain ⟨_, _, _, hbeginning⟩ := hbegun
    have hlength := hbeginning.length_le
    simp only [List.length_cons, List.length_nil] at hlength
    omega
  | ended _ hended => simp [hears, hended] at h

theorem not_violates (hw : w.Stage before) (h : w.hears = true)
    (hturn : before ++ [m] <+: protocol overlay terminal root) (v : Violation) :
    ¬ w.Violates m v := by
  intro hv
  rcases eq_of_prefix_protocol hturn with ⟨rfl, rfl⟩ | ⟨rfl, rfl⟩ | ⟨rfl, rfl⟩
  · -- Nothing was heard yet, so there is no session.
    cases hv with
    | configuredTwice _ _ hs =>
      rw [hw.isSome_session_iff (hears_eq_true_iff.1 h).2] at hs
      simp at hs
  · obtain ⟨hs, hwatch⟩ := hw.of_configured h
    cases hv with
    | notConfigured _ hs' => simp [hs'] at hs
    | watchedTwice _ _ hwatch' => simp [hwatch] at hwatch'
  · cases hv

/-! ## Reasons to stop -/

/-- Texts with different beginnings are different. -/
theorem ne_of_beginnings {a b s t : String}
    (h : ¬ (a.toList <+: b.toList ∨ b.toList <+: a.toList)) : a ++ s ≠ b ++ t := by
  intro heq
  have ha : a.toList <+: (b ++ t).toList := by simp [← heq]
  have hb : b.toList <+: (b ++ t).toList := by simp
  exact h (List.prefix_or_prefix_of_prefix ha hb)

theorem ne_of_beginnings_four {a b s s' s'' t : String}
    (h : ¬ (a.toList <+: b.toList ∨ b.toList <+: a.toList)) : a ++ s ++ s' ++ s'' ≠ b ++ t := by
  rw [String.append_assoc, String.append_assoc]
  exact ne_of_beginnings h

theorem Violation.exists_message (v : Violation) :
    ∃ rest, v.message = "protocol violation: " ++ rest := by
  cases v
  · exact ⟨"received Config twice", by decide⟩
  · exact ⟨"received ConfigureServer twice", by decide⟩
  · exact ⟨"received ConfigureServer before Config", by decide⟩

/-- Whoever gives a violation as the reason has found one. -/
theorem Failure.exists_of_message_eq {f : Failure} {v : Violation} (h : f.message = v.message) :
    ∃ v', f = .violation v' := by
  obtain ⟨rest, hv⟩ := v.exists_message
  rw [hv] at h
  cases f with
  | violation v' => exact ⟨v', rfl⟩
  | watch e =>
    cases e with
    | noRoot => exact absurd h (ne_of_beginnings (by decide))
    | badPattern | tooDeep => exact absurd h (ne_of_beginnings_four (by decide))
  | check e =>
    cases e with
    | noCommand => exact absurd h (ne_of_beginnings (by decide))
    | notStarted | exited | unreadable | invalidCommand =>
      exact absurd h (ne_of_beginnings_four (by decide))

theorem not_violation_of_mem_eventsOf {r : Report} {c : Checker} {reason : String} :
    WorkerEvent.failed c reason ∉ eventsOf r := by
  intro hmem
  have hfinal := isFinal_of_mem_eventsOf hmem
  cases hfinal

theorem giveUp_ne_violation {c : Context} {f : Failure} (hf : ∀ v, f ≠ .violation v) (c' : Checker)
    (v : Violation) : c.giveUp f ≠ .told (.failed c' v.message) := by
  intro heq
  simp only [Context.giveUp, Action.told.injEq, WorkerEvent.failed.injEq] at heq
  obtain ⟨v', hv'⟩ := Failure.exists_of_message_eq heq.2
  exact hf v' hv'

/-- What an input leads to is no violation, unless there is one. -/
theorem Takes.not_violation (ht : w.Takes disk runner input next actions)
    (hinput : ∀ m, input = .message m → w.hears = true → ∀ v, ¬ w.Violates m v) (c : Checker)
    (v : Violation) : .told (.failed c v.message) ∉ actions := by
  intro hmem
  cases ht with
  | ended | deaf | configured | released | closed | noticed | idle | dropped | unwatched =>
    cases hmem
  | violated m v h hv => exact hinput m rfl h v hv
  | unopened => exact giveUp_ne_violation (by simp) c v (List.mem_singleton.1 hmem).symm
  | unchecked =>
    simp only [List.mem_cons, List.not_mem_nil, or_false, reduceCtorEq, false_or] at hmem
    exact giveUp_ne_violation (by simp) c v hmem.symm
  | checked | handled =>
    simp [not_violation_of_mem_eventsOf] at hmem

/-! ## Full checks -/

def fullChecks (actions : List Action) : Nat := (runs actions).countP (·.isProject)

theorem fullChecks_append (xs ys : List Action) :
    fullChecks (xs ++ ys) = fullChecks xs + fullChecks ys := by
  simp [fullChecks, runs]

theorem fullChecks_map_told (events : List WorkerEvent) : fullChecks (events.map .told) = 0 := by
  simp [fullChecks, runs]

theorem fullChecks_handled (s : Session) (e : FileEvent) (events : List WorkerEvent) :
    fullChecks ((s.runFor? e).toList.map .ran ++ events.map .told) = 0 := by
  rw [fullChecks_append, fullChecks_map_told]
  cases e <;> rfl

theorem fullChecks_checked (root : String) (events : List WorkerEvent) :
    fullChecks (.ran (.project root) :: events.map .told) = 1 := by
  rw [← List.singleton_append, fullChecks_append, fullChecks_map_told]
  rfl

theorem hearing_of_hears (h : w.hears = true) (m : Message) : w.hearing (.message m) = [m] := by
  rw [hearing, if_pos h]

theorem hearing_cases (w : Worker) (input : Input) :
    w.hearing input = [] ∨ w.hears = true ∧ ∃ m, w.hearing input = [m] := by
  cases h : w.hears with
  | false => exact .inl (hearing_of_deaf h input)
  | true =>
    cases input with
    | message m => exact .inr ⟨rfl, m, hearing_of_hears h m⟩
    | closed | notice | fileEvent | unwatched => exact .inl rfl

/-- An input leads to a full check if it is the order to watch and is obeyed. -/
theorem Takes.fullChecks_le (ht : w.Takes disk runner input next actions) :
    fullChecks actions ≤ (w.hearing input).countP (·.isWatch) := by
  cases ht with
  | ended | deaf | configured | released | closed | noticed | idle | dropped | unwatched
  | violated | unopened =>
    exact Nat.zero_le _
  | unchecked root e h =>
    rw [hearing_of_hears h]
    exact Nat.le_refl 1
  | checked root store h =>
    rw [hearing_of_hears h, fullChecks_checked]
    exact Nat.le_refl 1
  | handled =>
    rw [fullChecks_handled]
    exact Nat.zero_le _

theorem Takes.le_fullChecks (ht : w.Takes disk runner input next actions)
    (h : next.hasEnded = false ∨ .release ∈ w.hearing input) :
    (w.hearing input).countP (·.isWatch) ≤ fullChecks actions := by
  cases ht with
  | ended _ hended =>
    rw [hearing_of_deaf (hears_eq_false_iff.2 (.inr hended))]
    exact Nat.le_refl 0
  | deaf m hl =>
    rw [hearing_of_deaf (hears_eq_false_iff.2 (.inl hl))]
    exact Nat.le_refl 0
  | violated m v hh hv =>
    rw [hearing_of_hears hh] at h
    cases hv <;> simp at h
  | unopened _ _ hh => simp [hearing_of_hears hh] at h
  | unchecked _ _ hh => simp [hearing_of_hears hh] at h
  | configured _ _ hh | released hh =>
    rw [hearing_of_hears hh]
    exact Nat.le_refl 0
  | checked root store hh =>
    rw [hearing_of_hears hh, fullChecks_checked]
    exact Nat.le_refl 1
  | closed | noticed | idle | dropped | handled | unwatched => exact Nat.zero_le _

theorem running_of_step (h : (w.step disk runner input).1.hasEnded = false) :
    w.hasEnded = false := by
  cases hended : w.hasEnded with
  | false => rfl
  | true => simp [step, hended] at h

/-- Once it has obeyed the order to watch, a worker has opened its watch and run the full check. -/
theorem Takes.fullChecks_of_opened {watcher : Watcher}
    (ht : w.Takes disk runner (.message (.watch root)) next actions) (h : w.hears = true)
    (hs : w.session?.isSome = true) (hwatch : w.watcher? = none)
    (hopen : openWatch w.context disk root = .ok watcher) : fullChecks actions = 1 := by
  cases ht with
  | ended _ hended => simp [hears, hended] at h
  | deaf _ hl => simp [hears, hl] at h
  | violated _ v _ hv =>
    cases hv with
    | notConfigured _ hs' => simp [hs'] at hs
    | watchedTwice _ _ hwatch' => simp [hwatch] at hwatch'
  | unopened _ e _ _ _ hopen' => simp [hopen] at hopen'
  | unchecked => rfl
  | checked => exact fullChecks_checked _ _

/-- A worker that runs the full check has just opened its watch, and keeps it. -/
theorem Takes.opened_of_ran {checkedRoot : String} (ht : w.Takes disk runner input next actions)
    (hran : .ran (.project checkedRoot) ∈ actions) :
    ∃ root watcher, input = .message (.watch root) ∧ w.hears = true ∧
      openWatch w.context disk root = .ok watcher ∧ next.watcher? = some watcher := by
  cases ht with
  | ended | deaf | configured | released | closed | noticed | idle | dropped | unwatched =>
    cases hran
  | violated | unopened => simp [Context.giveUp] at hran
  | unchecked root e h _ _ hopen => exact ⟨root, _, rfl, h, hopen, rfl⟩
  | checked root store h _ _ hopen => exact ⟨root, _, rfl, h, hopen, rfl⟩
  | @handled _ e => cases e <;> simp [Session.runFor?] at hran

/-! ## The release -/

/-- The worker, when it does not listen any more. -/
def deafen (w : Worker) : Worker := { w with isListening := false }

def Input.isOfFiles : Input → Bool
  | .notice _ | .fileEvent => true
  | .message _ | .closed | .unwatched => false

theorem step_release (h : w.hears = true) (hwatch : w.watcher?.isSome = true) (disk : Disk)
    (runner : Runner) : w.step disk runner (.message .release) = (w.deafen, []) := by
  obtain ⟨hl, hrunning⟩ := hears_eq_true_iff.1 h
  simp [step, takeMessage, settle, deafen, hl, hrunning, hwatch]

theorem afterStep_deafen (w : Worker) (step : Session.Step) :
    w.deafen.afterStep step = ((w.afterStep step).1.deafen, (w.afterStep step).2) := by
  cases h : step.shown <;> simp [afterStep, fail, deafen, h]

theorem step_deafen (h : input.isOfFiles = true) (w : Worker) (disk : Disk) (runner : Runner) :
    w.deafen.step disk runner input =
      ((w.step disk runner input).1.deafen, (w.step disk runner input).2) := by
  cases hended : w.hasEnded with
  | true => simp [step, deafen, hended]
  | false =>
    cases input with
    | message | closed | unwatched => cases h
    | notice n => simp [step, deafen, hended]
    | fileEvent =>
      cases hwait : w.watcher?.bind (·.take?) with
      | none => simp [step, takeFileEvent, deafen, hended, hwait]
      | some taken =>
        obtain ⟨e, watcher⟩ := taken
        cases hs : w.session? with
        | none => simp [step, takeFileEvent, deafen, hended, hwait, hs]
        | some s =>
          have hafter :=
            afterStep_deafen { w with watcher? := some watcher } (s.handle disk runner e)
          simpa [step, takeFileEvent, deafen, hended, hwait, hs] using hafter

theorem live_deafen (w : Worker) {ms : List Moment} (h : ∀ m ∈ ms, m.input.isOfFiles = true) :
    w.deafen.live ms = ((w.live ms).1.deafen, (w.live ms).2) := by
  induction ms generalizing w with
  | nil => rfl
  | cons m ms ih =>
    obtain ⟨hm, hms⟩ := List.forall_mem_cons.1 h
    simp only [live, step_deafen hm, ih _ hms]

/-- Files never end a worker that takes their events. -/
theorem Takes.hasEnded_of_files (ht : w.Takes disk runner input next actions)
    (h : input.isOfFiles = true) : next.hasEnded = w.hasEnded := by
  cases ht with
  | ended | noticed | idle | dropped | handled => rfl
  | deaf | violated | configured | unopened | unchecked | checked | released | closed | unwatched =>
    cases h

theorem hasEnded_live (w : Worker) {ms : List Moment} (h : ∀ m ∈ ms, m.input.isOfFiles = true) :
    (w.live ms).1.hasEnded = w.hasEnded := by
  induction ms generalizing w with
  | nil => rfl
  | cons m ms ih =>
    obtain ⟨hm, hms⟩ := List.forall_mem_cons.1 h
    exact (ih _ hms).trans ((takes_step w m.disk m.runner m.input).hasEnded_of_files hm)

end Worker

namespace Worker.Life

variable {l : Life} {overlay terminal : Bool} {root : String}

theorem fullChecks_le (l : Life) : fullChecks l.actions ≤ l.heard.countP (·.isWatch) := by
  induction l using by_moments with
  | begin c => exact Nat.le_refl 0
  | moment l m ih =>
    have hstep := (takes_step l.worker m.disk m.runner m.input).fullChecks_le
    rw [actions_further, heard_further, live_singleton, heard_singleton, fullChecks_append,
      List.countP_append]
    omega

/-- Every order to watch that was not the end has led to a full check. -/
theorem le_fullChecks (l : Life)
    (h : l.worker.hasEnded = false ∨ l.heard.getLast? = some .release) :
    l.heard.countP (·.isWatch) ≤ fullChecks l.actions := by
  induction l using by_moments with
  | begin c => exact Nat.le_refl 0
  | moment l m ih =>
    have ht := takes_step l.worker m.disk m.runner m.input
    rw [worker_further, heard_further, live_singleton, heard_singleton] at h
    rw [actions_further, heard_further, live_singleton, heard_singleton, fullChecks_append,
      List.countP_append]
    rcases h with hrunning | hlast
    · have hbefore := ih (.inl (running_of_step hrunning))
      have hstep := ht.le_fullChecks (.inl hrunning)
      omega
    · rcases l.worker.hearing_cases m.input with hnothing | ⟨hhears, last, hheard⟩
      · rw [hnothing, List.append_nil] at hlast
        have hbefore := ih (.inr hlast)
        rw [hnothing]
        exact Nat.le_add_right_of_le hbefore
      · -- What is heard was the release, and the worker had not ended then.
        have hbefore := ih (.inl (hears_eq_true_iff.1 hhears).2)
        have hrelease : last = .release := by simpa [hheard] using hlast
        have hstep := ht.le_fullChecks (.inr (by simp [hheard, hrelease]))
        omega

theorem not_violation (l : Life) (h : l.heard <+: protocol overlay terminal root) (c : Checker)
    (v : Violation) : .told (.failed c v.message) ∉ l.actions := by
  induction l using by_moments with
  | begin c => exact List.not_mem_nil
  | moment l m ih =>
    rw [heard_further, heard_singleton] at h
    rw [actions_further, live_singleton, List.mem_append]
    rintro (hmem | hmem)
    · exact ih ((List.prefix_append _ _).trans h) hmem
    · refine (takes_step l.worker m.disk m.runner m.input).not_violation ?_ c v hmem
      intro message hmessage hhears
      rw [hmessage, hearing_of_hears hhears] at h
      exact not_violates l.stage_worker hhears h

/-- A message that is taken is in its turn. -/
theorem in_turn {m : Moment} {rest : List Moment} {message : Message}
    (h : (l.further (m :: rest)).heard <+: protocol overlay terminal root)
    (hinput : m.input = .message message) (hhears : l.worker.hears = true) :
    l.heard ++ [message] <+: protocol overlay terminal root := by
  rw [heard_further, Worker.heard, hinput, hearing_of_hears hhears, ← List.append_assoc] at h
  exact (List.prefix_append _ _).trans h

theorem in_turn_watch {root' : String}
    (h : l.heard ++ [.watch root'] <+: protocol overlay terminal root) :
    l.heard = [.configure overlay terminal] ∧ root' = root := by
  rcases eq_of_prefix_protocol h with ⟨-, hm⟩ | ⟨hheard, hm⟩ | ⟨-, hm⟩
  · cases hm
  · exact ⟨hheard, by simpa using hm⟩
  · cases hm

/-- The full check is run once if the watch can be opened. -/
theorem fullChecks_of_opened {m : Moment} {rest : List Moment} {watcher : Watcher}
    (h : (l.further (m :: rest)).heard <+: protocol overlay terminal root)
    (hinput : m.input = .message (.watch root)) (hhears : l.worker.hears = true)
    (hopen : openWatch l.context m.disk root = .ok watcher) :
    fullChecks (l.further (m :: rest)).actions = 1 := by
  have hmost := Nat.le_trans (l.further (m :: rest)).fullChecks_le (countP_isWatch_le h)
  have hstep : fullChecks (l.worker.step m.disk m.runner m.input).2 = 1 := by
    have hstage := l.stage_worker
    rw [(in_turn_watch (in_turn h hinput hhears)).1] at hstage
    obtain ⟨hs, hwatch⟩ := hstage.of_configured hhears
    have ht := takes_step l.worker m.disk m.runner m.input
    rw [hinput] at ht ⊢
    exact ht.fullChecks_of_opened hhears hs hwatch (by rwa [context_worker])
  rw [actions_further, live, fullChecks_append, fullChecks_append] at hmost ⊢
  omega

theorem fullChecks_of_released (h : l.heard = protocol overlay terminal root) :
    fullChecks l.actions = 1 := by
  have hmost := l.fullChecks_le
  have hleast := l.le_fullChecks (.inr (by rw [h]; rfl))
  rw [h] at hmost hleast
  exact Nat.le_antisymm hmost hleast

/-- With the release, a worker that watches goes on as before. -/
theorem further_release (h : l.worker.hears = true) (hwatch : l.worker.watcher?.isSome = true)
    (disk : Disk) (runner : Runner) {ms : List Moment}
    (hms : ∀ m ∈ ms, m.input.isOfFiles = true) :
    let free := (l.further [⟨disk, runner, .message .release⟩]).further ms
    free.worker = (l.further ms).worker.deafen ∧ free.actions = (l.further ms).actions ∧
      free.worker.hasEnded = false ∧ free.Handles := by
  intro free
  have hworker : free.worker = (l.further ms).worker.deafen := by
    simp only [free, worker_further, live_singleton, step_release h hwatch, live_deafen _ hms]
  have hactions : free.actions = (l.further ms).actions := by
    simp only [free, worker_further, actions_further, live_singleton, step_release h hwatch,
      live_deafen _ hms, List.append_nil]
  have hrunning : free.worker.hasEnded = false := by
    rw [hworker, worker_further]
    exact (hasEnded_live l.worker hms).trans (hears_eq_true_iff.1 h).2
  exact ⟨hworker, hactions, hrunning, handles_of_running hrunning⟩

end Worker.Life

end Sidecheck
