import Mathlib.Data.List.Nodup
import Sidecheck.Proofs.Protocol
import Sidecheck.Run
/-!
# The coordinator and its workers

The coordinator spawns a worker for each checker, then sends every message to one worker after the
other, and at some time leaves. Each worker takes what is in its mailbox, or what comes of its
files, when it likes. `Team.Reached` are the states that this can lead to.

What a worker has heard, what is in its mailbox and what is still to be sent to it are together the
messages of the run, in their order (`Desk.Sound`). So whatever the others do, a worker that watches
is told things in order, and one that builds is told nothing.
-/

namespace Sidecheck

open Worker (Action Context Life Moment)

/-! ## The team -/

/-- What the coordinator sends, each message with the place of its worker. A message goes to all
workers before the next one does. -/
def Settings.letters (s : Settings) : List (Nat × Worker.Message) :=
  s.messages.flatMap fun m => (List.range s.checkers.length).map (·, m)

structure Desk where
  /-- Its life as one that watches. -/
  life : Life
  mailbox : List Worker.Message := []
  /-- What it has done in a build. -/
  built : List Action := []

namespace Desk

def done (d : Desk) : List Action := d.built ++ d.life.actions

/-- A message is delivered as long as the worker is there. -/
def receive (d : Desk) (m : Worker.Message) : Desk :=
  if d.life.worker.hasEnded then d else { d with mailbox := d.mailbox ++ [m] }

/-- What a worker does next. `left` tells that the coordinator has gone. -/
inductive Acts (mode : Mode) (left : Bool) (d : Desk) : Desk → Prop
  | hear {m : Worker.Message} {rest : List Worker.Message} (disk : Disk) (runner : Runner)
    (hmode : mode = .serve) (hmail : d.mailbox = m :: rest) (h : d.life.worker.hears = true) :
    Acts mode left d { d with life := d.life.further [⟨disk, runner, .message m⟩], mailbox := rest }
  /-- Something happens to the files, the watch is lost, or the channel is found closed. -/
  | meet (m : Moment) (hmode : mode = .serve) (hinput : m.input.isMessage = false)
    (hclosed : m.input = .closed → left = true ∧ d.mailbox = []) :
    Acts mode left d { d with life := d.life.further [m] }
  | build (disk : Disk) (runner : Runner) (hmode : mode = .build) (hfirst : d.built = []) :
    Acts mode left d { d with built := Worker.build d.life.context disk runner }

end Desk

structure Team where
  /-- The workers that are still to be spawned. -/
  vacant : List Context
  /-- The messages that are still to be sent. -/
  letters : List (Nat × Worker.Message)
  desks : List Desk := []
  left : Bool := false

namespace Team

def start (s : Settings) : Team := { vacant := s.checkers.map s.context, letters := s.letters }

inductive Step (mode : Mode) (t : Team) : Team → Prop
  | spawn {c : Context} {rest : List Context} (h : t.left = false)
    (hvacant : t.vacant = c :: rest) :
    Step mode t { t with vacant := rest, desks := t.desks ++ [{ life := ⟨c, []⟩ }] }
  | send {i : Nat} {m : Worker.Message} {rest : List (Nat × Worker.Message)} (h : t.left = false)
    (hvacant : t.vacant = []) (hletters : t.letters = (i, m) :: rest) :
    Step mode t { t with letters := rest, desks := t.desks.modify i (·.receive m) }
  | leave : Step mode t { t with left := true }
  | act {d d' : Desk} (i : Nat) (hdesk : t.desks[i]? = some d) (hacts : d.Acts mode t.left d') :
    Step mode t { t with desks := t.desks.set i d' }

inductive Reached (s : Settings) : Team → Prop
  | start : Reached s (start s)
  | step {t t' : Team} (h : Reached s t) (hstep : t.Step s.mode t') : Reached s t'

end Team

/-! ## What is sent to a worker -/

def lettersTo (i : Nat) (letters : List (Nat × Worker.Message)) : List Worker.Message :=
  (letters.filter (·.1 = i)).map (·.2)

theorem lettersTo_cons_self (i : Nat) (m : Worker.Message) (rest : List (Nat × Worker.Message)) :
    lettersTo i ((i, m) :: rest) = m :: lettersTo i rest := by
  simp [lettersTo]

theorem lettersTo_cons_of_ne {i j : Nat} (h : j ≠ i) (m : Worker.Message)
    (rest : List (Nat × Worker.Message)) : lettersTo i ((j, m) :: rest) = lettersTo i rest := by
  simp [lettersTo, h]

/-- Every worker is sent all messages. -/
theorem lettersTo_letters (s : Settings) {i : Nat} (h : i < s.checkers.length) :
    lettersTo i s.letters = s.messages := by
  have hone (m : Worker.Message) :
      lettersTo i ((List.range s.checkers.length).map (·, m)) = [m] := by
    have hcount : (List.range s.checkers.length).count i = 1 :=
      List.count_eq_one_of_mem List.nodup_range (List.mem_range.2 h)
    simp [lettersTo, List.filter_map, Function.comp_def, List.filter_eq, hcount]
  unfold Settings.letters
  induction s.messages with
  | nil => rfl
  | cons m rest ih =>
    simp only [lettersTo] at hone ih ⊢
    rw [List.flatMap_cons, List.filter_append, List.map_append, hone, ih, List.singleton_append]

/-! ## The invariant -/

/-- What holds of a worker's desk, with `todo` for the messages that are still to be sent to it. -/
structure Desk.Sound (s : Settings) (todo : List Worker.Message) (d : Desk) : Prop where
  mail : d.life.heard ++ d.mailbox <+: s.messages
  /-- Nothing is lost until the worker ends. -/
  rest : d.life.worker.hasEnded = false → d.life.heard ++ d.mailbox ++ todo = s.messages
  serves : s.mode = .serve → d.built = []
  builds : s.mode = .build → d.life.moments = [] ∧
    (d.built = [] ∨ ∃ disk runner, d.built = Worker.build d.life.context disk runner)

/-- Workers are spawned first. The messages to each of them stay in order. -/
structure Team.Sound (s : Settings) (t : Team) : Prop where
  staff : t.desks.map (·.life.context) ++ t.vacant = s.checkers.map s.context
  unsent : t.vacant ≠ [] → t.letters = s.letters
  letters : t.letters <:+ s.letters
  desk : ∀ (i : Nat) (d : Desk), t.desks[i]? = some d → d.Sound s (lettersTo i t.letters)

section

variable {s : Settings} {t t' : Team} {d d' : Desk} {todo : List Worker.Message}

theorem Desk.Sound.further (hd : d.Sound s todo) (hmode : s.mode = .serve) (m : Moment)
    (hinput : m.input.isMessage = false) :
    ({ d with life := d.life.further [m] } : Desk).Sound s todo := by
  have hheard : (d.life.further [m]).heard = d.life.heard := by
    rw [Life.heard_further, Worker.heard_singleton]
    cases hm : m.input with
    | message => simp [hm, Worker.Input.isMessage] at hinput
    | closed | notice | fileEvent | unwatched => exact List.append_nil _
  refine ⟨?_, ?_, hd.serves, ?_⟩
  · simpa only [hheard] using hd.mail
  · intro hrunning
    rw [Life.worker_further, Worker.live_singleton] at hrunning
    simpa only [hheard] using hd.rest (Worker.running_of_step hrunning)
  · intro hbuild
    rw [hmode] at hbuild
    cases hbuild

theorem Desk.Acts.sound (h : d.Acts s.mode t.left d') (hd : d.Sound s todo) : d'.Sound s todo := by
  cases h with
  | @hear m rest disk runner hmode hmail hhears =>
    have hheard : (d.life.further [⟨disk, runner, .message m⟩]).heard ++ rest =
        d.life.heard ++ d.mailbox := by
      rw [Life.heard_further, Worker.heard_singleton, Worker.hearing_of_hears hhears, hmail,
        List.append_assoc, List.singleton_append]
    refine ⟨?_, ?_, hd.serves, ?_⟩
    · simpa only [hheard] using hd.mail
    · intro _
      simpa only [hheard] using hd.rest (Worker.hears_eq_true_iff.1 hhears).2
    · intro hbuild
      rw [hmode] at hbuild
      cases hbuild
  | meet m hmode hinput => exact hd.further hmode m hinput
  | build disk runner hmode =>
    refine ⟨hd.mail, hd.rest, ?_, ?_⟩
    · intro hserve
      rw [hmode] at hserve
      cases hserve
    · intro hbuild
      exact ⟨(hd.builds hbuild).1, .inr ⟨disk, runner, rfl⟩⟩

theorem Desk.Sound.receive {m : Worker.Message} (hd : d.Sound s (m :: todo)) :
    (d.receive m).Sound s todo := by
  unfold Desk.receive
  split
  · rename_i hended
    refine ⟨hd.mail, ?_, hd.serves, hd.builds⟩
    intro hrunning
    simp [hended] at hrunning
  · rename_i hrunning
    have hrest : d.life.heard ++ (d.mailbox ++ [m]) ++ todo = s.messages := by
      simpa using hd.rest (by simpa using hrunning)
    exact ⟨⟨todo, hrest⟩, fun _ => hrest, hd.serves, hd.builds⟩

/-! ## The invariant holds -/

theorem sound_start (s : Settings) : (Team.start s).Sound s where
  staff := List.nil_append _
  unsent _ := rfl
  letters := List.suffix_rfl
  desk i d hd := by simp [Team.start] at hd

theorem Team.Sound.spawn {c : Context} {rest : List Context} (ht : t.Sound s)
    (hvacant : t.vacant = c :: rest) :
    ({ t with vacant := rest, desks := t.desks ++ [{ life := ⟨c, []⟩ }] } : Team).Sound s where
  staff := by simpa [hvacant] using ht.staff
  unsent _ := ht.unsent (by simp [hvacant])
  letters := ht.letters
  desk i d hd := by
    simp only [List.getElem?_append] at hd
    split at hd
    · exact ht.desk i d hd
    · -- The new worker is sent everything, as nothing was sent before.
      rename_i hi
      obtain ⟨hi', rfl⟩ : i - t.desks.length = 0 ∧ { life := ⟨c, []⟩ } = d := by
        simpa [List.getElem?_singleton] using hd
      have hlength := congrArg List.length ht.staff
      simp only [hvacant, List.length_append, List.length_map, List.length_cons] at hlength
      have hmail : lettersTo i t.letters = s.messages := by
        rw [ht.unsent (by simp [hvacant])]
        exact lettersTo_letters s (by omega)
      refine ⟨List.nil_prefix, fun _ => hmail, fun _ => rfl, fun _ => ⟨rfl, .inl rfl⟩⟩

theorem exists_of_getElem?_modify {f : Desk → Desk} {i j : Nat} {desks : List Desk}
    (h : (desks.modify i f)[j]? = some d) :
    ∃ d₀, desks[j]? = some d₀ ∧ d = if i = j then f d₀ else d₀ := by
  rw [List.getElem?_modify, Option.map_eq_map, Option.map_eq_some_iff] at h
  obtain ⟨d₀, hd₀, rfl⟩ := h
  exact ⟨d₀, hd₀, rfl⟩

theorem map_modify_context {f : Desk → Desk} {i : Nat} {desks : List Desk}
    (h : ∀ d, desks[i]? = some d → (f d).life.context = d.life.context) :
    (desks.modify i f).map (·.life.context) = desks.map (·.life.context) := by
  refine List.ext_getElem? ?_
  intro j
  rw [List.getElem?_map, List.getElem?_map, List.getElem?_modify]
  cases hj : desks[j]? with
  | none => rfl
  | some d =>
    by_cases hij : i = j
    · subst hij
      simp [h d hj]
    · simp [hij]

theorem Team.Sound.send {i : Nat} {m : Worker.Message} {rest : List (Nat × Worker.Message)}
    (ht : t.Sound s) (hvacant : t.vacant = []) (hletters : t.letters = (i, m) :: rest) :
    ({ t with letters := rest, desks := t.desks.modify i (·.receive m) } : Team).Sound s where
  staff := by
    rw [map_modify_context]
    · exact ht.staff
    · intro d _
      unfold Desk.receive
      split <;> rfl
  unsent hne := absurd hvacant hne
  letters := (hletters ▸ List.suffix_cons (i, m) rest).trans ht.letters
  desk j d hd := by
    obtain ⟨d₀, hd₀, rfl⟩ := exists_of_getElem?_modify hd
    have hsound := ht.desk j d₀ hd₀
    rw [hletters] at hsound
    split
    · subst_vars
      rw [lettersTo_cons_self] at hsound
      exact hsound.receive
    · rename_i hij
      rwa [lettersTo_cons_of_ne hij] at hsound

theorem Team.Sound.act {i : Nat} (ht : t.Sound s) (hdesk : t.desks[i]? = some d)
    (h : d.Acts s.mode t.left d') : ({ t with desks := t.desks.set i d' } : Team).Sound s where
  staff := by
    rw [List.set_eq_modify, map_modify_context]
    · exact ht.staff
    · intro d₀ hd₀
      obtain rfl := Option.some.inj (hdesk.symm.trans hd₀)
      cases h <;> rfl
  unsent := ht.unsent
  letters := ht.letters
  desk j d₁ hd₁ := by
    rw [List.set_eq_modify] at hd₁
    obtain ⟨d₀, hd₀, rfl⟩ := exists_of_getElem?_modify hd₁
    split
    · subst_vars
      exact h.sound (ht.desk _ d hdesk)
    · exact ht.desk j d₀ hd₀

theorem Team.Step.sound (h : t.Step s.mode t') (ht : t.Sound s) : t'.Sound s := by
  cases h with
  | spawn _ hvacant => exact ht.spawn hvacant
  | send _ hvacant hletters => exact ht.send hvacant hletters
  | leave => exact ⟨ht.staff, ht.unsent, ht.letters, ht.desk⟩
  | act i hdesk hacts => exact ht.act hdesk hacts

theorem reached_sound (h : Team.Reached s t) : t.Sound s := by
  induction h with
  | start => exact sound_start s
  | step _ hstep ih => exact hstep.sound ih

theorem Team.Sound.context_mem (ht : t.Sound s) (hd : d ∈ t.desks) :
    d.life.context ∈ s.checkers.map s.context := by
  rw [← ht.staff]
  exact List.mem_append_left _ (List.mem_map_of_mem hd)

theorem Settings.messages_serve (h : s.mode = .serve) :
    s.messages = Worker.protocol s.overlay s.terminal s.root := by
  rw [Settings.messages, h]
  rfl

theorem Settings.messages_build (h : s.mode = .build) : s.messages = [] := by
  rw [Settings.messages, h]

end

/-! ## Agreement -/

open Worker (fullChecks openWatch)

/-- How a worker and its coordinator get on where a run watches. -/
structure Desk.Serves (s : Settings) (d : Desk) : Prop where
  orderly : ∀ (c : Checker) (v : Worker.Violation), .told (.failed c v.message) ∉ d.done
  once : fullChecks d.done ≤ 1
  /-- The full check is run when the order to watch is taken, with the watch open. -/
  opened : ∀ (l : Life) (m : Moment) rest checkedRoot, d.life = l.further (m :: rest) →
    let step := l.worker.step m.disk m.runner m.input
    Action.ran (.project checkedRoot) ∈ step.2 →
    m.input = .message (.watch s.root) ∧
      ∃ watcher, openWatch l.context m.disk s.root = .ok watcher ∧ step.1.watcher? = some watcher
  /-- If the watch can be opened, it is run. -/
  checked : ∀ (l : Life) (m : Moment) rest watcher, d.life = l.further (m :: rest) →
    m.input = .message (.watch s.root) → l.worker.hears = true →
    openWatch l.context m.disk s.root = .ok watcher → fullChecks d.done = 1
  complete : d.life.heard = s.messages → fullChecks d.done = 1
  /-- The release changes nothing for a worker that watches. -/
  released : d.life.worker.hears = true → d.life.worker.watcher?.isSome = true →
    ∀ disk runner ms, (∀ m ∈ ms, Worker.Input.isOfFiles m.input = true) →
    let free := (d.life.further [⟨disk, runner, .message .release⟩]).further ms
    free.worker = (d.life.further ms).worker.deafen ∧
      free.actions = (d.life.further ms).actions ∧ free.worker.hasEnded = false ∧ free.Handles

/-- How they get on in a build. -/
structure Desk.Builds (s : Settings) (d : Desk) : Prop where
  untold : d.mailbox = [] ∧ d.life.heard = []
  done : d.done = [] ∨ ∃ events last,
    d.done = .ran (.project s.root) :: (events ++ [last]).map .told ∧
      (∀ e ∈ events, e.isFinal = false) ∧ last.isFinal = true

section

variable {s : Settings} {d : Desk} {todo : List Worker.Message}

theorem Desk.Sound.isServing (hd : d.Sound s todo) (hmode : s.mode = .serve) : d.Serves s := by
  have hdone : d.done = d.life.actions := by rw [Desk.done, hd.serves hmode, List.nil_append]
  have hheard : d.life.heard <+: Worker.protocol s.overlay s.terminal s.root := by
    rw [← s.messages_serve hmode]
    exact (List.prefix_append _ _).trans hd.mail
  have honce : fullChecks d.life.actions ≤ 1 :=
    Nat.le_trans d.life.fullChecks_le (Worker.countP_isWatch_le hheard)
  refine {
    orderly := ?_
    once := ?_
    opened := ?_
    checked := ?_
    complete := ?_
    released := ?_ }
  · intro c v
    rw [hdone]
    exact d.life.not_violation hheard c v
  · rwa [hdone]
  · intro l m rest checkedRoot hlife step hran
    obtain ⟨root, watcher, hinput, hhears, hopen, hnext⟩ :=
      (Worker.takes_step l.worker m.disk m.runner m.input).opened_of_ran hran
    rw [hlife] at hheard
    obtain ⟨-, rfl⟩ := Life.in_turn_watch (Life.in_turn hheard hinput hhears)
    rw [l.context_worker] at hopen
    exact ⟨hinput, watcher, hopen, hnext⟩
  · intro l m rest watcher hlife hinput hhears hopen
    rw [hlife] at hheard
    rw [hdone, hlife]
    exact Life.fullChecks_of_opened hheard hinput hhears hopen
  · intro hall
    rw [s.messages_serve hmode] at hall
    rw [hdone]
    exact Life.fullChecks_of_released hall
  · intro hhears hwatch disk runner ms hms
    exact Life.further_release hhears hwatch disk runner hms

theorem Desk.Sound.isBuilding (hd : d.Sound s todo) (hmode : s.mode = .build)
    (hroot : d.life.context.root = s.root) : d.Builds s := by
  obtain ⟨hmoments, hbuilt⟩ := hd.builds hmode
  have hactions : d.life.actions = [] := by
    rw [Life.actions, hmoments]
    rfl
  refine ⟨?_, ?_⟩
  · have hmail := hd.mail
    rw [Settings.messages_build hmode, List.prefix_nil, List.append_eq_nil_iff] at hmail
    exact ⟨hmail.2, hmail.1⟩
  · rw [Desk.done, hactions, List.append_nil]
    rcases hbuilt with hnothing | ⟨disk, runner, hbuild⟩
    · exact .inl hnothing
    · obtain ⟨events, last, heq, hevents, hlast⟩ :=
        Coordinator.exists_build d.life.context disk runner
      exact .inr ⟨events, last, by rw [hbuild, heq, hroot], hevents, hlast⟩

/-- Coordinator and workers agree on what is told when, whatever order they act in. -/
theorem team_agrees {t : Team} (h : Team.Reached s t) :
    t.desks.map (·.life.context) <+: s.checkers.map s.context ∧
      (s.mode = .serve → ∀ d ∈ t.desks, d.Serves s) ∧
      (s.mode = .build → t.letters = [] ∧ ∀ d ∈ t.desks, d.Builds s) := by
  have ht := reached_sound h
  refine ⟨⟨t.vacant, ht.staff⟩, ?_, ?_⟩
  · intro hmode d hd
    obtain ⟨i, hi⟩ := List.mem_iff_getElem?.1 hd
    exact (ht.desk i d hi).isServing hmode
  · intro hmode
    refine ⟨?_, ?_⟩
    · have hletters := ht.letters
      rwa [Settings.letters, Settings.messages_build hmode, List.flatMap_nil, List.suffix_nil]
        at hletters
    · intro d hd
      obtain ⟨i, hi⟩ := List.mem_iff_getElem?.1 hd
      obtain ⟨c, -, hc⟩ := List.mem_map.1 (ht.context_mem hd)
      exact (ht.desk i d hi).isBuilding hmode (by rw [← hc]; rfl)

/-- A project of one file. -/
def smallProject : Disk := ⟨.directory [("p", .directory [("a", .file .empty false)])], []⟩

def content : Runner := ⟨.esLint, fun _ => .ok [], fun _ _ => .ok []⟩

/-- A linter and a style linter for it. -/
def linters (mode : Mode) : Settings :=
  ⟨"/p", mode, false, true, true, false, false, "", [],
    [.esLint, .stylelint].map fun c => ⟨⟨c, ⟨"lint", []⟩⟩, ["."], none⟩⟩

/-- The style linter finds no project, fails and misses its release; the linter goes on to watch,
and checks a file that changes after its release. In a build each of them checks once, when it comes
to it. -/
theorem team_agrees_linters :
    (∃ t, Team.Reached (linters .serve) t ∧
      t.desks.map (fun d => (d.life.worker.hasEnded, d.life.heard.length, Worker.runs d.done)) =
        [(false, 3, [.project "/p", .file "/p" "/p/a"]), (true, 2, [])] ∧
      ∀ d ∈ t.desks, d.Serves (linters .serve)) ∧
    ∃ t, Team.Reached (linters .build) t ∧ t.desks.map (fullChecks ·.done) = [1, 0] ∧
      ∀ d ∈ t.desks, d.Builds (linters .build) := by
  refine ⟨?_, ?_⟩
  · have hspawned := ((Team.Reached.start (s := linters .serve)).step (.spawn rfl rfl)).step
      (.spawn rfl rfl)
    have htold := (((hspawned.step (.send rfl rfl rfl)).step (.send rfl rfl rfl)).step
      (.send rfl rfl rfl)).step (.send rfl rfl rfl)
    have hfailed := (htold.step (.act 1 rfl (.hear .empty content rfl rfl rfl))).step
      (.act 1 rfl (.hear .empty content rfl rfl rfl))
    have hreleased := (hfailed.step (.send rfl rfl rfl)).step (.send rfl rfl rfl)
    have hwatching := ((hreleased.step
      (.act 0 rfl (.hear smallProject content rfl rfl rfl))).step
      (.act 0 rfl (.hear smallProject content rfl rfl rfl))).step
      (.act 0 rfl (.hear smallProject content rfl rfl (by decide +kernel)))
    have hnoticed := hwatching.step (.act 0 rfl
      (.meet ⟨smallProject, content, .notice ⟨.modified, ["/p/a".toUTF8]⟩⟩ rfl rfl (by rintro ⟨⟩)))
    have hhandled := hnoticed.step (.act 0 rfl
      (.meet ⟨smallProject, content, .fileEvent⟩ rfl rfl (by rintro ⟨⟩)))
    exact ⟨_, hhandled, by decide +kernel, (team_agrees hhandled).2.1 rfl⟩
  · have hspawned := ((Team.Reached.start (s := linters .build)).step (.spawn rfl rfl)).step
      (.spawn rfl rfl)
    have hbuilt := hspawned.step (.act 0 rfl (.build smallProject content rfl rfl))
    exact ⟨_, hbuilt, rfl, ((team_agrees hbuilt).2.2 rfl).2⟩

end

end Sidecheck
