import Sidecheck.Proofs.Traversal
import Sidecheck.Settings
/-!
# Flags and entries

The command line and the configuration speak of the same checkers: a flag turns a checker on and may
bring its command, an entry turns it on or off or is an object with options. Which checkers run
(`Runs`), from what line each gets its command (`baseLine?`, `addition`) and what its settings are
(`CheckerSettings.ComesFrom`) are told here from the flag and the entry alone. That is what merging
makes of them, or it fails for the first checker whose line is missing or no command
(`merge_checkers`).
-/

namespace Sidecheck

/-! ## What is said of a checker -/

/-- A flag turns the checker on. -/
def Options.Has (o : Options) : Checker → Prop
  | .typeScript => o.typeScript = true
  | .esLint => o.esLint.isSome
  | .stylelint => o.stylelint.isSome
  | .languageServer => o.languageServer.isSome

instance (o : Options) : (checker : Checker) → Decidable (o.Has checker)
  | .typeScript => inferInstanceAs (Decidable (_ = _))
  | .esLint | .stylelint | .languageServer => inferInstanceAs (Decidable (Option.isSome _ = true))

/-- The command that comes with a flag. -/
def Options.flagCommand? (o : Options) : Checker → Option String
  | .typeScript => none
  | .esLint => o.esLint
  | .stylelint => o.stylelint
  | .languageServer => o.languageServer

/-- The entry of a checker, if it is an object. -/
def Config.object? (c : Config) (checker : Checker) : Option CheckerOptions :=
  match c.entry checker with
  | some (.options x) => some x
  | _ => none

/-- The checker is turned on by its flag or by its entry. -/
def Runs (o : Options) (c : Config) (checker : Checker) : Prop :=
  o.Has checker ∨ c.entry checker = some (.enabled true) ∨ (c.object? checker).isSome

instance (o : Options) (c : Config) (checker : Checker) : Decidable (Runs o c checker) :=
  inferInstanceAs (Decidable (_ ∨ _ ∨ _))

/-- The line of a checker's command: the flag's, or the entry's, or the default. -/
def baseLine? (o : Options) (c : Config) (checker : Checker) : Option String :=
  o.flagCommand? checker <|> (c.object? checker).bind (·.command) <|> checker.defaultCommand?

/-- What the entry adds to that line while files are watched. -/
def addition (o : Options) (c : Config) (checker : Checker) : String :=
  match (c.object? checker).bind (·.overrideArgs) with
  | some extra => if o.watch = true ∧ Text.allBlank extra.toList = false then " " ++ extra else ""
  | none => ""

/-- What a command is about, or everything. -/
def Command.watched (command : Command) : List String :=
  if command.operands = [] then ["."] else command.operands

/-- The settings of a checker are those that its flag and its entry ask for. -/
structure CheckerSettings.ComesFrom (environment : Shell.Environment) (o : Options) (c : Config)
    (checker : Checker) (s : CheckerSettings) : Prop where
  tool : ∃ base command, baseLine? o c checker = some base ∧
    Command.parse environment (base ++ addition o c checker) = .ok command ∧
    s.tool = Tool.ofCommand checker command
  watchPaths : s.watchPaths =
    (((c.object? checker).bind (·.watchPath)).map WatchPath.toList).getD s.tool.command.watched
  logLevel : s.logLevel = (c.object? checker).bind (·.logLevel)

/-- The checker has no command, or what should be its command is none. -/
inductive Faulty (environment : Shell.Environment) (o : Options) (c : Config) (checker : Checker) :
    CheckError → Prop
  | noCommand (h : baseLine? o c checker = none) :
      Faulty environment o c checker (.noCommand checker)
  | invalid {base : String} {fault : CommandFault} (h : baseLine? o c checker = some base)
      (hparse : Command.parse environment (base ++ addition o c checker) = .error fault) :
      Faulty environment o c checker
        (.invalidCommand (base ++ addition o c checker) fault.message)

/-! ## Merged options -/

theorem Options.command?_eq (o : Options) (checker : Checker) :
    o.command? checker = if o.Has checker then some (o.flagCommand? checker) else none := by
  cases checker with
  | typeScript => rfl
  | esLint => cases h : o.esLint <;> simp [command?, Has, flagCommand?, h]
  | stylelint => cases h : o.stylelint <;> simp [command?, Has, flagCommand?, h]
  | languageServer => cases h : o.languageServer <;> simp [command?, Has, flagCommand?, h]

theorem Options.flagCommand?_eq_none {o : Options} {checker : Checker} (h : ¬ o.Has checker) :
    o.flagCommand? checker = none := by
  cases checker with
  | typeScript => rfl
  | esLint | stylelint | languageServer => simpa [Has, flagCommand?] using h

/-- The options of a checker that runs. -/
def optionsFor (o : Options) (c : Config) (checker : Checker) : CheckerOptions :=
  { (c.object? checker).getD {} with
    command := o.flagCommand? checker <|> (c.object? checker).bind (·.command) }

/-- A field other than the command comes from the object. -/
theorem optionsFor_field {α : Type} (field : CheckerOptions → Option α)
    (hcommand : ∀ x command, field { x with command } = field x) (hnone : field {} = none)
    (o : Options) (c : Config) (checker : Checker) :
    field (optionsFor o c checker) = (c.object? checker).bind field := by
  rw [optionsFor, hcommand]
  cases c.object? checker with
  | none => exact hnone
  | some x => rfl

theorem mergedOptions?_eq (o : Options) (c : Config) (checker : Checker) :
    mergedOptions? o c checker =
      if Runs o c checker then some (optionsFor o c checker) else none := by
  -- An entry is missing, `false`, `true` or an object, and each may come with a flag or without.
  rcases hentry : c.entry checker with _ | ⟨_ | _⟩ | x <;> by_cases h : o.Has checker <;>
    simp [mergedOptions?, Options.command?_eq, Runs, optionsFor, Config.object?,
      CheckerEntry.options?, Options.flagCommand?_eq_none, hentry, h]

/-- The mode of a run. -/
def Options.mode (o : Options) : Mode := if o.watch then .serve else .build

theorem commandLine?_optionsFor (o : Options) (c : Config) (checker : Checker) :
    CheckerSettings.commandLine? checker (optionsFor o c checker) o.mode =
      (baseLine? o c checker).map (· ++ addition o c checker) := by
  have hbase : ((optionsFor o c checker).command <|> checker.defaultCommand?) =
      baseLine? o c checker := by
    simp only [optionsFor, baseLine?, Option.orElse_eq_orElse, Option.orElse_eq_or, Option.or_assoc]
  rw [CheckerSettings.commandLine?, hbase]
  congr 1
  funext base
  have hextra := optionsFor_field (·.overrideArgs) (fun _ _ => rfl) rfl o c checker
  simp only [hextra, addition, Options.mode]
  cases (c.object? checker).bind (·.overrideArgs) with
  | none => cases o.watch <;> simp
  | some extra =>
    cases o.watch <;> cases hblank : Text.allBlank extra.toList <;>
      simp [hblank, String.append_assoc]

/-! ## Settings of one checker -/

namespace CheckerSettings

variable {environment : Shell.Environment} {o : Options} {c : Config} {checker : Checker}

theorem watchPathsOf_optionsFor (command : Command) :
    watchPathsOf (optionsFor o c checker) command =
      (((c.object? checker).bind (·.watchPath)).map WatchPath.toList).getD command.watched := by
  rw [watchPathsOf, optionsFor_field (·.watchPath) (fun _ _ => rfl) rfl, Command.watched]
  cases (c.object? checker).bind (·.watchPath) with
  | none => simp
  | some paths => rfl

theorem make_of_none (h : baseLine? o c checker = none) :
    make environment o.mode checker (optionsFor o c checker) = .error (.noCommand checker) := by
  rw [make, commandLine?_optionsFor, h]
  rfl

theorem make_of_error {base : String} {fault : CommandFault} (h : baseLine? o c checker = some base)
    (hparse : Command.parse environment (base ++ addition o c checker) = .error fault) :
    make environment o.mode checker (optionsFor o c checker) =
      .error (.invalidCommand (base ++ addition o c checker) fault.message) := by
  rw [make, commandLine?_optionsFor, h]
  simp only [Option.map_some, Tool.ofLine, Option.orElse_eq_orElse, Option.orElse_eq_or,
    Option.some_or, hparse]
  rfl

theorem make_of_ok {base : String} {command : Command} (h : baseLine? o c checker = some base)
    (hparse : Command.parse environment (base ++ addition o c checker) = .ok command) :
    ∃ s, make environment o.mode checker (optionsFor o c checker) = .ok s ∧
      s.ComesFrom environment o c checker := by
  let tool := Tool.ofCommand checker command
  refine ⟨⟨tool, watchPathsOf (optionsFor o c checker) tool.command,
    (optionsFor o c checker).logLevel⟩, ?_, ?_⟩
  · rw [make, commandLine?_optionsFor, h]
    simp only [Option.map_some, Tool.ofLine, Option.orElse_eq_orElse, Option.orElse_eq_or,
      Option.some_or, hparse]
    rfl
  · exact ⟨⟨base, command, h, hparse, rfl⟩, watchPathsOf_optionsFor _,
      optionsFor_field (·.logLevel) (fun _ _ => rfl) rfl o c checker⟩

theorem faulty_iff_of_none (h : baseLine? o c checker = none) {e : CheckError} :
    Faulty environment o c checker e ↔ e = .noCommand checker := by
  constructor
  · intro hfault
    cases hfault with
    | noCommand => rfl
    | invalid hbase =>
      rw [h] at hbase
      cases hbase
  · rintro rfl
    exact .noCommand h

theorem faulty_iff_of_some {base : String} (h : baseLine? o c checker = some base)
    {e : CheckError} :
    Faulty environment o c checker e ↔ ∃ fault,
      Command.parse environment (base ++ addition o c checker) = .error fault ∧
      e = .invalidCommand (base ++ addition o c checker) fault.message := by
  constructor
  · intro hfault
    cases hfault with
    | noCommand hnone =>
      rw [h] at hnone
      cases hnone
    | invalid hbase hparse =>
      obtain rfl := Option.some.inj (h.symm.trans hbase)
      exact ⟨_, hparse, rfl⟩
  · rintro ⟨fault, hparse, rfl⟩
    exact .invalid h hparse

/-- A checker has settings, as its flag and its entry ask for, or a fault. -/
theorem make_optionsFor_cases (environment : Shell.Environment) (o : Options) (c : Config)
    (checker : Checker) :
    (∃ s, make environment o.mode checker (optionsFor o c checker) = .ok s ∧
      s.ComesFrom environment o c checker ∧ ∀ e, ¬ Faulty environment o c checker e) ∨
    ∃ e, make environment o.mode checker (optionsFor o c checker) = .error e ∧
      ∀ e', Faulty environment o c checker e' ↔ e' = e := by
  cases h : baseLine? o c checker with
  | none => exact .inr ⟨_, make_of_none h, fun _ => faulty_iff_of_none h⟩
  | some base =>
    cases hparse : Command.parse environment (base ++ addition o c checker) with
    | ok command =>
      obtain ⟨s, hs, hfrom⟩ := make_of_ok h hparse
      refine .inl ⟨s, hs, hfrom, fun e => ?_⟩
      simp [faulty_iff_of_some h, hparse]
    | error fault =>
      refine .inr ⟨_, make_of_error h hparse, fun e' => ?_⟩
      simp [faulty_iff_of_some h, hparse]

theorem comesFrom_of_make {s : CheckerSettings}
    (h : make environment o.mode checker (optionsFor o c checker) = .ok s) :
    s.ComesFrom environment o c checker := by
  obtain ⟨s', hs', hfrom, -⟩ | ⟨e, he, -⟩ := make_optionsFor_cases environment o c checker
  · obtain rfl := Except.ok.inj (h.symm.trans hs')
    exact hfrom
  · rw [h] at he
    cases he

theorem make_eq_error_iff {e : CheckError} :
    make environment o.mode checker (optionsFor o c checker) = .error e ↔
      Faulty environment o c checker e := by
  obtain ⟨s, hs, -, hsound⟩ | ⟨e', he', hfault⟩ := make_optionsFor_cases environment o c checker
  · simp [hs, hsound]
  · rw [he', hfault, Except.error.injEq, eq_comm]

theorem isOk_make_iff :
    (make environment o.mode checker (optionsFor o c checker)).isOk ↔
      ∀ e, ¬ Faulty environment o c checker e := by
  simp only [← make_eq_error_iff]
  cases make environment o.mode checker (optionsFor o c checker) <;>
    simp [Except.isOk, Except.toBool]

/-- A flag over no object leaves everything but the command at its default. -/
theorem ComesFrom.of_object?_eq_none {s : CheckerSettings} (h : s.ComesFrom environment o c checker)
    (hnone : c.object? checker = none) :
    ∃ line command, (o.flagCommand? checker <|> checker.defaultCommand?) = some line ∧
      Command.parse environment line = .ok command ∧
      s = ⟨Tool.ofCommand checker command, (Tool.ofCommand checker command).command.watched,
        none⟩ := by
  obtain ⟨base, command, hbase, hparse, htool⟩ := h.tool
  have hwatched := h.watchPaths
  have hlevel := h.logLevel
  have hadd : addition o c checker = "" := by
    rw [addition, hnone]
    rfl
  rw [hadd, String.append_empty] at hparse
  rw [baseLine?, hnone] at hbase
  rw [hnone, htool] at hwatched
  rw [hnone] at hlevel
  refine ⟨base, command, hbase, hparse, ?_⟩
  obtain ⟨tool, watchPaths, logLevel⟩ := s
  rw [CheckerSettings.mk.injEq]
  exact ⟨htool, hwatched, hlevel⟩

theorem ComesFrom.checker_eq {s : CheckerSettings} (h : s.ComesFrom environment o c checker) :
    s.tool.checker = checker := by
  obtain ⟨base, command, -, -, htool⟩ := h.tool
  rw [htool, Tool.ofCommand]
  split <;> rfl

end CheckerSettings

/-! ## Settings of a run -/

namespace Settings

/-- The checkers that run, in their order. -/
def running (o : Options) (c : Config) : List Checker := Checker.all.filter (Runs o c ·)

theorem running_eq_nil_iff {o : Options} {c : Config} :
    running o c = [] ↔ ∀ checker, ¬ Runs o c checker := by
  simp [running, List.filter_eq_nil_iff, Checker.mem_all]

theorem chosen_eq (o : Options) (c : Config) :
    chosen o c = (running o c).map fun checker => (checker, optionsFor o c checker) := by
  simp only [chosen, running, mergedOptions?_eq]
  induction Checker.all with
  | nil => rfl
  | cons checker rest ih =>
    rw [List.filterMap_cons, List.filter_cons, ih]
    by_cases h : Runs o c checker
    · rw [if_pos h, decide_eq_true h]
      rfl
    · rw [if_neg h, decide_eq_false h]
      rfl

/-- What the checkers that run are made of, or why one of them is not. -/
def makeAll (environment : Shell.Environment) (o : Options) (c : Config) :
    Except CheckError (List CheckerSettings) :=
  (running o c).mapM fun checker =>
    CheckerSettings.make environment o.mode checker (optionsFor o c checker)

theorem mapM_chosen (environment : Shell.Environment) (o : Options) (c : Config) :
    ((chosen o c).mapM fun x => CheckerSettings.make environment o.mode x.1 x.2) =
      makeAll environment o c := by
  rw [chosen_eq, List.mapM_map]
  rfl

section

variable {environment : Shell.Environment} {root : String} {o : Options} {c : Config}

theorem map_checker_of_makeAll {made : List CheckerSettings}
    (h : makeAll environment o c = .ok made) :
    made.map (·.tool.checker) = running o c ∧
      ∀ s ∈ made, s.ComesFrom environment o c s.tool.checker := by
  have hall : List.Forall₂ (fun checker s => s.ComesFrom environment o c checker)
      (running o c) made :=
    (Traversal.mapM_eq_ok_iff.1 h).imp fun _ _ hs => CheckerSettings.comesFrom_of_make hs
  clear h
  generalize running o c = checkers at hall ⊢
  induction hall with
  | nil => simp
  | cons hs _ ih =>
    rw [List.map_cons, ih.1, hs.checker_eq]
    exact ⟨rfl, List.forall_mem_cons.2 ⟨hs.checker_eq.symm ▸ hs, ih.2⟩⟩

theorem makeAll_eq_error_iff {e : CheckError} :
    makeAll environment o c = .error e ↔ ∃ before checker after,
      running o c = before ++ checker :: after ∧
      (∀ b ∈ before, ∀ e', ¬ Faulty environment o c b e') ∧ Faulty environment o c checker e := by
  rw [makeAll, Traversal.mapM_eq_error_iff]
  simp only [CheckerSettings.isOk_make_iff, CheckerSettings.make_eq_error_iff]

theorem makeAll_eq_ok_nil_iff :
    makeAll environment o c = .ok [] ↔ ∀ checker, ¬ Runs o c checker := by
  rw [makeAll, Traversal.mapM_eq_ok_iff, List.forall₂_nil_right_iff, running_eq_nil_iff]

theorem exists_makeAll_eq_error_iff :
    (∃ fault, makeAll environment o c = .error fault) ↔
      ∃ checker, Runs o c checker ∧ ∃ e, Faulty environment o c checker e := by
  have hok : (makeAll environment o c).isOk ↔
      ∀ checker, Runs o c checker → ∀ e, ¬ Faulty environment o c checker e := by
    simp only [makeAll, Traversal.isOk_mapM_iff, CheckerSettings.isOk_make_iff, running,
      List.mem_filter, Checker.mem_all, true_and, decide_eq_true_eq]
  have herror : (∃ fault, makeAll environment o c = .error fault) ↔
      ¬ (makeAll environment o c).isOk := by
    cases makeAll environment o c <;> simp [Except.isOk, Except.toBool]
  rw [herror, hok]
  simp only [not_forall, not_not, exists_prop]

theorem merge_eq_error_iff {e : SettingsError} :
    merge environment root o c = .error e ↔
      (makeAll environment o c = .ok [] ∧ e = .noCheckers) ∨
        ∃ fault, makeAll environment o c = .error fault ∧ e = .check fault := by
  have hmade := mapM_chosen environment o c
  rw [Options.mode] at hmade
  simp only [merge, hmade]
  cases makeAll environment o c with
  | error fault => simp [eq_comm (a := e)]
  | ok made => cases made <;> simp [eq_comm (a := e)]

theorem checkers_of_merge {s : Settings} (h : merge environment root o c = .ok s) :
    makeAll environment o c = .ok s.checkers := by
  have hmade := mapM_chosen environment o c
  rw [Options.mode] at hmade
  simp only [merge, hmade] at h
  split at h
  · cases h
  · cases h
  · rename_i heq
    rw [heq, ← Except.ok.inj h]

/-! ## Main theorem -/

/-- Merging gives settings to the checkers that a flag or an entry turns on, each once and in their
order, as flag and entry ask for. It fails exactly if no checker is turned on, or if one of them has
no command or none that can be read; the first of these is the reason. -/
theorem merge_checkers (environment : Shell.Environment) (root : String) (o : Options)
    (c : Config) :
    (∀ s, merge environment root o c = .ok s →
      s.checkers.map (·.tool.checker) = Checker.all.filter (Runs o c ·) ∧
      (∀ x ∈ s.checkers, x.ComesFrom environment o c x.tool.checker) ∧
      ∀ x ∈ s.checkers, c.object? x.tool.checker = none →
        ∃ line command,
          (o.flagCommand? x.tool.checker <|> x.tool.checker.defaultCommand?) = some line ∧
          Command.parse environment line = .ok command ∧
          x = ⟨Tool.ofCommand x.tool.checker command,
            (Tool.ofCommand x.tool.checker command).command.watched, none⟩) ∧
    ((∃ e, merge environment root o c = .error e) ↔
      (∀ checker, ¬ Runs o c checker) ∨
        ∃ checker, Runs o c checker ∧ ∃ e, Faulty environment o c checker e) ∧
    ∀ e, merge environment root o c = .error e ↔
      ((∀ checker, ¬ Runs o c checker) ∧ e = .noCheckers) ∨
        ∃ before checker after fault,
          Checker.all.filter (Runs o c ·) = before ++ checker :: after ∧
          (∀ b ∈ before, ∀ e', ¬ Faulty environment o c b e') ∧
          Faulty environment o c checker fault ∧ e = .check fault := by
  refine ⟨fun s hs => ?_, ?_, fun e => ?_⟩
  · obtain ⟨hcheckers, hfrom⟩ := map_checker_of_makeAll (checkers_of_merge hs)
    exact ⟨hcheckers, hfrom, fun x hx hnone => (hfrom x hx).of_object?_eq_none hnone⟩
  · have hnone : (∀ checker, ¬ Runs o c checker) ↔ makeAll environment o c = .ok [] :=
      makeAll_eq_ok_nil_iff.symm
    rw [← exists_makeAll_eq_error_iff, hnone]
    simp only [merge_eq_error_iff]
    constructor
    · rintro ⟨e, ⟨hnil, -⟩ | ⟨fault, hfault, -⟩⟩
      · exact .inl hnil
      · exact .inr ⟨fault, hfault⟩
    · rintro (hnil | ⟨fault, hfault⟩)
      · exact ⟨_, .inl ⟨hnil, rfl⟩⟩
      · exact ⟨_, .inr ⟨fault, hfault, rfl⟩⟩
  · rw [merge_eq_error_iff, makeAll_eq_ok_nil_iff]
    refine or_congr_right ⟨?_, ?_⟩
    · rintro ⟨fault, hfault, rfl⟩
      obtain ⟨before, checker, after, hsplit, hbefore, hfault⟩ := makeAll_eq_error_iff.1 hfault
      exact ⟨before, checker, after, fault, hsplit, hbefore, hfault, rfl⟩
    · rintro ⟨before, checker, after, fault, hsplit, hbefore, hfault, rfl⟩
      exact ⟨fault, makeAll_eq_error_iff.2 ⟨before, checker, after, hsplit, hbefore, hfault⟩, rfl⟩

end

/-- A flag over `false`, a flag with a command over an object, and an object without a flag. -/
theorem merge_checkers_watching :
    let o : Options :=
      { root := ".", config := none, watch := true, noOverlay := false, noTerminal := false
        overlayFile := none, ignore := [], failOnWarnings := false, verbose := false
        noColor := false, typeScript := true, esLint := some "eslint 'a b.js' src"
        stylelint := none, languageServer := none }
    let c : Config :=
      { typeScript := some (.enabled false)
        esLint := some (.options
          { command := some "eslint x", logLevel := some [.warning]
            overrideArgs := some "--cache lib" })
        stylelint := some (.options { watchPath := some (.one "css"), overrideArgs := some " " }) }
    ∃ s, merge { entries := [] } "/p" o c = .ok s ∧
      s.checkers.map (·.tool.checker) = [.typeScript, .esLint, .stylelint] ∧
      (∀ x ∈ s.checkers, x.ComesFrom { entries := [] } o c x.tool.checker) ∧
      s.checkers.map (·.watchPaths) = [["."], ["a b.js", "src", "lib"], ["css"]] ∧
      s.checkers.map (·.logLevel) = [none, some [.warning], none] := by
  intro o c
  have hwatched : (merge { entries := [] } "/p" o c).toOption.map (fun s =>
      (s.checkers.map (·.watchPaths), s.checkers.map (·.logLevel))) =
      some ([["."], ["a b.js", "src", "lib"], ["css"]], [none, some [.warning], none]) := by
    decide +kernel
  cases hs : merge { entries := [] } "/p" o c with
  | error e =>
    rw [hs] at hwatched
    cases hwatched
  | ok s =>
    rw [hs] at hwatched
    obtain ⟨hcheckers, hfrom, -⟩ := (merge_checkers { entries := [] } "/p" o c).1 s hs
    have hrunning : Checker.all.filter (Runs o c ·) = [.typeScript, .esLint, .stylelint] := by
      decide +kernel
    obtain ⟨hpaths, hlevels⟩ := Prod.ext_iff.1 (Option.some.inj hwatched)
    exact ⟨s, rfl, hcheckers.trans hrunning, hfrom, hpaths, hlevels⟩

end Settings

end Sidecheck
