import Sidecheck.Proofs.Traversal
import Sidecheck.Proofs.Verdict
/-!
# What a build does not look at

Some options are about watching only: what is watched and ignored, the levels that are shown, the
arguments that a command then gets, and where reports go. `forBuild` takes them out, of the
command line's options, of the configuration and of the settings.

Making settings commutes with it (`merge_forBuild`), so what is left of the settings for a build
comes from what is left of the options. All that a build does, it does with that: `runWith_forBuild`
for the program, `buildOutput_forBuild` for any order of the workers' events. Hence two runs whose
options agree as far as a build is concerned are the same run: `build_ignores_watching`.
-/

namespace Sidecheck

/-! ## Without what is about watching -/

def CheckerOptions.forBuild (o : CheckerOptions) : CheckerOptions := { command := o.command }

def CheckerEntry.forBuild : CheckerEntry → CheckerEntry
  | enabled on => enabled on
  | options o => options o.forBuild

def Config.forBuild (c : Config) : Config :=
  { c with
    overlay := none
    terminal := none
    typeScript := c.typeScript.map CheckerEntry.forBuild
    esLint := c.esLint.map CheckerEntry.forBuild
    stylelint := c.stylelint.map CheckerEntry.forBuild
    languageServer := c.languageServer.map CheckerEntry.forBuild }

def Options.forBuild (o : Options) : Options :=
  { o with noOverlay := false, noTerminal := false, overlayFile := none, ignore := [] }

def CheckerSettings.forBuild (c : CheckerSettings) : CheckerSettings :=
  { c with watchPaths := [], logLevel := none }

def Settings.forBuild (s : Settings) : Settings :=
  { s with
    overlay := true
    terminal := true
    overlayFile := ""
    ignore := []
    checkers := s.checkers.map CheckerSettings.forBuild }

/-! ## Making settings -/

theorem CheckerEntry.options?_forBuild (e : CheckerEntry) :
    e.forBuild.options? = e.options?.map CheckerOptions.forBuild := by
  cases e with
  | enabled on => cases on <;> rfl
  | options o => rfl

theorem Config.entry_forBuild (c : Config) (checker : Checker) :
    c.forBuild.entry checker = (c.entry checker).map CheckerEntry.forBuild := by
  cases checker <;> rfl

theorem Options.command?_forBuild (o : Options) (checker : Checker) :
    o.forBuild.command? checker = o.command? checker := by
  cases checker <;> rfl

theorem mergedOptions?_forBuild (o : Options) (c : Config) (checker : Checker) :
    mergedOptions? o.forBuild c.forBuild checker =
      (mergedOptions? o c checker).map CheckerOptions.forBuild := by
  have hown : (c.forBuild.entry checker).bind (·.options?) =
      ((c.entry checker).bind (·.options?)).map CheckerOptions.forBuild := by
    rw [Config.entry_forBuild]
    cases c.entry checker with
    | none => rfl
    | some e => exact e.options?_forBuild
  simp only [mergedOptions?, hown, Options.command?_forBuild]
  cases o.command? checker with
  | none => rfl
  | some command? => cases (c.entry checker).bind (·.options?) <;> rfl

namespace Settings

variable (environment : Shell.Environment) (root : String)

theorem chosen_forBuild (o : Options) (c : Config) :
    chosen o.forBuild c.forBuild = (chosen o c).map fun x => (x.1, x.2.forBuild) := by
  simp only [chosen, List.map_filterMap, mergedOptions?_forBuild, Option.map_map]
  rfl

/-- The command line of a build has nothing from what is about watching, so its errors have
nothing from there either. -/
theorem make_forBuild (checker : Checker) (o : CheckerOptions) :
    (CheckerSettings.make environment .build checker o.forBuild).map CheckerSettings.forBuild =
      (CheckerSettings.make environment .build checker o).map CheckerSettings.forBuild := by
  have hline : CheckerSettings.commandLine? checker o.forBuild .build =
      CheckerSettings.commandLine? checker o .build := rfl
  unfold CheckerSettings.make
  rw [hline]
  cases CheckerSettings.commandLine? checker o .build with
  | none => rfl
  | some line =>
    dsimp only
    cases Tool.ofLine environment checker (some line) <;> rfl

theorem mapM_make_forBuild (chosen : List (Checker × CheckerOptions)) :
    ((chosen.map fun x => (x.1, x.2.forBuild)).mapM fun x =>
        CheckerSettings.make environment .build x.1 x.2).map (List.map CheckerSettings.forBuild) =
      (chosen.mapM fun x => CheckerSettings.make environment .build x.1 x.2).map
        (List.map CheckerSettings.forBuild) := by
  simp only [List.mapM_map, Traversal.map_mapM, Function.comp_def, make_forBuild]

/-- The settings for a build come from the options for a build, and so does the error if there are
none. -/
theorem merge_forBuild {o : Options} (hmode : o.watch = false) (c : Config) :
    (merge environment root o.forBuild c.forBuild).map forBuild =
      (merge environment root o c).map forBuild := by
  have hmode' : o.forBuild.watch = false := hmode
  have hmake := mapM_make_forBuild environment (chosen o c)
  simp only [merge, hmode, hmode', chosen_forBuild, Bool.false_eq_true, if_false]
  let make (x : Checker × CheckerOptions) := CheckerSettings.make environment .build x.1 x.2
  -- From here on the lists that are made matter only by what `hmake` says of them.
  generalize ((chosen o c).map fun x => (x.1, x.2.forBuild)).mapM make = made' at hmake ⊢
  generalize (chosen o c).mapM make = made at hmake ⊢
  cases made with
  | error e =>
    cases made' with
    | error e' =>
      obtain rfl : e' = e := Except.error.inj hmake
      rfl
    | ok cs' => cases hmake
  | ok cs =>
    cases made' with
    | error e' => cases hmake
    | ok cs' =>
      have hcs : cs'.map CheckerSettings.forBuild = cs.map CheckerSettings.forBuild :=
        Except.ok.inj hmake
      cases cs with
      | nil =>
        obtain rfl : cs' = [] := by simpa using hcs
        rfl
      | cons x xs =>
        obtain ⟨x', xs', rfl⟩ : ∃ x' xs', cs' = x' :: xs' := by
          cases cs' with
          | nil => cases hcs
          | cons x' xs' => exact ⟨x', xs', rfl⟩
        simp only [Except.map, forBuild, hcs]
        rfl

end Settings

/-! ## Building -/

namespace Settings

/-- What a build writes to the terminal and the code it ends with, if the events of its workers
arrive in a certain order. -/
def buildOutput (s : Settings) (arrived : List WorkerEvent) : String × Nat :=
  if s.enableBuild then
    (Coordinator.printed (Coordinator.drain s.checkers.length arrived).lines, s.buildCode arrived)
  else ("", 0)

theorem buildOutput_forBuild (s : Settings) (arrived : List WorkerEvent) :
    s.forBuild.buildOutput arrived = s.buildOutput arrived := by
  have hlength : s.forBuild.checkers.length = s.checkers.length := List.length_map _
  simp only [buildOutput, buildCode, hlength]
  rfl

/-- What the workers tell does not depend on it either, if each tool does the same in both runs. -/
theorem buildStreams_forBuild (s : Settings) (disk : Tool → Disk) (runner : Tool → Runner) :
    s.forBuild.buildStreams (disk ·.tool) (runner ·.tool) =
      s.buildStreams (disk ·.tool) (runner ·.tool) := by
  simp only [buildStreams, forBuild, List.map_map]
  rfl

theorem map_tool_forBuild (s : Settings) :
    s.forBuild.checkers.map (·.tool) = s.checkers.map (·.tool) := by
  simp only [forBuild, List.map_map]
  rfl

theorem actions_forBuild (s : Settings) (m : Machine) :
    BuildRun.actions s.forBuild m = BuildRun.actions s m := by
  simp only [BuildRun.actions, forBuild, List.map_map]
  rfl

/-- The program reads the events worker by worker. -/
theorem buildOutput_runWith {s : Settings} (hmode : s.mode = .build) (m : Machine) :
    ((Cli.runWith s m).out, (Cli.runWith s m).code) =
      s.buildOutput (s.buildStreams (fun _ => m.disk) (·.tool.runner m)).flatten := by
  by_cases h : s.enableBuild = true
  · rw [code_runWith hmode h]
    simp only [Cli.runWith, hmode, Cli.build, h, if_true, buildOutput, buildStreams,
      BuildRun.ofSettings, BuildRun.actions, List.flatMap_def, List.map_map]
    rfl
  · simp [Cli.runWith, hmode, Cli.build, h, buildOutput]

theorem runWith_forBuild {s : Settings} (hmode : s.mode = .build) (m : Machine) :
    Cli.runWith s.forBuild m = Cli.runWith s m := by
  have hmode' : s.forBuild.mode = .build := hmode
  have hlength : s.forBuild.checkers.length = s.checkers.length := List.length_map _
  simp only [Cli.runWith, hmode, hmode', Cli.build, BuildRun.ofSettings, actions_forBuild, hlength]
  rfl

/-! ## Main theorem -/

theorem mode_of_merge {environment : Shell.Environment} {root : String} {o : Options} {c : Config}
    {s : Settings} (hmode : o.watch = false) (h : merge environment root o c = .ok s) :
    s.mode = .build := by
  simp only [merge, hmode, Bool.false_eq_true, if_false] at h
  split at h
  · cases h
  · cases h
  · obtain rfl := Except.ok.inj h
    rfl

/-- Command lines and configurations that differ only in what is about watching make no settings
for the same reason, or they make settings with the same commands. Then, if each tool does the
same in both runs, the workers tell the same, and whatever the order in which that arrives, the
same is written and the code is the same; so the program does the same. -/
theorem build_ignores_watching {o o' : Options} {c c' : Config} (hmode : o.watch = false)
    (ho : o.forBuild = o'.forBuild) (hc : c.forBuild = c'.forBuild)
    (environment : Shell.Environment) (root : String) :
    (∃ e, merge environment root o c = .error e ∧ merge environment root o' c' = .error e) ∨
    ∃ s s', merge environment root o c = .ok s ∧ merge environment root o' c' = .ok s' ∧
      s.checkers.map (·.tool) = s'.checkers.map (·.tool) ∧
      (∀ (disk : Tool → Disk) (runner : Tool → Runner),
        s.buildStreams (disk ·.tool) (runner ·.tool) =
          s'.buildStreams (disk ·.tool) (runner ·.tool)) ∧
      (∀ arrived, s.buildOutput arrived = s'.buildOutput arrived) ∧
      ∀ m, Cli.runWith s m = Cli.runWith s' m ∧
        ((Cli.runWith s m).out, (Cli.runWith s m).code) =
          s.buildOutput (s.buildStreams (fun _ => m.disk) (·.tool.runner m)).flatten := by
  have hmode' : o'.watch = false := (congrArg Options.watch ho).symm.trans hmode
  have hmerge : (merge environment root o c).map forBuild =
      (merge environment root o' c').map forBuild := by
    rw [← merge_forBuild environment root hmode, ← merge_forBuild environment root hmode', ho, hc]
  cases h : merge environment root o c with
  | error e =>
    cases h' : merge environment root o' c' with
    | error e' =>
      rw [h, h'] at hmerge
      obtain rfl : e = e' := Except.error.inj hmerge
      exact .inl ⟨e, rfl, rfl⟩
    | ok s' =>
      rw [h, h'] at hmerge
      cases hmerge
  | ok s =>
    cases h' : merge environment root o' c' with
    | error e' =>
      rw [h, h'] at hmerge
      cases hmerge
    | ok s' =>
      rw [h, h'] at hmerge
      have hs : s.forBuild = s'.forBuild := Except.ok.inj hmerge
      have hbuild := mode_of_merge hmode h
      have hbuild' := mode_of_merge hmode' h'
      refine .inr ⟨s, s', rfl, rfl, ?_, fun disk runner => ?_, fun arrived => ?_, fun m => ⟨?_, ?_⟩⟩
      · rw [← map_tool_forBuild, hs, map_tool_forBuild]
      · rw [← buildStreams_forBuild, hs, buildStreams_forBuild]
      · rw [← buildOutput_forBuild, hs, buildOutput_forBuild]
      · rw [← runWith_forBuild hbuild, hs, runWith_forBuild hbuild']
      · exact buildOutput_runWith hbuild m

/-- One run is told to add what is no command line and to ignore what is no pattern. -/
theorem build_ignores_watching_unparsable :
    let o : Options :=
      { root := ".", config := none, watch := false, noOverlay := false, noTerminal := false
        overlayFile := none, ignore := [], failOnWarnings := true, verbose := false
        noColor := false, typeScript := true, esLint := some "eslint src", stylelint := none
        languageServer := none }
    let o' := { o with ignore := ["["], noOverlay := true, overlayFile := some "" }
    let entry (x : CheckerOptions) : Config := { esLint := some (.options x) }
    let c := entry {}
    let c' := entry
      { watchPath := some (.many []), logLevel := some [], overrideArgs := some "'" }
    (o.watch = false ∧ o.forBuild = o'.forBuild ∧ c.forBuild = c'.forBuild) ∧
      ((merge { entries := [] } "/p" { o' with watch := true } c').isOk = false) ∧
      ∃ s s', merge { entries := [] } "/p" o c = .ok s ∧
        merge { entries := [] } "/p" o' c' = .ok s' ∧
        s.checkers.map (·.tool.checker) = [.typeScript, .esLint] ∧
        ∀ m, Cli.runWith s m = Cli.runWith s' m := by
  intro o o' entry c c'
  have hok : (merge { entries := [] } "/p" o c).toOption.map (·.checkers.map (·.tool.checker)) =
      some [.typeScript, .esLint] := by decide +kernel
  have hmode : o.watch = false := rfl
  have ho : o.forBuild = o'.forBuild := rfl
  have hc : c.forBuild = c'.forBuild := rfl
  refine ⟨⟨hmode, ho, hc⟩, by decide +kernel, ?_⟩
  rcases build_ignores_watching hmode ho hc { entries := [] } "/p" with
    ⟨e, he, -⟩ | ⟨s, s', hs, hs', -, -, -, hrun⟩
  · rw [he] at hok
    cases hok
  · rw [hs] at hok
    exact ⟨s, s', hs, hs', Option.some.inj hok, fun m => (hrun m).1⟩

end Settings

end Sidecheck
