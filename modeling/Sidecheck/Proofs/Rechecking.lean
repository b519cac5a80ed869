import Sidecheck.Proofs.History
import Sidecheck.Proofs.Reporting
/-!
# Checking a file again

When nothing has changed, a tool says about a file what it has said before, and checking the file
again should leave the store as it is. The full check puts a diagnostic under the file that it
names; the check of one file selects whole records and puts what they hold under the file that was
asked for. For most records both go by the same text. A language server's record is selected if its
URI names the same path, however that is written, but its diagnostics are stored under the path as
the URI writes it.

So checking again changes nothing exactly if no such record writes the path in another way
(`recheck_unchanged_iff`).
-/

namespace Sidecheck

/-! ## Putting back what is there -/

namespace Store

variable {s : Store}

theorem put_find (h : s.keys.Nodup) {key : Option String} (hkey : key ∈ s.keys) :
    s.put key (s.find key) = s := by
  have hentries : (s.entries.map fun entry =>
      (entry.1, if entry.1 = key then s.find key else entry.2)) = s.entries := by
    refine (List.map_congr_left fun entry hentry => ?_).trans (List.map_id _)
    by_cases hk : entry.1 = key
    · subst hk
      simp [find_of_mem h hentry]
    · simp [hk]
  rw [put, if_pos (hasKey_iff.2 hkey)]
  exact congrArg Store.mk hentries

theorem find_ne_nil (hfilled : s.Filled) (h : s.keys.Nodup) {key : Option String}
    (hkey : key ∈ s.keys) : s.find key ≠ [] := by
  obtain ⟨⟨k, ds⟩, hentry, rfl⟩ := List.mem_map.1 hkey
  rw [find_of_mem h hentry]
  exact hfilled _ hentry

theorem update_get (hfilled : s.Filled) (h : s.keys.Nodup) (file : String) :
    s.update file (s.get file) = s := by
  by_cases hkey : some file ∈ s.keys
  · rw [get, update_of_ne_nil s file (find_ne_nil hfilled h hkey)]
    exact put_find h hkey
  · have hentries : s.entries.filter (·.1 ≠ some file) = s.entries := by
      refine List.filter_eq_self.2 fun entry hentry => ?_
      simpa using fun heq => hkey (List.mem_map.2 ⟨entry, hentry, heq⟩)
    rw [get, find_eq_nil hkey]
    exact congrArg Store.mk hentries

/-- An update is no change exactly if it puts back what is there. -/
theorem update_eq_self_iff (hfilled : s.Filled) (h : s.keys.Nodup) (file : String)
    (ds : List Diagnostic) : s.update file ds = s ↔ ds = s.get file := by
  constructor
  · intro heq
    have hget := get_update s file file ds
    rw [heq, if_pos rfl] at hget
    exact hget.symm
  · rintro rfl
    exact update_get hfilled h file

end Store

/-! ## What a record is about -/

theorem CompilerRecord.file_normalize {r : CompilerRecord} {d : Diagnostic}
    (h : r.normalize = .ok d) : d.file = r.fileName := by
  unfold normalize at h
  split at h
  · cases h
  · cases h
    split <;> rfl

theorem LintMessage.file_diagnostic? {m : LintMessage} {file source : String} {d : Diagnostic}
    (h : m.diagnostic? file source = some d) : d.file = some file := by
  obtain ⟨severity, -, rfl⟩ := Option.map_eq_some_iff.1 h
  cases m.location? <;> rfl

theorem StyleWarning.file_diagnostic? {w : StyleWarning} {file : Option String} {css : String}
    {d : Diagnostic} (h : w.diagnostic? file css = some d) : d.file = file := by
  obtain ⟨severity, -, rfl⟩ := Option.map_eq_some_iff.1 h
  rfl

/-- What a language server publishes is stored under the path that the URI writes. -/
theorem ServerRecord.normalize_eq_ok {disk : Disk} {r : ServerRecord} {ds : List Diagnostic} :
    r.normalize disk = .ok ds ↔ ∃ path text, FileUri.path? r.uri = some path ∧
      disk.readText path = .ok text ∧ ds = r.diagnostics.map (·.diagnostic path text) := by
  unfold normalize
  cases hpath : FileUri.path? r.uri with
  | none => simp
  | some path => cases htext : disk.readText path <;> simp [htext, eq_comm]

namespace Record

variable {disk : Disk} {r : Record} {file : String}

/-- The diagnostics of a record; one that is refused has none. -/
def diagnostics (disk : Disk) (r : Record) : List Diagnostic :=
  match r.normalize disk with
  | .ok diagnostics => diagnostics
  | .error _ => []

theorem normalizeAll_eq_flatMap (disk : Disk) (records : List Record) :
    normalizeAll disk records = records.flatMap (diagnostics disk) := rfl

theorem exists_normalize_of_mem {d : Diagnostic} (h : d ∈ r.diagnostics disk) :
    ∃ ds, r.normalize disk = .ok ds ∧ d ∈ ds := by
  unfold diagnostics at h
  split at h
  · exact ⟨_, ‹_›, h⟩
  · cases h

/-- The file that a record's diagnostics are stored under. -/
def place? : Record → Option String
  | .server r => FileUri.path? r.uri
  | r => r.file?

theorem exists_of_normalize_compiler {r : CompilerRecord} {ds : List Diagnostic}
    (h : normalize disk (.compiler r) = .ok ds) : ∃ d, r.normalize = .ok d ∧ ds = [d] := by
  cases hr : r.normalize with
  | error e => simp [normalize, hr, Except.map] at h
  | ok d =>
    simp only [normalize, hr, Except.map, Except.ok.injEq] at h
    exact ⟨d, rfl, h.symm⟩

theorem file_eq_place? {d : Diagnostic} (h : d ∈ r.diagnostics disk) : d.file = r.place? := by
  obtain ⟨ds, hds, hd⟩ := exists_normalize_of_mem h
  cases r with
  | compiler r =>
    obtain ⟨d', hr, rfl⟩ := exists_of_normalize_compiler hds
    rw [List.mem_singleton.1 hd]
    exact CompilerRecord.file_normalize hr
  | lint r =>
    cases hds
    obtain ⟨m, -, hm⟩ := List.mem_filterMap.1 hd
    exact LintMessage.file_diagnostic? hm
  | style r =>
    cases hds
    obtain ⟨w, -, hw⟩ := List.mem_filterMap.1 hd
    exact StyleWarning.file_diagnostic? hw
  | server r =>
    obtain ⟨path, text, hpath, -, rfl⟩ := ServerRecord.normalize_eq_ok.1 hds
    obtain ⟨m, -, rfl⟩ := List.mem_map.1 hd
    exact hpath.symm

/-- A record is selected with the file that its diagnostics are stored under. -/
theorem isAbout_of_place? (h : r.place? = some file) : r.isAbout file = true := by
  cases r with
  | server r =>
    have hpath : FileUri.path? r.uri = some file := h
    simp [isAbout, hpath, Path.same]
  | compiler | lint | style => simpa [isAbout, place?] using h

theorem filter_normalizeAll (disk : Disk) (file : String) (records : List Record) :
    (normalizeAll disk (records.filter (isAbout file))).filter (·.file = some file) =
      (normalizeAll disk records).filter (·.file = some file) := by
  rw [normalizeAll_eq_flatMap, normalizeAll_eq_flatMap]
  induction records with
  | nil => rfl
  | cons r rest ih =>
    rw [List.flatMap_cons, List.filter_append]
    cases habout : r.isAbout file with
    | true => rw [List.filter_cons_of_pos habout, List.flatMap_cons, List.filter_append, ih]
    | false =>
      have hnone : (r.diagnostics disk).filter (·.file = some file) = [] := by
        refine List.filter_eq_nil_iff.2 fun d hd => ?_
        rw [file_eq_place? hd]
        simpa using fun hplace => by simp [isAbout_of_place? hplace] at habout
      rw [List.filter_cons_of_neg (by simp [habout]), hnone, List.nil_append, ih]

end Record

/-- The document has diagnostics, and its URI writes the path of the file in another way. -/
def ServerRecord.Respells (r : ServerRecord) (disk : Disk) (file : String) : Prop :=
  ∃ path text, FileUri.path? r.uri = some path ∧ Path.same path file = true ∧ path ≠ file ∧
    disk.readText path = .ok text ∧ r.diagnostics ≠ []

namespace Record

variable {disk : Disk} {file : String} {records : List Record}

/-- A selected record is stored under the file, unless it respells it. -/
theorem file_eq_of_isAbout {r : Record} (habout : r.isAbout file = true)
    (hspelt : ∀ s, r = .server s → ¬ s.Respells disk file) {d : Diagnostic}
    (hd : d ∈ r.diagnostics disk) : d.file = some file := by
  rw [file_eq_place? hd]
  cases r with
  | compiler | lint | style => simpa [isAbout, place?] using habout
  | server r =>
    obtain ⟨ds, hds, hmem⟩ := exists_normalize_of_mem hd
    obtain ⟨path, text, hpath, htext, rfl⟩ := ServerRecord.normalize_eq_ok.1 hds
    have hsame : Path.same path file = true := by simpa [isAbout, hpath] using habout
    have hne : r.diagnostics ≠ [] := by
      intro hnil
      simp [hnil] at hmem
    by_cases heq : path = file
    · rw [← heq]
      exact hpath
    · exact absurd ⟨path, text, hpath, hsame, heq, htext, hne⟩ (hspelt r rfl)

/-- What is selected for a file is what is stored under it, unless a record respells it. -/
theorem normalizeAll_filter_iff :
    normalizeAll disk (records.filter (isAbout file)) =
        (normalizeAll disk records).filter (·.file = some file) ↔
      ∀ r, .server r ∈ records → ¬ r.Respells disk file := by
  rw [← filter_normalizeAll, eq_comm, List.filter_eq_self, normalizeAll_eq_flatMap]
  constructor
  · rintro hall r hr ⟨path, text, hpath, hsame, hne, htext, hdiagnostics⟩
    obtain ⟨m, hm⟩ := List.exists_mem_of_ne_nil _ hdiagnostics
    have habout : isAbout file (.server r) = true := by simp [isAbout, hpath, hsame]
    have hnormal : normalize disk (.server r) = .ok (r.diagnostics.map (·.diagnostic path text)) :=
      ServerRecord.normalize_eq_ok.2 ⟨path, text, hpath, htext, rfl⟩
    have hmem : m.diagnostic path text ∈ diagnostics disk (.server r) := by
      rw [diagnostics, hnormal]
      exact List.mem_map_of_mem hm
    have hfile := hall _ (List.mem_flatMap.2 ⟨_, List.mem_filter.2 ⟨hr, habout⟩, hmem⟩)
    have hpath' : (m.diagnostic path text).file = some path := rfl
    simp [hpath', hne] at hfile
  · intro hspelt d hd
    obtain ⟨r, hr, hd⟩ := List.mem_flatMap.1 hd
    obtain ⟨hmem, habout⟩ := List.mem_filter.1 hr
    have hfile := file_eq_of_isAbout habout (fun s hs => hspelt s (hs ▸ hmem)) hd
    simpa using hfile

end Record

/-! ## Main theorem -/

theorem Tool.checkFile_of_same {t : Tool} {m : Machine} {root file : String} {o : Outcome}
    {records : List Record} (hproject : m.run (Tool.invocation m root t.command) = .ok o)
    (hfile : m.run (Tool.invocation m root (t.fileCommand file)) = .ok o)
    (hrecords : t.checkProject m root = .ok records) :
    t.checkFile m root file = .ok (records.filter (Record.isAbout file)) := by
  have hprogram : (t.fileCommand file).program = t.command.program := by
    unfold Tool.fileCommand
    split <;> rfl
  simp only [Tool.checkProject, Tool.run, hproject] at hrecords
  simp only [Tool.checkFile, Tool.run, hfile, hprogram, hrecords]
  rfl

theorem exists_map_of_bind {α : Type} {read : Except CheckError (List α)} {f : α → Record}
    {records : List Record} (h : (do return (← read).map f) = Except.ok records) :
    ∃ found : List α, records = found.map f := by
  cases read with
  | error => cases h
  | ok found => exact ⟨found, (Except.ok.inj h).symm⟩

/-- Only a language server publishes. -/
theorem Checker.not_server_of_readOutcome {c : Checker} (hc : c ≠ .languageServer) {disk : Disk}
    {root program : String} {o : Outcome} {records : List Record}
    (h : c.readOutcome disk root program o = .ok records) (r : ServerRecord) :
    .server r ∉ records := by
  intro hmem
  cases c with
  | typeScript =>
    simp only [readOutcome] at h
    split at h <;> cases h
    simp at hmem
  | esLint =>
    simp only [readOutcome] at h
    split at h
    · cases h
    · obtain ⟨found, rfl⟩ := exists_map_of_bind h
      simp at hmem
  | stylelint =>
    simp only [readOutcome] at h
    split at h
    · cases h
    · obtain ⟨found, rfl⟩ := exists_map_of_bind h
      simp at hmem
  | languageServer => exact hc rfl

theorem Tool.not_server_of_checkProject {t : Tool} (ht : t.checker ≠ .languageServer)
    {m : Machine} {root : String} {records : List Record}
    (h : t.checkProject m root = .ok records) (r : ServerRecord) : .server r ∉ records := by
  simp only [checkProject, run] at h
  split at h
  · cases h
  · exact Checker.not_server_of_readOutcome ht h r

/-- A full check and a check of one file after it: what is stored, and that it is reported. -/
theorem Session.checkAll_change (s : Session) (disk : Disk) (runner : Runner) {file : String}
    {records found : List Record} (hproject : runner.checkProject s.root = .ok records)
    (hfile : runner.checkFile s.root file = .ok found) :
    let first := s.checkAll disk runner
    let again := first.session.handle disk runner (.change file)
    first.session.store = .ofList (Record.normalizeAll disk records) ∧
      again.session.store = first.session.store.update file (Record.normalizeAll disk found) ∧
      first.shown = .report (s.reporter.report first.session.store) ∧
      again.shown = .report (s.reporter.report again.session.store) := by
  intro first again
  have hfirst : first = _ := s.checkAll_of_ok disk hproject
  have hagain : again = _ := handle_of_watching (by rw [hfirst]) disk runner (.change file)
  have hcheck : runner.perform (.file s.root file) = .ok found := hfile
  refine ⟨?_, ?_, ?_, ?_⟩
  · rw [hfirst]
  · rw [hagain, hfirst]
    simp only [storeAfter, hcheck, diagnose]
  · rw [hfirst]
  · rw [hagain, hfirst]

/-- Checking a file again, with the same output of the tool on the same disk, changes nothing
exactly if no record respells the file's path. Only a language server's records can. -/
theorem recheck_unchanged_iff (t : Tool) (m : Machine) (s : Session) (file : String) {o : Outcome}
    {records : List Record} (hproject : m.run (Tool.invocation m s.root t.command) = .ok o)
    (hfile : m.run (Tool.invocation m s.root (t.fileCommand file)) = .ok o)
    (hrecords : t.checkProject m s.root = .ok records) :
    let first := s.checkAll m.disk (t.runner m)
    let again := first.session.handle m.disk (t.runner m) (.change file)
    (again.session.store = first.session.store ↔
      ∀ r, .server r ∈ records → ¬ r.Respells m.disk file) ∧
    (again.session.store = first.session.store → again.shown = first.shown) ∧
    (t.checker ≠ .languageServer → again.session.store = first.session.store) := by
  intro first again
  obtain ⟨hstored, hupdated, hshown, hshown'⟩ := s.checkAll_change m.disk (t.runner m) hrecords
    (Tool.checkFile_of_same hproject hfile hrecords)
  have hiff : again.session.store = first.session.store ↔
      ∀ r, .server r ∈ records → ¬ r.Respells m.disk file := by
    rw [hupdated, hstored, Store.update_eq_self_iff (Store.filled_ofList _)
      (Store.Dated.ofList 0 _).nodup, Store.get_ofList, Record.normalizeAll_filter_iff]
  refine ⟨hiff, ?_, ?_⟩
  · intro hsame
    rw [hshown', hsame, hshown]
  · intro ht
    exact hiff.2 fun r hr => absurd hr (Tool.not_server_of_checkProject ht hrecords r)

/-- A project of one file, and a tool that prints a text. -/
def bench (printed : String) : Machine where
  disk := {
    root := .directory [("p", .directory [
      ("a", .file "x".toUTF8 false),
      ("node_modules", .directory [(".bin", .directory [("tool", .file .empty true)])])])]
    workingDirectory := [] }
  environment := ⟨[], none⟩
  tools := [("/p/node_modules/.bin/tool", ⟨printed.toUTF8, .empty, .exited 0⟩)]

def benchTool (c : Checker) : Tool := ⟨c, ⟨"tool", []⟩⟩

theorem run_bench {printed : String} {i : Invocation}
    (h : (bench printed).start i = .ok "/p/node_modules/.bin/tool") :
    (bench printed).run i = .ok ⟨printed.toUTF8, .empty, .exited 0⟩ := by
  simp only [Machine.run, h]
  rfl

def benchSession (c : Checker) : Session := { root := "/p", reporter := { checker := c } }

theorem Session.exists_records {s : Session} {disk : Disk} {runner : Runner}
    (h : (s.checkAll disk runner).session ≠ s) :
    ∃ records, runner.checkProject s.root = .ok records := by
  cases hcheck : runner.checkProject s.root with
  | error e =>
    rw [s.checkAll_of_error disk hcheck] at h
    exact absurd rfl h
  | ok records => exact ⟨records, rfl⟩

/-- A compiler that says the same again. -/
theorem recheck_unchanged_compiler :
    let m := bench "a(1,1): error TS1: m"
    let t := benchTool .typeScript
    let first := (benchSession .typeScript).checkAll m.disk (t.runner m)
    let again := first.session.handle m.disk (t.runner m) (.change "/p/a")
    (∃ o, m.run (Tool.invocation m "/p" t.command) = .ok o ∧
      m.run (Tool.invocation m "/p" (t.fileCommand "/p/a")) = .ok o) ∧
    first.session.store.size = 1 ∧
    again.session.store = first.session.store ∧ again.shown = first.shown := by
  intro m t first again
  have hsize : first.session.store.size = 1 := by
    dsimp only [first, t, m]
    decide +kernel
  have hproject := run_bench (by decide +kernel : m.start (Tool.invocation m "/p" t.command) = _)
  have hne : first.session ≠ benchSession .typeScript := by
    intro heq
    rw [heq] at hsize
    exact absurd hsize (by decide)
  obtain ⟨records, hrecords⟩ := Session.exists_records hne
  obtain ⟨-, hshown, hother⟩ :=
    recheck_unchanged_iff t m (benchSession .typeScript) "/p/a" hproject hproject hrecords
  have hsame := hother (by decide)
  exact ⟨⟨_, hproject, hproject⟩, hsize, hsame, hshown hsame⟩

def publishedOutput : String :=
  "[\x7b\"uri\":\"file:///p//a\",\"diagnostics\":[\x7b\"message\":\"m\",\"range\":
  \x7b\"start\":\x7b\"line\":0,\"character\":0\x7d,\"end\":\x7b\"line\":0,\"character\":1\x7d\x7d\x7d]\x7d]"

def published : ServerRecord := ⟨"file:///p//a", [⟨⟨0, 0⟩, ⟨0, 1⟩, none, none, "m"⟩]⟩

theorem readPublished_publishedOutput :
    Checker.readPublished (Text.decodeLossy publishedOutput.toUTF8) = .ok [published] := by
  -- Texts that are put together only to be taken apart make evaluation slow.
  simp only [Text.decodeLossy, Checker.readPublished, Checker.readArray, String.toList_ofList]
  decide +kernel

theorem Checker.readOutcome_languageServer {disk : Disk} {root program : String}
    {out err : ByteArray} {found : List ServerRecord}
    (h : readPublished (Text.decodeLossy out) = .ok found) :
    languageServer.readOutcome disk root program ⟨out, err, .exited 0⟩ =
      .ok (found.map .server) := by
  simp only [readOutcome, h]
  rfl

/-- A language server writes a slash of the path twice. The full check stores its finding under the
path that it writes; when the file is checked again, it is stored once more, under the file's. -/
theorem recheck_duplicates :
    let m := bench publishedOutput
    let t := benchTool .languageServer
    let first := (benchSession .languageServer).checkAll m.disk (t.runner m)
    let again := first.session.handle m.disk (t.runner m) (.change "/p/a")
    (∃ o, m.run (Tool.invocation m "/p" t.command) = .ok o ∧
      m.run (Tool.invocation m "/p" (t.fileCommand "/p/a")) = .ok o) ∧
    first.session.store.entries.map (fun e => (e.1, e.2.length)) = [(some "/p//a", 1)] ∧
    again.session.store.entries.map (fun e => (e.1, e.2.length)) =
      [(some "/p//a", 1), (some "/p/a", 1)] := by
  intro m t
  dsimp only
  have hproject := run_bench (by decide +kernel : m.start (Tool.invocation m "/p" t.command) = _)
  have hfile :=
    run_bench (by decide +kernel : m.start (Tool.invocation m "/p" (t.fileCommand "/p/a")) = _)
  have hrecords : t.checkProject m "/p" = .ok [.server published] := by
    rw [Tool.checkProject, Tool.run, hproject]
    exact Checker.readOutcome_languageServer readPublished_publishedOutput
  obtain ⟨hstored, hupdated, -, -⟩ := (benchSession .languageServer).checkAll_change m.disk
    (t.runner m) hrecords (Tool.checkFile_of_same hproject hfile hrecords)
  refine ⟨⟨_, hproject, hfile⟩, ?_, ?_⟩
  · rw [hstored]
    decide +kernel
  · rw [hupdated, hstored]
    decide +kernel

end Sidecheck
