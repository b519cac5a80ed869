import Sidecheck.Overlay
import Sidecheck.Proofs.Compact
import Sidecheck.Proofs.Creating
import Sidecheck.Proofs.Positions
/-!
# The overlay file's lines

A payload is written as one line of JSON, in which no line end stands (`Payload.unbroken_line`) and
from which the payload is read again (`Payload.ofLine?_line`). The file begins empty, whatever was
there, and each payload adds its line. So whoever reads the file line by line reads the payloads in
the order in which they were posted: `OverlayFile.read_posted`.
-/

namespace Sidecheck

/-! ## Payloads -/

/-- The numbers are of 32 bits. -/
def OverlayLocation.Fits (l : OverlayLocation) : Prop := l.line < 2 ^ 32 ∧ l.column < 2 ^ 32

/-- The level is of 8 bits, and the location fits. -/
def OverlayDiagnostic.Fits (d : OverlayDiagnostic) : Prop :=
  (∀ level ∈ d.level, level < 2 ^ 8) ∧ ∀ l ∈ d.loc, l.Fits

/-- Its diagnostics fit. -/
def Payload.Fits (p : Payload) : Prop := ∀ d ∈ p.diagnostics, d.Fits

open Json

theorem OverlayLocation.ofJson?_toJson {l : OverlayLocation} (h : l.Fits) :
    ofJson? l.toJson = some l := by
  have hmembers : l.toJson.members? ["file", "line", "column"] 0 =
      some [some (.string l.file), some (.natural l.line), some (.natural l.column)] :=
    members?_record ["file", "line", "column"] (by decide) rfl
  have hline : required? count? (some (.natural l.line)) = some l.line := natBelow?_natural h.1
  have hcolumn : required? count? (some (.natural l.column)) = some l.column :=
    natBelow?_natural h.2
  simp only [ofJson?, hmembers, required?_string, hline, hcolumn, Option.bind_eq_bind,
    Option.bind_some, Option.pure_def]

theorem OverlayDiagnostic.ofJson?_toJson {d : OverlayDiagnostic} (h : d.Fits) :
    ofJson? d.toJson = some d := by
  have hmembers : d.toJson.members?
      ["message", "stack", "id", "frame", "checkerId", "level", "loc"] 0 =
      some [some (.string d.message), some (.string d.stack), some (d.id.elim .null .string),
        some (d.frame.elim .null .string), some (.string d.checkerId),
        some (d.level.elim .null .natural), some (d.loc.elim .null OverlayLocation.toJson)] :=
    members?_record ["message", "stack", "id", "frame", "checkerId", "level", "loc"] (by decide) rfl
  have htext (o : Option String) : optional? string? (some (o.elim .null .string)) = some o :=
    optional?_elim rfl fun _ _ => rfl
  have hlevel : optional? code? (some (d.level.elim .null .natural)) = some d.level :=
    optional?_elim rfl fun n hn => natBelow?_natural (h.1 n hn)
  have hloc : optional? OverlayLocation.ofJson? (some (d.loc.elim .null OverlayLocation.toJson)) =
      some d.loc :=
    optional?_elim rfl fun l hl => OverlayLocation.ofJson?_toJson (h.2 l hl)
  simp only [ofJson?, hmembers, required?_string, htext, hlevel, hloc, Option.bind_eq_bind,
    Option.bind_some, Option.pure_def]

theorem OverlayDiagnostic.isSimple_toJson (d : OverlayDiagnostic) : d.toJson.isSimple = true := by
  have htext (o : Option String) : (o.elim .null Json.string).isSimple = true :=
    isSimple_elim (fun _ => rfl) o
  have hlevel : (d.level.elim .null Json.natural).isSimple = true :=
    isSimple_elim (fun _ => rfl) d.level
  have hloc : (d.loc.elim .null OverlayLocation.toJson).isSimple = true :=
    isSimple_elim (fun _ => isSimple_record _) d.loc
  rw [toJson, isSimple_record]
  simp only [List.all_cons, List.all_nil, htext, hlevel, hloc]
  rfl

namespace Payload

variable {p : Payload}

/-- The list and the checker it belongs to, as they are written. -/
def dataJson (p : Payload) : Json :=
  .record [("checkerId", .string p.checkerId),
    ("diagnostics", .array (p.diagnostics.map OverlayDiagnostic.toJson))]

theorem dataOfJson?_dataJson (h : p.Fits) :
    dataOfJson? p.dataJson = some (p.checkerId, p.diagnostics) := by
  have hmembers : p.dataJson.members? ["checkerId", "diagnostics"] 0 =
      some [some (.string p.checkerId),
        some (.array (p.diagnostics.map OverlayDiagnostic.toJson))] :=
    members?_record ["checkerId", "diagnostics"] (by decide) rfl
  have hlist : required? (list? OverlayDiagnostic.ofJson?)
      (some (.array (p.diagnostics.map OverlayDiagnostic.toJson))) = some p.diagnostics :=
    mapM_map_eq_some fun d hd => OverlayDiagnostic.ofJson?_toJson (h d hd)
  simp only [dataOfJson?, hmembers, required?_string, hlist, Option.bind_eq_bind, Option.bind_some,
    Option.pure_def]

theorem ofJson?_toJson (h : p.Fits) : ofJson? p.toJson = some p := by
  have hmembers : p.toJson.members? ["event", "data"] 0 =
      some [some (.string p.event), some p.dataJson] :=
    members?_record ["event", "data"] (by decide) rfl
  have hdata : required? dataOfJson? (some p.dataJson) = some (p.checkerId, p.diagnostics) :=
    dataOfJson?_dataJson h
  simp only [ofJson?, hmembers, required?_string, hdata, Option.bind_eq_bind, Option.bind_some,
    Option.pure_def]

theorem isSimple_toJson (p : Payload) : p.toJson.isSimple = true := by
  have hdata : p.dataJson.isSimple = true := by
    have hlist : (array (p.diagnostics.map OverlayDiagnostic.toJson)).isSimple = true := by
      rw [isSimple_array, List.all_map]
      exact List.all_eq_true.2 fun d _ => d.isSimple_toJson
    rw [dataJson, isSimple_record]
    simp only [List.all_cons, List.all_nil, hlist]
    rfl
  have hrecord : p.toJson = .record [("event", .string p.event), ("data", p.dataJson)] := rfl
  rw [hrecord, isSimple_record]
  simp only [List.all_cons, List.all_nil, hdata]
  rfl

/-- Reading a payload's line gives the payload back. -/
theorem ofLine?_line (h : p.Fits) : ofLine? p.line = some p := by
  rw [ofLine?, line, String.toList_ofList, parse?_write p.isSimple_toJson, Option.bind_some]
  exact ofJson?_toJson h

theorem unbroken_line (p : Payload) : Unbroken p.line.toList := by
  rw [line, String.toList_ofList]
  exact unbroken_write p.toJson

end Payload

/-! ## The file -/

namespace OverlayFile

variable {o : OverlayFile} {place : List String}

/-- The text that payloads are written as, one after the other. -/
def text (ps : List Payload) : String := .ofList (ps.flatMap fun p => p.line.toList ++ ['\n'])

theorem toUTF8_text_cons (p : Payload) (ps : List Payload) :
    (text (p :: ps)).toUTF8 = lineBytes p ++ (text ps).toUTF8 := by
  have htext : text (p :: ps) = p.line ++ "\n" ++ text ps := by
    rw [← String.toList_inj]
    simp [text]
  rw [htext]
  exact String.toByteArray_append

/-- One line for each payload, and nothing else. -/
theorem outputLines_text (ps : List Payload) :
    Text.outputLines (text ps).toList = ps.map (·.line.toList) := by
  induction ps with
  | nil => rfl
  | cons p ps ih =>
    have hfeed : '\n' ∉ p.line.toList := fun hmem =>
      absurd (p.unbroken_line _ hmem) (by decide)
    have hreturn : Text.dropReturn p.line.toList = p.line.toList :=
      if_neg fun hlast => absurd (p.unbroken_line _ (List.mem_of_getLast? hlast)) (by decide)
    have hcons : (text (p :: ps)).toList = p.line.toList ++ '\n' :: (text ps).toList := by
      simp [text]
    rw [hcons, Text.outputLines_append_cons hfeed, hreturn, ih, List.map_cons]

/-- Posting adds the text of the payloads to the file and leaves the directories as they are. -/
theorem postAll_of_at? (hplace : o.place? = some place) (ps : List Payload) {d : Disk}
    {old : ByteArray} {executable : Bool}
    (h : d.root.at? place = some (.file old executable)) :
    (o.postAll d ps).root.at? place = some (.file (old ++ (text ps).toUTF8) executable) ∧
      d.Keeps (o.postAll d ps) ∧ (o.postAll d ps).workingDirectory = d.workingDirectory := by
  induction ps generalizing d old with
  | nil =>
    have hempty : old ++ (text []).toUTF8 = old := ByteArray.append_empty
    rw [hempty]
    exact ⟨h, .refl d, rfl⟩
  | cons p ps ih =>
    have hpost : o.post d p = d.append place (lineBytes p) := by rw [post, hplace]; rfl
    obtain ⟨hat, hkeeps, hworking⟩ := Disk.append_of_at? h (lineBytes p)
    obtain ⟨hat', hkeeps', hworking'⟩ := ih hat
    rw [postAll, List.foldl_cons, hpost, toUTF8_text_cons, ← ByteArray.append_assoc]
    exact ⟨hat', hkeeps.trans hkeeps', hworking'.trans hworking⟩

/-! ## Main theorem -/

/-- Whatever was at the path, when the file can be opened: after payloads have been posted it holds
one line for each, ended by a line feed, and nothing else. No control character stands in a line,
and the lines are read, one by one, as the payloads. The file is read by its path if the directory
that relative paths start from is there and no name in the path is too long. -/
theorem read_posted (disk : Disk) (path : String) (ps : List Payload) (hfits : ∀ p ∈ ps, p.Fits)
    {place : List String} (hopen : (create disk path).2.place? = some place) :
    let ended := (create disk path).2.postAll (create disk path).1 ps
    ended.bytesAt? place = some (text ps).toUTF8 ∧
      (disk.root.HasDirectory disk.workingDirectory →
        (∀ s ∈ path.toList.splitOn '/', (String.ofList s).utf8ByteSize ≤ longestName) →
        ended.readText path = .ok (text ps)) ∧
      Text.outputLines (text ps).toList = ps.map (·.line.toList) ∧
      (∀ p ∈ ps, ∀ c ∈ p.line.toList, 0x20 ≤ c.toNat) ∧
      ((Text.outputLines (text ps).toList).map String.ofList).mapM Payload.ofLine? = some ps := by
  intro ended
  have hcreate : disk.createFile path = ((create disk path).1, some place) :=
    Prod.ext rfl hopen
  obtain ⟨executable, hempty⟩ := Disk.at?_createFile hcreate
  obtain ⟨hfile, hkeeps, hworking⟩ := postAll_of_at? hopen ps hempty
  rw [ByteArray.empty_append] at hfile
  have hbytes : ended.bytesAt? place = some (text ps).toUTF8 := by
    simp only [Disk.bytesAt?, ended, hfile]
  refine ⟨hbytes, ?_, outputLines_text ps, fun p _ => p.unbroken_line, ?_⟩
  · intro hthere hshort
    have hpath := Disk.locate_of_createFile hcreate hkeeps hworking hthere hshort hfile
    exact Disk.readText_of_locate hpath hfile
  · have hlines : (ps.map (·.line.toList)).map String.ofList = ps.map Payload.line := by
      rw [List.map_map]
      exact List.map_congr_left fun p _ => String.ofList_toList
    rw [outputLines_text, hlines]
    exact Json.mapM_map_eq_some fun p hp => Payload.ofLine?_line (hfits p hp)

/-- A disk where the file is there already, with a line of its own. -/
def staleDisk : Disk :=
  ⟨.directory [("p", .directory [("log", .file "stale\n".toUTF8 false)])], ["p"]⟩

/-- Payloads with everything that a text can hold against being one line. -/
def trickyPayloads : List Payload := [
  ⟨Payload.errorEvent, "eslint", [
    ⟨"a \"b\" \\ c\nd\r\x01\u2028😀", "", none, some "  > 1 | \t\x7b", "ESLint", some 1,
      some ⟨"a.ts", 4294967295, 0⟩⟩]⟩,
  ⟨Payload.errorEvent, "lsp", []⟩]

theorem read_posted_tricky :
    let opened := create staleDisk "../p/./log"
    let ended := opened.2.postAll opened.1 trickyPayloads
    (∀ p ∈ trickyPayloads, p.Fits) ∧ opened.2.place? = some ["p", "log"] ∧
      ended.readText "../p/./log" = .ok (text trickyPayloads) ∧
      ((Text.outputLines (text trickyPayloads).toList).map String.ofList).mapM Payload.ofLine? =
        some trickyPayloads := by
  intro opened ended
  have hfits : ∀ p ∈ trickyPayloads, p.Fits := by
    unfold Payload.Fits OverlayDiagnostic.Fits OverlayLocation.Fits
    decide
  have hopen : opened.2.place? = some ["p", "log"] := by decide +kernel
  have hshort : ∀ s ∈ "../p/./log".toList.splitOn '/',
      (String.ofList s).utf8ByteSize ≤ longestName := by decide +kernel
  obtain ⟨-, hread, -, -, hlines⟩ :=
    read_posted staleDisk "../p/./log" trickyPayloads hfits hopen
  exact ⟨hfits, hopen, hread ⟨_, rfl⟩ hshort, hlines⟩

end OverlayFile

end Sidecheck
