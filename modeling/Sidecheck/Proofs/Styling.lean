import Mathlib.Data.List.Forall2
import Sidecheck.Proofs.Framing
import Sidecheck.Proofs.History
import Sidecheck.Proofs.Rechecking
import Sidecheck.Proofs.Trimming
/-!
# What color adds

A report is written with or without color, and a frame is laid out once and written both ways. The
two texts differ in style sequences: `Ansi.Strips` says so of a text with whatever comes behind it,
which is what makes it a relation between parts, of rows in a frame and of frames in a block.

An escape character in what a tool says could begin a sequence of its own. If no text of a record
holds one, its diagnostics hold one only if the path does that the record's URI stands for
(`Record.isPlain_of_mem_diagnostics`): a URI can write any character in percent-encoding. Without
such a path, taking the sequences out of a colored report leaves the report without color
(`color_only_styles`); with one, it takes out a part of the path as well (`style_in_path_erased`).
-/

namespace Sidecheck

/-! ## Characters of a text -/

namespace Text

variable {c : Char} {cs : List Char}

theorem not_mem_of_mem_sourceLines (h : c ∉ cs) {line : List Char} (hline : line ∈ sourceLines cs) :
    c ∉ line := by
  obtain ⟨part, hpart, rfl⟩ := List.mem_map.1 hline
  exact not_mem_dropReturn (mt (mem_of_mem_splitOn hpart) h)

theorem not_mem_trimmed {s : String} (h : c ∉ s.toList) : c ∉ (trimmed s).toList := by
  obtain ⟨tail, htail, -⟩ := exists_eq_dropWhileEnd_append isBlank (trimStart s.toList)
  intro hc
  rw [trimmed, String.toList_ofList, trim, trimEnd] at hc
  have hstart : c ∈ trimStart s.toList := by
    rw [htail]
    exact List.mem_append_left _ hc
  exact h ((List.dropWhile_sublist _).mem hstart)

end Text

/-! ## Style sequences -/

namespace Ansi

variable {cs styled plain styled' plain' : List Char}

/-- Taking the style sequences out of one text leaves the other, whatever is written behind them. -/
def Strips (styled plain : List Char) : Prop :=
  ∀ rest, eraseFrom false (styled ++ rest) = plain ++ eraseFrom false rest

theorem Strips.erase_eq (h : Strips styled plain) : erase styled = plain := by
  have hnil := h []
  rw [List.append_nil] at hnil
  rw [erase, hnil]
  exact List.append_nil plain

theorem Strips.append (h : Strips styled plain) (h' : Strips styled' plain') :
    Strips (styled ++ styled') (plain ++ plain') := by
  intro rest
  rw [List.append_assoc, h, h', List.append_assoc]

theorem strips_self (h : escape ∉ cs) : Strips cs cs := fun _ => eraseFrom_false_append h

theorem strips_cons {c : Char} (hc : escape ≠ c) (h : Strips styled plain) :
    Strips (c :: styled) (c :: plain) := by
  have hself : Strips [c] [c] := strips_self (by simpa using hc)
  exact hself.append h

theorem strips_intercalate {sep : List Char} (hsep : escape ∉ sep) {xs ys : List (List Char)}
    (h : List.Forall₂ Strips xs ys) : Strips (sep.intercalate xs) (sep.intercalate ys) := by
  induction h with
  | nil => exact strips_self List.not_mem_nil
  | cons hxy hrest ih =>
    cases hrest with
    | nil => simpa using hxy
    | cons =>
      rw [List.intercalate_cons_cons, List.intercalate_cons_cons]
      exact (hxy.append (strips_self hsep)).append ih

/-- A style's codes do not end its sequence. -/
theorem Style.end_not_mem_write (style : Style) : 'm' ∉ style.write := by
  refine Text.not_mem_intercalate (by decide) fun part hpart => ?_
  obtain ⟨code, -, rfl⟩ := List.mem_map.1 hpart
  exact Listing.not_mem_toDigits (by decide)

theorem strips_paint (style : Style) (h : escape ∉ cs) : Strips (paint style cs) cs := by
  intro rest
  -- A sequence for the style stands before the text, and one that resets it behind.
  have hsplit : paint style cs ++ rest =
      escape :: '[' :: (style.write ++ 'm' :: (cs ++ escape :: '[' :: (['0'] ++ 'm' :: rest))) := by
    simp [paint]
  have hbegin (xs : List Char) : eraseFrom false (escape :: '[' :: xs) = eraseFrom true xs := rfl
  rw [hsplit, hbegin, eraseFrom_true_append style.end_not_mem_write, eraseFrom_false_append h,
    hbegin, eraseFrom_true_append (by decide)]

theorem strips_paintIf (style : Style) (h : escape ∉ cs) :
    Strips (paintIf true style cs) (paintIf false style cs) := strips_paint style h

end Ansi

open Ansi

/-! ## Frames -/

namespace Frame

variable {lines : List (List Char)} {l : Location}

theorem Row.strips_write (width : Nat) {row : Row} (h : escape ∉ row.taken) :
    Strips (row.write true width) (row.write false width) := by
  have hgutter {label : List Char} (hlabel : escape ∉ label) :
      Strips (paintIf true gutterStyle (gutter width label))
        (paintIf false gutterStyle (gutter width label)) :=
    strips_paintIf _ (not_mem_gutter (by decide) (by decide) hlabel width)
  cases row with
  | source number flagged line =>
    have hflag : Strips (' ' :: ' ' :: if flagged then paintIf true markStyle ['>'] else [' '])
        (' ' :: ' ' :: if flagged then paintIf false markStyle ['>'] else [' ']) := by
      refine strips_cons (by decide) (strips_cons (by decide) ?_)
      cases flagged with
      | true => exact strips_paintIf _ (by decide)
      | false => exact strips_self (by decide)
    have hbody : escape ∉ if line.isEmpty then [] else ' ' :: line := by
      split
      · exact List.not_mem_nil
      · exact List.not_mem_cons_of_ne_of_not_mem (by decide) h
    exact (hflag.append (hgutter (not_mem_digits (by decide) number))).append (strips_self hbody)
  | carets indent count =>
    have hindent : escape ∉ ' ' :: indent := List.not_mem_cons_of_ne_of_not_mem (by decide) h
    have hcarets : escape ∉ List.replicate count '^' := by
      intro hmem
      exact absurd (List.eq_of_mem_replicate hmem) (by decide)
    simp only [Row.write, List.append_assoc]
    exact (strips_self (by decide)).append ((hgutter List.not_mem_nil).append
      ((strips_self hindent).append (strips_paintIf _ hcarets)))

theorem strips_write (h : ∀ line ∈ lines, escape ∉ line) (l : Location) :
    Strips (write true lines l) (write false lines l) := by
  refine strips_intercalate (by decide) ?_
  rw [List.forall₂_map_left_iff, List.forall₂_map_right_iff, List.forall₂_same]
  intro row hrow
  exact Row.strips_write _ (not_mem_taken (by decide) (by decide) h hrow)

/-- A frame's two forms differ in their styles. -/
theorem strips_render? {text : String} (htext : escape ∉ text.toList) {frame : Frame}
    (h : render? text l = some frame) : Strips frame.styled.toList frame.plain.toList := by
  have hlines : ∀ line ∈ Text.sourceLines text.toList, escape ∉ line := fun line hline =>
    Text.not_mem_of_mem_sourceLines htext hline
  rw [render?] at h
  split at h
  · cases h
  · rw [← Option.some.inj h, String.toList_ofList, String.toList_ofList]
    exact strips_write hlines l

end Frame

/-! ## Blocks and summaries -/

theorem Severity.escape_not_mem_label (s : Severity) : escape ∉ s.label.toList := by
  cases s <;> decide

theorem Checker.escape_not_mem_name (c : Checker) : escape ∉ c.name.toList := by
  cases c <;> decide

namespace Diagnostic

variable {d : Diagnostic}

/-- What the diagnostic says holds no escape character, except for its frame, which has them in
its styles only. -/
structure IsPlain (d : Diagnostic) : Prop where
  message : escape ∉ d.message.toList
  conclusion : escape ∉ d.conclusion.toList
  file : ∀ file ∈ d.file, escape ∉ file.toList
  frames : Option.Rel (fun styled plain => Strips styled.toList plain.toList)
    d.styledFrame d.plainFrame

theorem IsPlain.locate (h : d.IsPlain) {text : String} (htext : escape ∉ text.toList)
    (l : Location) : (d.locate text l).IsPlain where
  message := h.message
  conclusion := h.conclusion
  file := h.file
  frames := by
    cases hframe : Frame.render? text l with
    | none =>
      simp only [Diagnostic.locate, hframe]
      exact .none
    | some frame =>
      simp only [Diagnostic.locate, hframe]
      exact .some (Frame.strips_render? htext hframe)

theorem strips_headText (h : d.IsPlain) : Strips (d.headText true) (d.headText false) := by
  have hlabel (severity : Severity) :
      escape ∉ (" " ++ severity.label ++ "(" ++ d.checker.name ++ ") ").toList := by
    simpa [escape] using
      And.intro severity.escape_not_mem_label d.checker.escape_not_mem_name
  have hmessage : escape ∉ ' ' :: d.message.toList :=
    List.not_mem_cons_of_ne_of_not_mem (by decide) h.message
  exact (strips_paintIf _ (hlabel _)).append (strips_self hmessage)

theorem strips_positionText (n : Nat) : Strips (positionText true n) (positionText false n) :=
  strips_cons (by decide) (strips_paintIf _ (Listing.not_mem_toDigits (by decide)))

theorem strips_fileText {file : String} (h : escape ∉ file.toList) (location : Option Location) :
    Strips (fileText true file location) (fileText false file location) := by
  have hfile : escape ∉ ' ' :: file.toList := List.not_mem_cons_of_ne_of_not_mem (by decide) h
  have hposition : Strips
      (location.elim [] fun l => positionText true l.startLine ++ positionText true l.startColumn)
      (location.elim [] fun l =>
        positionText false l.startLine ++ positionText false l.startColumn) := by
    cases location with
    | none => exact strips_self List.not_mem_nil
    | some l => exact (strips_positionText _).append (strips_positionText _)
  exact (((strips_paintIf _ (by decide)).append (strips_self hfile)).append hposition).append
    (strips_self (by decide))

/-- The parts of a block differ in their styles, one by one. -/
theorem forall₂_strips_blockParts (h : d.IsPlain) :
    List.Forall₂ Strips (d.blockParts true) (d.blockParts false) := by
  have hfile : List.Forall₂ Strips (d.file.toList.map (fileText true · d.location))
      (d.file.toList.map (fileText false · d.location)) := by
    rw [List.forall₂_map_left_iff, List.forall₂_map_right_iff, List.forall₂_same]
    intro file hmem
    exact strips_fileText (h.file file (Option.mem_toList.1 hmem)) d.location
  have hframe : List.Forall₂ Strips (d.styledFrame.toList.map (·.toList ++ ['\n']))
      (d.plainFrame.toList.map (·.toList ++ ['\n'])) := by
    have hframes := h.frames
    generalize d.styledFrame = styled, d.plainFrame = plain at hframes
    cases hframes with
    | none => exact .nil
    | some hstrips => exact .cons (hstrips.append (strips_self (by decide))) .nil
  have hconclusion : List.Forall₂ Strips
      (if d.conclusion.isEmpty then [] else [d.conclusion.toList])
      (if d.conclusion.isEmpty then [] else [d.conclusion.toList]) := by
    split
    · exact .nil
    · exact .cons (strips_self h.conclusion) .nil
  exact List.rel_append (List.rel_append (List.rel_append (.cons (strips_headText h) .nil) hfile)
    hframe) hconclusion

theorem strips_block (h : d.IsPlain) : Strips (d.block true).toList (d.block false).toList := by
  simpa [block] using strips_intercalate (by decide) (forall₂_strips_blockParts h)

end Diagnostic

namespace Summary

theorem escape_not_mem_plural (n : Nat) {word : String} (hword : escape ∉ word.toList) :
    escape ∉ (plural n word).toList := by
  have hdigits : escape ∉ (toString n).toList := by
    rw [show (toString n).toList = Nat.toDigits 10 n from String.toList_ofList]
    exact Listing.not_mem_toDigits (by decide)
  have hplural : escape ∉ (if n = 1 then "" else "s").toList := by split <;> decide
  rw [plural]
  simp only [String.toList_append, List.mem_append, not_or]
  exact ⟨⟨⟨hdigits, by decide⟩, hword⟩, hplural⟩

theorem strips_line (s : Summary) (checker : Checker) :
    Strips (s.line checker true).toList (s.line checker false).toList := by
  have hmessage : escape ∉ (s.message checker).toList := by
    simp only [message, String.toList_append, List.mem_append, not_or]
    exact ⟨⟨⟨⟨⟨by decide, checker.escape_not_mem_name⟩, by decide⟩,
      escape_not_mem_plural _ (by decide)⟩, by decide⟩, escape_not_mem_plural _ (by decide)⟩
  simpa [line] using strips_paintIf s.color.style hmessage

end Summary

/-! ## Records -/

/-- The texts of a message and of the elaborations below it. -/
def Message.texts : Message → List String
  | .plain text => [text]
  | .tree t => (t.preorder 0).map (·.2)

/-- The text that is read for the frames of a document's diagnostics. -/
def ServerRecord.fileText? (disk : Disk) (r : ServerRecord) : Option String :=
  (FileUri.path? r.uri).bind fun path => (disk.readText path).toOption

/-- Every text that a record holds, and the text of its file. -/
def Record.texts (disk : Disk) : Record → List String
  | .compiler r => r.message.texts ++ r.fileName.toList ++ r.fileText.toList
  | .lint r =>
    r.filePath :: r.source.toList ++ r.messages.flatMap fun m => m.message :: m.ruleId.toList
  | .style r =>
    r.source.toList ++ r.css.toList ++ r.warnings.flatMap fun w => [w.rule, w.severity, w.text]
  | .server r =>
    r.uri :: (r.fileText? disk).toList ++
      r.diagnostics.flatMap fun d => d.message :: d.source.toList

theorem Diagnostic.isPlain_unlocated {checker : Checker} {message : String} {file : Option String}
    {severity : Option Severity} (hmessage : escape ∉ message.toList)
    (hfile : ∀ name ∈ file, escape ∉ name.toList) :
    IsPlain { checker, message, file, severity } :=
  ⟨hmessage, List.not_mem_nil, hfile, .none⟩

theorem escape_not_mem_withRule {message rule : String} (hmessage : escape ∉ message.toList)
    (hrule : escape ∉ rule.toList) : escape ∉ (withRule message rule).toList := by
  simp only [withRule, String.toList_append, List.mem_append, not_or]
  exact ⟨⟨⟨hmessage, by decide⟩, hrule⟩, by decide⟩

theorem Message.escape_not_mem_flatten {m : Message}
    (h : ∀ text ∈ m.texts, escape ∉ text.toList) : escape ∉ m.flatten.toList := by
  cases m with
  | plain text => exact h text List.mem_cons_self
  | tree t =>
    rw [flatten, String.toList_intercalate]
    refine Text.not_mem_intercalate (by decide) fun line hline => ?_
    simp only [List.map_map, List.mem_map, Function.comp_apply] at hline
    obtain ⟨⟨depth, text⟩, hmem, rfl⟩ := hline
    have htext : escape ∉ text.toList := h text (List.mem_map.2 ⟨_, hmem, rfl⟩)
    have hindent : escape ∉ List.replicate (2 * depth) ' ' := fun hblank =>
      absurd (List.eq_of_mem_replicate hblank) (by decide)
    rw [String.toList_append, String.toList_ofList, List.mem_append, not_or]
    exact ⟨hindent, htext⟩

theorem CompilerRecord.fileText_of_location? {r : CompilerRecord} {text : String} {l : Location}
    (h : r.location? = some (text, l)) : r.fileText = some text := by
  obtain ⟨_, _, -, -, htext, -⟩ := location?_eq_some_iff.1 h
  exact htext

theorem CompilerRecord.isPlain_normalize {r : CompilerRecord}
    (hmessage : ∀ text ∈ r.message.texts, escape ∉ text.toList)
    (hname : ∀ name ∈ r.fileName, escape ∉ name.toList)
    (htext : ∀ text ∈ r.fileText, escape ∉ text.toList) {d : Diagnostic}
    (h : r.normalize = .ok d) : d.IsPlain := by
  have hplain := Message.escape_not_mem_flatten hmessage
  unfold normalize at h
  split at h
  · cases h
  · cases h
    split
    · rename_i text l hlocation
      exact (Diagnostic.isPlain_unlocated hplain hname).locate
        (htext text (fileText_of_location? hlocation)) l
    · exact Diagnostic.isPlain_unlocated hplain hname

theorem LintMessage.isPlain_diagnostic? {m : LintMessage} {file source : String}
    (hmessage : escape ∉ m.message.toList) (hrule : ∀ rule ∈ m.ruleId, escape ∉ rule.toList)
    (hfile : escape ∉ file.toList) (hsource : escape ∉ source.toList) {d : Diagnostic}
    (h : m.diagnostic? file source = some d) : d.IsPlain := by
  obtain ⟨severity, -, rfl⟩ := Option.map_eq_some_iff.1 h
  have htext : escape ∉ (m.ruleId.elim m.message (withRule m.message)).toList := by
    cases hid : m.ruleId with
    | none => exact hmessage
    | some rule => exact escape_not_mem_withRule hmessage (hrule rule hid)
  have hname : ∀ name ∈ some file, escape ∉ name.toList := by
    rintro _ ⟨⟩
    exact hfile
  cases m.location? with
  | none => exact Diagnostic.isPlain_unlocated htext hname
  | some l => exact (Diagnostic.isPlain_unlocated htext hname).locate hsource l

theorem StyleWarning.isPlain_diagnostic? {w : StyleWarning} {file : Option String} {css : String}
    (hmessage : escape ∉ w.text.toList) (hrule : escape ∉ w.rule.toList)
    (hfile : ∀ f ∈ file, escape ∉ f.toList) (hcss : escape ∉ css.toList) {d : Diagnostic}
    (h : w.diagnostic? file css = some d) : d.IsPlain := by
  obtain ⟨severity, -, rfl⟩ := Option.map_eq_some_iff.1 h
  exact (Diagnostic.isPlain_unlocated (escape_not_mem_withRule hmessage hrule) hfile).locate hcss _

theorem ServerDiagnostic.isPlain_diagnostic {m : ServerDiagnostic} {file text : String}
    (hmessage : escape ∉ m.message.toList) (hfile : escape ∉ file.toList)
    (htext : escape ∉ text.toList) : (m.diagnostic file text).IsPlain :=
  (Diagnostic.isPlain_unlocated (Text.not_mem_trimmed hmessage) fun _ hf =>
    Option.mem_some.1 hf ▸ hfile).locate htext _

theorem escape_not_mem_getD {source : Option String}
    (h : ∀ text ∈ source, escape ∉ text.toList) : escape ∉ (source.getD "").toList := by
  cases source with
  | none => exact List.not_mem_nil
  | some text => exact h text rfl

namespace Record

variable {disk : Disk} {r : Record}

/-- A diagnostic is plain if the texts of its record are, and the path that it is stored under. -/
theorem isPlain_of_mem_diagnostics (htexts : ∀ text ∈ r.texts disk, escape ∉ text.toList)
    (hplace : ∀ path ∈ r.place?, escape ∉ path.toList) {d : Diagnostic}
    (hd : d ∈ r.diagnostics disk) : d.IsPlain := by
  obtain ⟨ds, hds, hd⟩ := exists_normalize_of_mem hd
  cases r with
  | compiler r =>
    obtain ⟨d', hd', rfl⟩ := exists_of_normalize_compiler hds
    obtain rfl := List.mem_singleton.1 hd
    simp only [texts, List.forall_mem_append, Option.mem_toList] at htexts
    obtain ⟨⟨hmessage, hname⟩, htext⟩ := htexts
    exact CompilerRecord.isPlain_normalize hmessage hname htext hd'
  | lint r =>
    cases hds
    obtain ⟨m, hm, hd⟩ := List.mem_filterMap.1 hd
    simp only [texts, List.forall_mem_append, List.forall_mem_cons, List.forall_mem_flatMap,
      Option.mem_toList] at htexts
    obtain ⟨⟨hpath, hsource⟩, hmessages⟩ := htexts
    obtain ⟨hmessage, hrule⟩ := hmessages m hm
    exact LintMessage.isPlain_diagnostic? hmessage hrule hpath (escape_not_mem_getD hsource) hd
  | style r =>
    cases hds
    obtain ⟨w, hw, hd⟩ := List.mem_filterMap.1 hd
    simp only [texts, List.forall_mem_append, List.forall_mem_cons, List.forall_mem_flatMap,
      Option.mem_toList] at htexts
    obtain ⟨⟨hsource, hcss⟩, hwarnings⟩ := htexts
    obtain ⟨hrule, -, hmessage, -⟩ := hwarnings w hw
    exact StyleWarning.isPlain_diagnostic? hmessage hrule hsource (escape_not_mem_getD hcss) hd
  | server r =>
    obtain ⟨path, text, hpath, htext, rfl⟩ := ServerRecord.normalize_eq_ok.1 hds
    obtain ⟨m, hm, rfl⟩ := List.mem_map.1 hd
    simp only [texts, List.forall_mem_append, List.forall_mem_cons, List.forall_mem_flatMap,
      Option.mem_toList] at htexts
    obtain ⟨⟨-, hfile⟩, hmessages⟩ := htexts
    have hread : r.fileText? disk = some text := by
      simp [ServerRecord.fileText?, hpath, htext, Except.toOption]
    exact ServerDiagnostic.isPlain_diagnostic (hmessages m hm).1 (hplace path hpath)
      (hfile text hread)

end Record

/-! ## Main theorem -/

/-- A text without its style sequences. -/
def Ansi.unstyled (s : String) : String := .ofList (erase s.toList)

theorem Ansi.Strips.unstyled_eq {styled plain : String} (h : Strips styled.toList plain.toList) :
    unstyled styled = plain := by
  rw [unstyled, h.erase_eq, String.ofList_toList]

theorem Reporter.map_unstyled_report {s : Store} (h : ∀ d ∈ s.flatten, d.IsPlain) (r : Reporter) :
    ({ r with color := true }.report s).lines.map unstyled =
      ({ r with color := false }.report s).lines := by
  have hlines (color : Bool) : ({ r with color }.report s).lines =
      if r.terminal then
        (filterLevels r.levels s.flatten).map (·.block color) ++
          [(Summary.ofDiagnostics (filterLevels r.levels s.flatten)).line r.checker color]
      else [] := rfl
  rw [hlines, hlines]
  cases r.terminal with
  | false => rfl
  | true =>
    have hblock : ∀ d ∈ filterLevels r.levels s.flatten, unstyled (d.block true) = d.block false :=
      fun d hd => (Diagnostic.strips_block (h d (List.mem_of_mem_filter hd))).unstyled_eq
    rw [if_pos rfl, if_pos rfl, List.map_append, List.map_map, List.map_singleton,
      (Summary.strips_line _ _).unstyled_eq]
    exact congrArg (· ++ _) (List.map_congr_left hblock)

/-- If no text of a record and no path that it names holds an escape character, color adds style
sequences to the entries of a report and to frames, and changes nothing else. -/
theorem color_only_styles (disk : Disk) (records : List Record)
    (htexts : ∀ r ∈ records, ∀ text ∈ r.texts disk, escape ∉ text.toList)
    (hplaces : ∀ r ∈ records, ∀ path ∈ r.place?, escape ∉ path.toList) (r : Reporter) :
    let store := Store.ofList (Record.normalizeAll disk records)
    let colored := { r with color := true }.report store
    let plain := { r with color := false }.report store
    colored.lines.length = plain.lines.length ∧ colored.lines.map unstyled = plain.lines ∧
      colored.payload = plain.payload ∧ colored.summary = plain.summary ∧
      ∀ (text : String) (l : Location) (frame : Frame), escape ∉ text.toList →
        Frame.render? text l = some frame → unstyled frame.styled = frame.plain := by
  intro store colored plain
  have hplain : ∀ d ∈ store.flatten, d.IsPlain := by
    intro d hd
    have hmem := (Store.flatten_ofList_perm _).mem_iff.1 hd
    rw [Record.normalizeAll_eq_flatMap] at hmem
    obtain ⟨record, hrecord, hd⟩ := List.mem_flatMap.1 hmem
    exact Record.isPlain_of_mem_diagnostics (htexts record hrecord) (hplaces record hrecord) hd
  have hlines : colored.lines.map unstyled = plain.lines := r.map_unstyled_report hplain
  refine ⟨?_, hlines, rfl, rfl, ?_⟩
  · rw [← hlines, List.length_map]
  · intro text l frame htext hframe
    exact (Frame.strips_render? htext hframe).unstyled_eq

/-- A project with one file of three lines. -/
def linedDisk : Disk :=
  ⟨.directory [("p", .directory [("a", .file "one\n\ttwo\nthree".toUTF8 false)])], []⟩

/-- A record of every checker. -/
def variedRecords : List Record := [
  .compiler ⟨some "/p/a", some "one\n\ttwo\nthree", some 5, some 6,
    .tree (.node "m" [.node "n" []]), 1, 2322⟩,
  .lint ⟨"/p/b", [⟨some "r", 1, "m", some 2, some 1, some 2, some 3⟩], some "x\nab\n"⟩,
  .style ⟨none, [⟨1, 1, none, none, "r", "error", "m"⟩], none⟩,
  .server ⟨"file:///p/a", [⟨⟨1, 1⟩, ⟨1, 4⟩, some 2, none, "m"⟩]⟩]

theorem color_only_styles_varied :
    let store := Store.ofList (Record.normalizeAll linedDisk variedRecords)
    let reporter : Reporter := { checker := .typeScript }
    let colored := { reporter with color := true }.report store
    let plain := { reporter with color := false }.report store
    (∀ r ∈ variedRecords, ∀ text ∈ r.texts linedDisk, escape ∉ text.toList) ∧
      (∀ r ∈ variedRecords, ∀ path ∈ r.place?, escape ∉ path.toList) ∧
      store.flatten.map (·.styledFrame.isSome) = [true, true, true, false] ∧
      colored.lines.length = plain.lines.length ∧ colored.lines.map unstyled = plain.lines := by
  intro store reporter colored plain
  have htexts : ∀ r ∈ variedRecords, ∀ text ∈ r.texts linedDisk, escape ∉ text.toList := by
    decide +kernel
  have hplaces : ∀ r ∈ variedRecords, ∀ path ∈ r.place?, escape ∉ path.toList := by decide +kernel
  obtain ⟨hlength, hlines, -⟩ := color_only_styles linedDisk variedRecords htexts hplaces reporter
  refine ⟨htexts, hplaces, ?_, hlength, hlines⟩
  dsimp only [store]
  decide +kernel

/-- A file whose name begins with a style sequence. -/
def markedDisk : Disk := ⟨.directory [("\x1b[31ma", .file "x".toUTF8 false)], []⟩

/-- A document whose URI names that file. -/
def markedRecord : Record :=
  .server ⟨"file:///%1B[31ma", [⟨⟨0, 0⟩, ⟨0, 1⟩, none, none, "m"⟩]⟩

/-- No text holds an escape character, but the path that is printed does, with color or without. -/
theorem style_in_path_erased :
    let store := Store.ofList (Record.normalizeAll markedDisk [markedRecord])
    let reporter : Reporter := { checker := .languageServer }
    let colored := { reporter with color := true }.report store
    let plain := { reporter with color := false }.report store
    (∀ text ∈ markedRecord.texts markedDisk, escape ∉ text.toList) ∧
      store.flatten.map (·.file) = [some "/\x1b[31ma"] ∧
      colored.lines.map unstyled ≠ plain.lines := by
  decide +kernel

end Sidecheck
