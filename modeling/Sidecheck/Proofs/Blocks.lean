import Mathlib.Data.List.Forall2
import Sidecheck.Report
/-!
# What a block tells

A diagnostic's block in a terminal, with colors or without, tells what is known of the diagnostic,
each text whole and in a fixed order: `Diagnostic.told`. Only styles and separators stand around the
texts and between them (`inOrder_block`). The line of a summary tells its two numbers in the same
way (`inOrder_line`).
-/

namespace Sidecheck

/-! ## Texts in a text -/

namespace Text

/-- The texts stand in a text, each whole and behind those before it. -/
def InOrder : (texts : List (List Char)) → (cs : List Char) → Prop
  | [], _ => True
  | text :: texts, cs => ∃ ahead behind, cs = ahead ++ text ++ behind ∧ InOrder texts behind

variable {xs ys : List Char} {ps qs : List (List Char)}

theorem inOrder_singleton (cs : List Char) : InOrder [cs] cs :=
  ⟨[], [], by simp, trivial⟩

theorem InOrder.behind (h : InOrder ps ys) (xs : List Char) : InOrder ps (xs ++ ys) := by
  cases ps with
  | nil => trivial
  | cons p ps =>
    obtain ⟨ahead, behind, rfl, hrest⟩ := h
    exact ⟨xs ++ ahead, behind, by simp, hrest⟩

theorem InOrder.append (hxs : InOrder ps xs) (hys : InOrder qs ys) :
    InOrder (ps ++ qs) (xs ++ ys) := by
  induction ps generalizing xs with
  | nil => exact hys.behind xs
  | cons p ps ih =>
    obtain ⟨ahead, behind, rfl, hrest⟩ := hxs
    exact ⟨ahead, behind ++ ys, by simp, ih hrest⟩

theorem InOrder.ahead (h : InOrder ps xs) (ys : List Char) : InOrder ps (xs ++ ys) := by
  have hnone : InOrder [] ys := trivial
  simpa using h.append hnone

/-- Texts in parts stand in what the parts are joined to. -/
theorem inOrder_intercalate (sep : List Char) {pss : List (List (List Char))}
    {parts : List (List Char)} (h : List.Forall₂ InOrder pss parts) :
    InOrder pss.flatten (sep.intercalate parts) := by
  induction h with
  | nil => trivial
  | @cons ps part pss parts hpart hparts ih =>
    rw [List.flatten_cons]
    cases hparts with
    | nil => simpa using hpart
    | cons =>
      rw [List.intercalate_cons_cons]
      exact (hpart.ahead sep).append ih

end Text

open Text (InOrder inOrder_singleton)

theorem Ansi.inOrder_paintIf {ps : List (List Char)} {cs : List Char} (h : InOrder ps cs)
    (color : Bool) (style : Style) : InOrder ps (paintIf color style cs) := by
  cases color with
  | false => exact h
  | true =>
    have hpainted : paint style cs =
        (escape :: '[' :: style.write ++ ['m']) ++ cs ++ [escape, '[', '0', 'm'] := by
      simp [paint]
    rw [paintIf, if_pos rfl, hpainted]
    exact (h.behind _).ahead _

/-! ## Diagnostics -/

namespace Diagnostic

/-- The texts of a diagnostic's block, part by part: its level, its checker and its message; its
file, with line and column if they are known; its frame; its conclusion. -/
def told (color : Bool) (d : Diagnostic) : List (List (List Char)) :=
  [[(d.severity.getD .error).label.toList, d.checker.name.toList, d.message.toList]] ++
    d.file.toList.map (fun file => file.toList ::
      d.location.elim [] fun l => [Nat.toDigits 10 l.startLine, Nat.toDigits 10 l.startColumn]) ++
    (if color then d.styledFrame else d.plainFrame).toList.map ([·.toList]) ++
    (if d.conclusion.isEmpty then [] else [[d.conclusion.toList]])

theorem inOrder_headText (color : Bool) (d : Diagnostic) :
    InOrder [(d.severity.getD .error).label.toList, d.checker.name.toList, d.message.toList]
      (d.headText color) := by
  have hlabel : InOrder [(d.severity.getD .error).label.toList, d.checker.name.toList]
      (" " ++ (d.severity.getD .error).label ++ "(" ++ d.checker.name ++ ") ").toList := by
    simp only [String.toList_append]
    exact ((((inOrder_singleton _).behind _).ahead _).append (inOrder_singleton _)).ahead _
  exact (Ansi.inOrder_paintIf hlabel color _).append ((inOrder_singleton _).behind [' '])

theorem inOrder_positionText (color : Bool) (n : Nat) :
    InOrder [Nat.toDigits 10 n] (positionText color n) :=
  (Ansi.inOrder_paintIf (inOrder_singleton _) color numberStyle).behind [':']

theorem inOrder_fileText (color : Bool) (file : String) (location : Option Location) :
    InOrder (file.toList ::
        location.elim [] fun l => [Nat.toDigits 10 l.startLine, Nat.toDigits 10 l.startColumn])
      (fileText color file location) := by
  have hposition : InOrder
      (location.elim [] fun l => [Nat.toDigits 10 l.startLine, Nat.toDigits 10 l.startColumn])
      (location.elim [] fun l =>
        positionText color l.startLine ++ positionText color l.startColumn) := by
    cases location with
    | none => trivial
    | some l => exact (inOrder_positionText color _).append (inOrder_positionText color _)
  have hfile : InOrder [file.toList]
      (Ansi.paintIf color fileStyle " FILE ".toList ++ ' ' :: file.toList) :=
    ((inOrder_singleton _).behind [' ']).behind _
  exact (hfile.append hposition).ahead ['\n']

theorem forall₂_inOrder_blockParts (color : Bool) (d : Diagnostic) :
    List.Forall₂ InOrder (d.told color) (d.blockParts color) := by
  refine List.rel_append (List.rel_append (List.rel_append ?_ ?_) ?_) ?_
  · exact .cons (inOrder_headText color d) .nil
  · rw [List.forall₂_map_left_iff, List.forall₂_map_right_iff, List.forall₂_same]
    exact fun file _ => inOrder_fileText color file d.location
  · rw [List.forall₂_map_left_iff, List.forall₂_map_right_iff, List.forall₂_same]
    exact fun frame _ => (inOrder_singleton frame.toList).ahead ['\n']
  · split
    · exact .nil
    · exact .cons (inOrder_singleton _) .nil

/-- A block tells all that is known of its diagnostic. -/
theorem inOrder_block (color : Bool) (d : Diagnostic) :
    InOrder (d.told color).flatten (d.block color).toList := by
  rw [block, String.toList_ofList]
  exact Text.inOrder_intercalate ['\n'] (forall₂_inOrder_blockParts color d)

end Diagnostic

/-! ## Summaries -/

/-- The texts of a summary's line: its checker, its errors and its warnings. -/
def Summary.told (checker : Checker) (s : Summary) : List (List Char) :=
  [checker.name.toList, (toString s.errors).toList, (toString s.warnings).toList]

theorem Summary.inOrder_line (checker : Checker) (s : Summary) (color : Bool) :
    InOrder (s.told checker) (s.line checker color).toList := by
  have hplural (count : Nat) (word : String) :
      InOrder [(toString count).toList] (plural count word).toList := by
    simp only [plural, String.toList_append]
    exact (((inOrder_singleton _).ahead _).ahead _).ahead _
  have hmessage : InOrder (s.told checker) (s.message checker).toList := by
    simp only [message, String.toList_append]
    have hname := ((inOrder_singleton checker.name.toList).behind ['[']).ahead "] Found ".toList
    exact ((hname.append (hplural s.errors "error")).ahead " and ".toList).append
      (hplural s.warnings "warning")
  rw [line, String.toList_ofList]
  exact Ansi.inOrder_paintIf hmessage color _

end Sidecheck
