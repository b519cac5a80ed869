import Mathlib.Data.List.Basic
import Sidecheck.Check
/-!
# Commands rewritten

Reading the arguments of a command from left to right, all that is remembered is whether a value is
due (`Command.labelled_append`). What rewriting a command does is said by this: where the same is due
as before, the arguments behind keep their roles.

Setting an option changes no role but those of the option and its value
(`Command.Settable.exists_setOption_eq`), and leaving out the operands changes none
(`Command.labelled_kept`). A file put behind the arguments is an operand only if no value is due
there. An option that stands at the end without its value gets one if it is the first of its kind. A
second one does not, and takes the file for its value: `Tool.rewriting_iff`,
`Tool.open_option_takes_file`.
-/

namespace Sidecheck

namespace Command

variable {option value arg file : String} {args before after : List String} {due : Bool}

/-! ## Reading arguments -/

/-- What an argument is, where a value is due or not. -/
def role (due : Bool) (arg : String) : Role :=
  if due then .value else if arg.toList.head? = some '-' then .option else .operand

/-- A value is due behind the arguments. -/
def dueAfter (due : Bool) : List String → Bool
  | [] => due
  | arg :: rest => dueAfter (!due && takesValue arg) rest

/-- The arguments with their roles. -/
def labelled (due : Bool) (args : List String) : List (String × Role) := args.zip (roles due args)

/-- An operand is read where no value is due, and leaves none due. -/
theorem takesValue_of_operand (h : role due arg = .operand) : due = false ∧ takesValue arg = false := by
  unfold role at h
  split_ifs at h with hdue hoption
  refine ⟨by simpa using hdue, ?_⟩
  rw [← Bool.not_eq_true]
  exact mt (fun htakes => (takesValue_of_eq htakes).1) hoption

theorem labelled_cons (due : Bool) (arg : String) (args : List String) :
    labelled due (arg :: args) = (arg, role due arg) :: labelled (!due && takesValue arg) args := by
  rw [labelled, roles, role]
  cases due with
  | true => rfl
  | false =>
    by_cases hoption : arg.toList.head? = some '-'
    · simp [hoption, labelled]
    · have hrole : role false arg = .operand := by simp [role, hoption]
      simp [hoption, (takesValue_of_operand hrole).2, labelled]

theorem labelled_append (due : Bool) (before after : List String) :
    labelled due (before ++ after) = labelled due before ++ labelled (dueAfter due before) after := by
  induction before generalizing due with
  | nil => rfl
  | cons arg before ih => rw [List.cons_append, labelled_cons, labelled_cons, ih]; rfl

theorem dueAfter_append (due : Bool) (before after : List String) :
    dueAfter due (before ++ after) = dueAfter (dueAfter due before) after := by
  induction before generalizing due with
  | nil => rfl
  | cons arg before ih => exact ih _

/-! ## Leaving out operands -/

/-- The arguments that are no operands. -/
def kept (due : Bool) (args : List String) : List String :=
  ((labelled due args).filter (·.2 ≠ .operand)).map (·.1)

theorem kept_cons (due : Bool) (arg : String) (args : List String) :
    kept due (arg :: args) =
      (if role due arg = .operand then [] else [arg]) ++ kept (!due && takesValue arg) args := by
  rw [kept, labelled_cons, List.filter_cons]
  split_ifs <;> simp_all [kept]

theorem labelled_kept (due : Bool) (args : List String) :
    labelled due (kept due args) = (labelled due args).filter (·.2 ≠ .operand) := by
  induction args generalizing due with
  | nil => rfl
  | cons arg args ih =>
    rw [kept_cons, labelled_cons, List.filter_cons]
    by_cases hoperand : role due arg = .operand
    · obtain ⟨rfl, htakes⟩ := takesValue_of_operand hoperand
      simp [hoperand, htakes, ih]
    · simp [hoperand, labelled_cons, ih]

theorem dueAfter_kept (due : Bool) (args : List String) :
    dueAfter due (kept due args) = dueAfter due args := by
  induction args generalizing due with
  | nil => rfl
  | cons arg args ih =>
    rw [kept_cons]
    by_cases hoperand : role due arg = .operand
    · obtain ⟨rfl, htakes⟩ := takesValue_of_operand hoperand
      simp [hoperand, htakes, dueAfter, ih]
    · simp [hoperand, dueAfter, ih]

/-! ## Commands for one file -/

section ForFile

variable {c : Command}

theorem role_of_isAbsolute (h : Path.isAbsolute file = true) (due : Bool) :
    role due file = if due then .value else .operand := by
  have hhead : file.toList.head? = some '/' := by simpa [Path.isAbsolute] using h
  simp [role, hhead]

theorem labelled_forFile (c : Command) (h : Path.isAbsolute file = true) :
    labelled false (c.forFile file).args =
      (labelled false c.args).filter (·.2 ≠ .operand) ++
        [(file, if dueAfter false c.args then .value else .operand)] := by
  have hargs : (c.forFile file).args = kept false c.args ++ [file] := rfl
  rw [hargs, labelled_append, labelled_kept, dueAfter_kept, labelled_cons, role_of_isAbsolute h]
  rfl

theorem operands_eq (c : Command) :
    c.operands = ((labelled false c.args).filter (·.2 = .operand)).map (·.1) := rfl

/-- The file is the only operand, unless it is taken for the value that is due. -/
theorem operands_forFile (c : Command) (h : Path.isAbsolute file = true) :
    (c.forFile file).operands = if dueAfter false c.args then [] else [file] := by
  rw [operands_eq, labelled_forFile c h, List.filter_append, List.filter_filter]
  cases dueAfter false c.args <;> simp

theorem labelled_filter_forFile (h : Path.isAbsolute file = true)
    (hdue : dueAfter false c.args = false) :
    (labelled false (c.forFile file).args).filter (·.2 ≠ .operand) =
      (labelled false c.args).filter (·.2 ≠ .operand) := by
  rw [labelled_forFile c h, hdue, List.filter_append, List.filter_filter]
  simp

theorem forFile_forFile (h : Path.isAbsolute file = true) (hdue : dueAfter false c.args = false)
    (other : String) : (c.forFile file).forFile other = c.forFile other := by
  have hkept : kept false (c.forFile file).args = kept false c.args := by
    rw [kept, labelled_filter_forFile h hdue, kept]
  exact congrArg (fun args => (⟨c.program, args ++ [other]⟩ : Command)) hkept

end ForFile

/-! ## Setting an option -/

theorem setOption_append (h : option ∉ before) (value : String) (rest : List String) :
    setOption option value (before ++ rest) = before ++ setOption option value rest := by
  induction before with
  | nil => rfl
  | cons arg before ih =>
    rw [List.mem_cons, not_or] at h
    rw [List.cons_append, List.cons_append, ← ih h.2]
    cases before ++ rest with
    | nil => simp [setOption, Ne.symm h.1]
    | cons next rest => simp [setOption, Ne.symm h.1]

theorem setOption_set (h : option ∉ before) (value old : String) (after : List String) :
    setOption option value (before ++ option :: old :: after) =
      before ++ option :: value :: after := by
  rw [setOption_append h, setOption, if_pos rfl]

/-- No value option but this one lacks its value at the end of the arguments, and this one does not
stand where the value of another is due. -/
structure Settable (option : String) (args : List String) : Prop where
  ends : dueAfter false args = true → args.getLast? = some option
  free : ∀ i < args.length, args[i]? = some option → dueAfter false (args.take i) = true →
    (args.take i).getLast? = some option

/-- No value is due where the option stands first. -/
theorem Settable.dueAfter_eq_false (h : Settable option (before ++ option :: after))
    (hbefore : option ∉ before) : dueAfter false before = false := by
  rw [← Bool.not_eq_true]
  intro hdue
  have hlast := h.free before.length (by simp) (by simp) (by simpa using hdue)
  rw [List.take_left] at hlast
  exact hbefore (List.mem_of_getLast? hlast)

/-- The arguments end in an option without its value, which is not the first of its kind. -/
def LeftOpen (option : String) (args : List String) : Prop :=
  dueAfter false args = true ∧ option ∈ args.dropLast

instance (option : String) (args : List String) : Decidable (LeftOpen option args) :=
  inferInstanceAs (Decidable (_ ∧ _))

/-- The first of the option's places is followed by the value. -/
def Sets (option value : String) (args : List String) : Prop :=
  ∃ before after, args = before ++ option :: value :: after ∧ option ∉ before

theorem role_of_takesValue (h : takesValue option = true) : role false option = .option := by
  simp [role, (takesValue_of_eq h).1]

theorem labelled_set (htakes : takesValue option = true) (hdue : dueAfter false before = false)
    (value : String) (after : List String) :
    labelled false (before ++ option :: value :: after) =
      labelled false before ++ (option, .option) :: (value, .value) :: labelled false after := by
  rw [labelled_append, hdue, labelled_cons, labelled_cons, role_of_takesValue htakes, htakes]
  rfl

theorem dueAfter_set (htakes : takesValue option = true) (hdue : dueAfter false before = false)
    (value : String) (after : List String) :
    dueAfter false (before ++ option :: value :: after) = dueAfter false after := by
  rw [dueAfter_append, hdue]
  simp [dueAfter, htakes]

/-- The option is set where it stands first, or behind all arguments. There no value is due, and the
arguments before and behind it have the roles that they had. -/
theorem Settable.exists_setOption_eq (h : Settable option args)
    (htakes : takesValue option = true) :
    ∃ before after, option ∉ before ∧ dueAfter false before = false ∧
      (∀ value, setOption option value args = before ++ option :: value :: after) ∧
      (labelled false args).filter (·.2 = .operand) =
        (labelled false before ++ labelled false after).filter (·.2 = .operand) ∧
      (dueAfter false after = true ↔ LeftOpen option args) := by
  by_cases hmem : option ∈ args
  · obtain ⟨before, rest, rfl, hbefore⟩ := List.eq_append_cons_of_mem hmem
    have hdue := h.dueAfter_eq_false hbefore
    cases rest with
    | nil =>
      refine ⟨before, [], hbefore, hdue, fun value => ?_, ?_, ?_⟩
      · rw [setOption_append hbefore, setOption, if_pos rfl]
      · rw [labelled_append, hdue, labelled_cons, role_of_takesValue htakes]
        simp [labelled]
      · refine iff_of_false Bool.false_ne_true fun hin => hbefore ?_
        simpa using hin.2
    | cons old after =>
      refine ⟨before, after, hbefore, hdue, fun value => setOption_set hbefore value old after,
        ?_, ?_⟩
      · rw [labelled_set htakes hdue]
        simp
      · rw [LeftOpen, dueAfter_set htakes hdue, iff_self_and]
        intro _
        rw [List.dropLast_append_of_ne_nil (List.cons_ne_nil _ _)]
        simp
  · refine ⟨args, [], hmem, ?_, fun value => ?_, ?_, ?_⟩
    · rw [← Bool.not_eq_true]
      exact fun hdue => hmem (List.mem_of_getLast? (h.ends hdue))
    · have hset := setOption_append hmem value []
      rwa [List.append_nil] at hset
    · exact congrArg _ (List.append_nil _).symm
    · refine iff_of_false Bool.false_ne_true fun hin => hmem ?_
      exact List.dropLast_subset args hin.2

/-! ## Setting an option and leaving out operands -/

section Rewritten

variable {c : Command}

/-- The command for a file differs in its operands alone: every other argument is there and what it
was, the option is still set, and one more file takes the place of the first. -/
structure IsForFile (c : Command) (option value file : String) : Prop where
  program : (c.forFile file).program = c.program
  others : (labelled false (c.forFile file).args).filter (·.2 ≠ .operand) =
    (labelled false c.args).filter (·.2 ≠ .operand)
  sets : Sets option value (c.forFile file).args
  operands : (c.forFile file).operands = [file]
  again : ∀ other, (c.forFile file).forFile other = c.forFile other

theorem mem_of_mem_kept (h : arg ∈ kept due args) : arg ∈ args := by
  obtain ⟨⟨_, role⟩, hmem, rfl⟩ := List.mem_map.1 h
  exact (List.of_mem_zip (List.mem_of_mem_filter hmem)).1

theorem kept_set (htakes : takesValue option = true) (hdue : dueAfter false before = false)
    (value : String) (after : List String) :
    kept false (before ++ option :: value :: after) =
      kept false before ++ option :: value :: kept false after := by
  rw [kept, labelled_set htakes hdue]
  simp [kept]

theorem isForFile_iff (htakes : takesValue option = true) (hbefore : option ∉ before)
    (hdue : dueAfter false before = false) (hargs : c.args = before ++ option :: value :: after)
    (hfile : Path.isAbsolute file = true) :
    c.IsForFile option value file ↔ dueAfter false c.args = false := by
  constructor
  · intro h
    have hoperands := h.operands
    rw [operands_forFile c hfile] at hoperands
    split_ifs at hoperands with hopen
    exact Bool.not_eq_true _ ▸ hopen
  · intro hclosed
    refine ⟨rfl, labelled_filter_forFile hfile hclosed, ?_, ?_, forFile_forFile hfile hclosed⟩
    · have hkept : (c.forFile file).args =
          kept false before ++ option :: value :: (kept false after ++ [file]) := by
        have hforFile : (c.forFile file).args = kept false c.args ++ [file] := rfl
        rw [hforFile, hargs, kept_set htakes hdue, List.append_assoc]
        rfl
      exact ⟨_, _, hkept, mt mem_of_mem_kept hbefore⟩
    · rw [operands_forFile c hfile, hclosed]
      rfl

end Rewritten

end Command

theorem Checker.takesValue_of_outputOption? {checker : Checker} {option value : String}
    (h : checker.outputOption? = some (option, value)) : Command.takesValue option = true := by
  cases checker <;> cases h <;> decide

/-! ## Main theorem -/

namespace Tool

open Command

/-- A checker's output option can be set without changing what else the command says, and once set it
stays so. A file takes the place of the operands exactly unless the option is left open at the end by
a second one; the file becomes its value then, and no operand. -/
theorem rewriting_iff {checker : Checker} {option value : String}
    (hoption : checker.outputOption? = some (option, value)) (c : Command)
    (hc : Settable option c.args) :
    let rewritten := (ofCommand checker c).command
    rewritten.program = c.program ∧ rewritten.operands = c.operands ∧
      Sets option value rewritten.args ∧
      rewritten.ensureOption option value = rewritten ∧
      (∀ other, rewritten.ensureOption option other = c.ensureOption option other) ∧
      ∀ file, Path.isAbsolute file = true →
        (rewritten.IsForFile option value file ↔ ¬ LeftOpen option c.args) ∧
        (LeftOpen option c.args → (rewritten.forFile file).operands = []) := by
  intro rewritten
  have hrewritten : rewritten = c.ensureOption option value := by
    simp only [rewritten, ofCommand, hoption]
  have htakes := Checker.takesValue_of_outputOption? hoption
  obtain ⟨before, after, hbefore, hdue, hset, hoperands, hopen⟩ := hc.exists_setOption_eq htakes
  have hargs : rewritten.args = before ++ option :: value :: after := by
    rw [hrewritten, ensureOption, hset]
  have hagain (other : String) :
      rewritten.ensureOption option other = c.ensureOption option other := by
    rw [ensureOption, ensureOption, hargs, hset, setOption_set hbefore, hrewritten]
    rfl
  have hclosed : dueAfter false rewritten.args = false ↔ ¬ LeftOpen option c.args := by
    rw [hargs, dueAfter_set htakes hdue, ← Bool.not_eq_true, hopen]
  refine ⟨by rw [hrewritten]; rfl, ?_, ⟨before, after, hargs, hbefore⟩, ?_, hagain,
    fun file hfile => ⟨?_, ?_⟩⟩
  · rw [operands_eq, operands_eq, hargs, labelled_set htakes hdue, hoperands]
    simp
  · rw [hagain, hrewritten]
  · rw [isForFile_iff htakes hbefore hdue hargs hfile, hclosed]
  · intro hleft
    have hdueAfter : dueAfter false rewritten.args = true := by
      rw [← Bool.not_eq_false, hclosed, not_not]
      exact hleft
    rw [operands_forFile _ hfile, hdueAfter]
    rfl

/-- An option without its value at the end is completed, and a file put behind it. -/
theorem rewriting_completes_option :
    let c : Command := ⟨"eslint", ["--ext", ".ts", "src", "--format"]⟩
    let rewritten := (ofCommand .esLint c).command
    Settable "--format" c.args ∧
      rewritten = ⟨"eslint", ["--ext", ".ts", "src", "--format", "json"]⟩ ∧
      rewritten.IsForFile "--format" "json" "/app/a.ts" ∧
      rewritten.forFile "/app/a.ts" =
        ⟨"eslint", ["--ext", ".ts", "--format", "json", "/app/a.ts"]⟩ := by
  intro c rewritten
  have hc : Settable "--format" c.args := ⟨by decide +kernel, by decide +kernel⟩
  have hoption : Checker.esLint.outputOption? = some ("--format", "json") := rfl
  obtain ⟨-, -, -, -, -, hfile⟩ := rewriting_iff hoption c hc
  have hforFile := (hfile "/app/a.ts" (by decide)).1.2 (by decide +kernel)
  exact ⟨hc, by decide +kernel, hforFile, by decide +kernel⟩

/-- A second option without its value is not completed, and takes the file for its value. -/
theorem open_option_takes_file :
    let c : Command := ⟨"eslint", ["--format", "x", "--format"]⟩
    let rewritten := (ofCommand .esLint c).command
    parse ⟨[], none⟩ "eslint --format x --format" = .ok c ∧ Settable "--format" c.args ∧
      rewritten.forFile "/app/a.ts" =
        ⟨"eslint", ["--format", "json", "--format", "/app/a.ts"]⟩ ∧
      (rewritten.forFile "/app/a.ts").operands = [] ∧
      (rewritten.forFile "/app/a.ts").forFile "/app/b.ts" ≠ rewritten.forFile "/app/b.ts" := by
  intro c rewritten
  exact ⟨by decide +kernel, ⟨by decide +kernel, by decide +kernel⟩, by decide +kernel,
    by decide +kernel, by decide +kernel⟩

end Tool

end Sidecheck
