import Sidecheck.Machine
import Sidecheck.Shell.Expansion
import Sidecheck.Shell.Words
/-!
# Command lines

A program and its arguments. Reading the arguments from left to right gives each a role: an
option, the value that an option takes, or an operand, which is a file or a pattern of files.
-/

namespace Sidecheck

/-- Why a text is no command line. -/
inductive CommandFault
  | unsetVariable (name : String)
  | openQuote
  | noWords
deriving DecidableEq, Repr

/-- The reason in words. -/
def CommandFault.message : CommandFault → String
  | .unsetVariable name => "error looking key '" ++ name ++ "' up: environment variable not found"
  | .openQuote => "missing closing quote"
  | .noWords => "empty"

/-- A program and its arguments. -/
structure Command where
  program : String
  args : List String
deriving DecidableEq, Repr

namespace Command

/-- The command line that a text writes. -/
def parse (environment : Shell.Environment) (line : String) : Except CommandFault Command :=
  match Shell.expand environment line with
  | .error name => .error (.unsetVariable name)
  | .ok expanded =>
    match Shell.words? expanded with
    | none => .error .openQuote
    | some [] => .error .noWords
    | some (program :: args) => .ok ⟨program, args⟩

/-- What an argument is. -/
inductive Role
  | option
  | value
  | operand
deriving DecidableEq, Repr

/-- The options whose next argument is their value. -/
def valueOptions : List String :=
  ["-c", "-f", "-p", "--config", "--config-basedir", "--custom-syntax", "--ext", "--format",
    "--formatter", "--ignore-path", "--ignore-pattern", "--max-warnings", "--parser", "--pretty",
    "--project", "--resolve-plugins-relative-to", "--rule"]

/-- The argument takes the next one as its value. -/
def takesValue (arg : String) : Bool := valueOptions.contains arg

/-- The roles of arguments; `due` says that the first one is a value that is due. -/
def roles (due : Bool) : List String → List Role
  | [] => []
  | arg :: rest =>
    if due then .value :: roles false rest
    else if arg.toList.head? = some '-' then .option :: roles (takesValue arg) rest
    else .operand :: roles false rest

/-- The arguments of one role, or of all others. -/
def argsWith (p : Role → Bool) (c : Command) : List String :=
  ((c.args.zip (roles false c.args)).filter fun (_, role) => p role).map (·.1)

/-- The files and patterns that the command is about. -/
def operands (c : Command) : List String := c.argsWith (· = .operand)

/-- Sets the value of an option where the option stands first, or adds both at the end. -/
def setOption (option value : String) : List String → List String
  | [] => [option, value]
  | [arg] => if arg = option then [arg, value] else arg :: [option, value]
  | arg :: next :: rest =>
    if arg = option then arg :: value :: rest else arg :: setOption option value (next :: rest)

/-- The command with an option set to a value. -/
def ensureOption (c : Command) (option value : String) : Command :=
  { c with args := setOption option value c.args }

/-- The command for one file in place of its operands. -/
def forFile (c : Command) (file : String) : Command :=
  { c with args := c.argsWith (· ≠ .operand) ++ [file] }

/-- The program that is run: the project's own one, or one of the search path, or what is
written. -/
def resolve (m : Machine) (root : String) (c : Command) : String :=
  let own := Path.join (Path.join root "node_modules/.bin") c.program
  if m.disk.isThere own then own else (m.which? c.program).getD c.program

/-- The command as one text. -/
def text (c : Command) : String := " ".intercalate (c.program :: c.args)

theorem takesValue_of_eq {arg : String} (h : takesValue arg = true) :
    arg.toList.head? = some '-' ∧ '=' ∉ arg.toList := by
  simp only [takesValue, valueOptions, List.contains_eq_mem, List.mem_cons, List.not_mem_nil,
    or_false, decide_eq_true_eq] at h
  rcases h with h | h | h | h | h | h | h | h | h | h | h | h | h | h | h | h | h <;> subst h <;>
    decide

end Command

end Sidecheck
