/-!
# Checkers

The four kinds of tools, and what sets them apart before one is run.
-/

namespace Sidecheck

/-- A kind of tool, in the order of reports. -/
inductive Checker
  /-- The TypeScript compiler. -/
  | typeScript
  | esLint
  | stylelint
  /-- A command that prints what a language server would publish. -/
  | languageServer
deriving DecidableEq, Repr

namespace Checker

/-- Every checker, in the order of reports. -/
def all : List Checker := [.typeScript, .esLint, .stylelint, .languageServer]

/-- The name that is shown. -/
def name : Checker → String
  | .typeScript => "TypeScript"
  | .esLint => "ESLint"
  | .stylelint => "Stylelint"
  | .languageServer => "LSP"

/-- The name that the overlay groups diagnostics by. -/
def id : Checker → String
  | .typeScript => "typescript"
  | .esLint => "eslint"
  | .stylelint => "stylelint"
  | .languageServer => "lsp"

/-- The name in stored data. -/
def tag : Checker → String
  | .languageServer => "Lsp"
  | checker => checker.name

/-- The command that is run when none is configured. -/
def defaultCommand? : Checker → Option String
  | .typeScript => some "tsc --noEmit"
  | .esLint => some "eslint ."
  | .stylelint => some "stylelint \"**/*.css\""
  | .languageServer => none

/-- The option, and its value, that makes the tool write what can be read here. -/
def outputOption? : Checker → Option (String × String)
  | .typeScript => some ("--pretty", "false")
  | .esLint => some ("--format", "json")
  | .stylelint => some ("--formatter", "json")
  | .languageServer => none

theorem mem_all (c : Checker) : c ∈ all := by cases c <;> decide

theorem id_injective {a b : Checker} (h : a.id = b.id) : a = b := by
  cases a <;> cases b <;> first | rfl | (exact absurd h (by decide))

end Checker

end Sidecheck
