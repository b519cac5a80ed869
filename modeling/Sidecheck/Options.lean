import Sidecheck.Shell.Expansion
/-!
# Command line options

The options that the program is started with. Reading them stops at the first argument that
cannot be used. A value may follow its option after `=` or as the next argument; an option
still waits for that argument when the next one is read.
-/

namespace Sidecheck

/-- Why the arguments cannot be used, or that they ask for something else than a run. -/
inductive UsageError
  | unknownArgument
  | missingValue
  | givenTwice
  | unexpectedValue
  | helpWanted
  | versionWanted
deriving DecidableEq, Repr

/-- An option that is there or not. -/
inductive Switch
  | watch
  | noOverlay
  | noTerminal
  | failOnWarnings
  | verbose
  | noColor
  | typeScript
  | help
  | version
deriving DecidableEq, Repr

/-- An option with a value. -/
inductive Setting
  | root
  | config
  | overlayFile
  | ignore
  | esLint
  | stylelint
  | languageServer
deriving DecidableEq, Repr

/-- The name of an option. -/
inductive OptionName
  | switch (s : Switch)
  | setting (s : Setting)
deriving DecidableEq, Repr

namespace OptionName

/-- The option of a long name. -/
def ofLong? : String → Option OptionName
  | "watch" => some (.switch .watch)
  | "no-overlay" => some (.switch .noOverlay)
  | "no-terminal" => some (.switch .noTerminal)
  | "fail-on-warnings" => some (.switch .failOnWarnings)
  | "verbose" => some (.switch .verbose)
  | "no-color" => some (.switch .noColor)
  | "typescript" => some (.switch .typeScript)
  | "help" => some (.switch .help)
  | "version" => some (.switch .version)
  | "root" => some (.setting .root)
  | "config" => some (.setting .config)
  | "overlay-file" => some (.setting .overlayFile)
  | "ignore" => some (.setting .ignore)
  | "eslint" => some (.setting .esLint)
  | "stylelint" => some (.setting .stylelint)
  | "lsp" => some (.setting .languageServer)
  | _ => none

/-- The switch of a letter. -/
def ofLetter? : Char → Option Switch
  | 'v' => some .verbose
  | 'h' => some .help
  | 'V' => some .version
  | _ => none

end OptionName

/-- The options given so far. -/
structure Given where
  switches : List Switch
  values : List (Setting × String)
  /-- A setting that was named, and its value if that has come. -/
  pending : Option (Setting × Option String)
  /-- Only operands may follow. -/
  operandsOnly : Bool
deriving DecidableEq, Repr

namespace Given

/-- No option is given yet. -/
def empty : Given := ⟨[], [], none, false⟩

/-- Takes a setting's value; only `--ignore` may be given more than once. -/
def take (g : Given) (s : Setting) (value : String) : Except UsageError Given :=
  if s ≠ .ignore ∧ g.values.any (·.1 = s) then .error .givenTwice
  else .ok { g with values := g.values ++ [(s, value)] }

/-- Takes the pending setting, which must have its value by now. -/
def settle (g : Given) : Except UsageError Given :=
  let settled := { g with pending := none }
  match g.pending with
  | none => .ok settled
  | some (_, none) => .error .missingValue
  | some (s, some value) => settled.take s value

/-- Takes a switch. -/
def turnOn (g : Given) (s : Switch) : Except UsageError Given := do
  let g ← g.settle
  match s with
  | .help => .error .helpWanted
  | .version => .error .versionWanted
  | s =>
    if s ∈ g.switches then .error .givenTwice
    else .ok { g with switches := g.switches ++ [s] }

/-- Takes an argument that begins with two dashes, cut at its first `=`. -/
def takeLong (g : Given) (name : String) (value? : Option String) : Except UsageError Given :=
  match OptionName.ofLong? name, value? with
  | none, _ => .error .unknownArgument
  | some (.switch _), some _ => .error .unexpectedValue
  | some (.switch s), none => g.turnOn s
  | some (.setting s), some value => do (← g.settle).take s value
  | some (.setting s), none => do
    let g ← g.settle
    return { g with pending := some (s, none) }

/-- Takes the letters of an argument that begins with one dash. -/
def takeLetters (g : Given) : List Char → Except UsageError Given
  | [] => .ok g
  | c :: rest =>
    match OptionName.ofLetter? c with
    | none => .error .unknownArgument
    | some s => do (← g.turnOn s).takeLetters rest

/-- Takes a word, which can only be the value that is due. -/
def takeWord (g : Given) (word : String) : Except UsageError Given :=
  match g.pending, g.operandsOnly with
  | some (s, none), false => .ok { g with pending := some (s, some word) }
  | _, _ => .error .unknownArgument

/-- Takes one argument. -/
def takeArgument (g : Given) (arg : String) : Except UsageError Given :=
  if g.operandsOnly then .error .unknownArgument
  else match arg.toList with
    | ['-', '-'] => .ok { g with operandsOnly := true }
    | '-' :: '-' :: rest =>
      let name := rest.takeWhile (· ≠ '=')
      match rest.drop name.length with
      | [] => g.takeLong (.ofList name) none
      | _ :: value => g.takeLong (.ofList name) (some (.ofList value))
    | '-' :: c :: rest => g.takeLetters (c :: rest)
    | _ => g.takeWord arg

/-- A setting's value. -/
def value? (g : Given) (s : Setting) : Option String :=
  (g.values.find? (·.1 = s)).map (·.2)

end Given

/-- The options of a run. -/
structure Options where
  root : String
  config : Option String
  watch : Bool
  noOverlay : Bool
  noTerminal : Bool
  overlayFile : Option String
  ignore : List String
  failOnWarnings : Bool
  verbose : Bool
  noColor : Bool
  typeScript : Bool
  esLint : Option String
  stylelint : Option String
  languageServer : Option String
deriving DecidableEq, Repr

namespace Options

/-- The options that were given, and the defaults of those that were not. -/
def ofGiven (g : Given) : Options where
  root := (g.value? .root).getD "."
  config := g.value? .config
  watch := .watch ∈ g.switches
  noOverlay := .noOverlay ∈ g.switches
  noTerminal := .noTerminal ∈ g.switches
  overlayFile := g.value? .overlayFile
  ignore := (g.values.filter (·.1 = .ignore)).map (·.2)
  failOnWarnings := .failOnWarnings ∈ g.switches
  verbose := .verbose ∈ g.switches
  noColor := .noColor ∈ g.switches
  typeScript := .typeScript ∈ g.switches
  esLint := g.value? .esLint
  stylelint := g.value? .stylelint
  languageServer := g.value? .languageServer

/-- Reads the arguments behind the program's name. -/
def parse (args : List String) : Except UsageError Options := do
  let g ← args.foldlM Given.takeArgument .empty
  return ofGiven (← g.settle)

/-- The terminal output is colored, unless an option or the variable `NO_COLOR` says no. -/
def color (o : Options) (environment : Shell.Environment) : Bool :=
  !o.noColor && (environment.lookup "NO_COLOR").isNone

end Options

end Sidecheck
