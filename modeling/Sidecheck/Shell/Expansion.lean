import Sidecheck.Text.Split
import Sidecheck.Text.Word
/-!
# Variables and the home directory

Before a command line is cut into words, `$NAME`, `${NAME}` and `${NAME:-default}` are replaced
by the values of variables, and a `~` at the beginning by the home directory. Quotes do not
prevent it.
-/

namespace Sidecheck.Shell

/-- The variables that are set and their values, and what is known about the account. -/
structure Environment where
  entries : List (String × String)
  /-- The home directory of the account. -/
  accountHome? : Option String := none

namespace Environment

/-- The value of a variable. -/
def lookup (e : Environment) (name : String) : Option String := e.entries.lookup name

/-- The value of a name. Variables are kept as texts with a `=` between name and value, so a
name that holds a `=` itself reaches into the value of a variable. -/
def value? (e : Environment) (name : List Char) : Option (List Char) :=
  if name.isEmpty then none
  else e.entries.findSome? fun (variableName, value) =>
    (name ++ ['=']).isPrefixOf? (variableName.toList ++ '=' :: value.toList)

/-- The home directory that is set. -/
def home? (e : Environment) : Option String := (e.lookup "HOME").filter (!·.isEmpty)

end Environment

/-- A character of a variable's name. -/
def isNameChar (c : Char) : Bool := Text.isAlphanumeric c || c = '_'

/-- The value of what stands between braces: of the variable, or the default behind its name if
it is not set. A default needs a name before it. The error is the name that is not set. -/
def braceValue (environment : Environment) (body : List Char) : Except String (List Char) :=
  let (name, default?) := match Text.splitFirst? [':', '-'] body with
    | some ([], _) | none => (body, none)
    | some (name, default) => (name, some default)
  match environment.value? name, default? with
  | some value, _ => .ok value
  | none, some default => .ok default
  | none, none => .error (.ofList name)

theorem length_dropWhile_le (p : Char → Bool) (cs : List Char) :
    (cs.dropWhile p).length ≤ cs.length :=
  (List.dropWhile_suffix p).length_le

/-- The text with every variable replaced by its value, or the name of the first one that is
not set. Two dollars stand for one, and a dollar that names nothing stands for itself, as does
one before a brace that is never closed; `mayClose` is false if no closing brace is to come. -/
def expandVariables (environment : Environment) (mayClose : Bool) (cs : List Char) :
    Except String (List Char) :=
  match cs with
  | [] => .ok []
  | '$' :: '$' :: rest => return '$' :: (← expandVariables environment mayClose rest)
  | '$' :: '\x7b' :: rest =>
    if mayClose && rest.contains '\x7d' then do
      let value ← braceValue environment (rest.takeWhile (· ≠ '\x7d'))
      let behind := (rest.dropWhile (· ≠ '\x7d')).drop 1
      return value ++ (← expandVariables environment true behind)
    else return '$' :: '\x7b' :: (← expandVariables environment false rest)
  | '$' :: c :: rest =>
    if isNameChar c then
      let name := c :: rest.takeWhile isNameChar
      match environment.value? name with
      | some value =>
        return value ++ (← expandVariables environment mayClose (rest.dropWhile isNameChar))
      | none => .error (.ofList name)
    else return '$' :: (← expandVariables environment mayClose (c :: rest))
  | c :: rest => return c :: (← expandVariables environment mayClose rest)
termination_by cs.length
decreasing_by
  all_goals simp only [List.length_cons, List.length_drop]
  all_goals first
    | omega
    | (have h := length_dropWhile_le isNameChar rest; omega)
    | (have h := length_dropWhile_le (· ≠ '\x7d') rest; omega)

/-- The text with a `~` at its beginning replaced by the home directory, if it stands alone or
before a slash. -/
def expandHome (home? : Option String) (cs : List Char) : List Char :=
  match home?, cs with
  | some home, ['~'] => home.toList
  | some home, '~' :: '/' :: rest => home.toList ++ '/' :: rest
  | _, _ => cs

/-- The command line with variables and the home directory replaced, which is that of the
account if none is set. A `~` that is the beginning of a variable's value stays. -/
def expand (environment : Environment) (line : String) : Except String String := do
  let cs := line.toList
  let expanded ← expandVariables environment true cs
  let isOwn := cs.head? = some '~' ∨ '$' ∉ cs
  let home? := environment.home? <|> environment.accountHome?
  return .ofList (if isOwn then expandHome home? expanded else expanded)

end Sidecheck.Shell
