import Sidecheck.Json.Token
/-!
# Reading JSON

Tokens become a value on a stack of the arrays and objects that are still open. A complete
value anywhere is delivered to the innermost of them, so the stack says all there is to know
about the tokens before.
-/

namespace Sidecheck.Json

namespace Reader

/-- An array or object that is still open, with its contents in reverse. -/
inductive Open
  | array (items : List Json)
  | object (members : List (Text × Json))
  /-- An object that waits for the value of its last name. -/
  | member (members : List (Text × Json)) (name : Text)

/-- What may come next. -/
inductive Expected
  | value
  /-- A first item, or the end of the array. -/
  | firstItem
  /-- A first name, or the end of the object. -/
  | firstName
  | name
  | colon
  /-- A comma, or the end of the array or object. -/
  | next
deriving DecidableEq, Repr

/-- How far a text has been read. -/
inductive State
  | reading (stack : List Open) (expected : Expected)
  | done (value : Json)

/-- A complete value goes to the innermost open array or object. -/
def deliver? (v : Json) : List Open → Option State
  | [] => some (.done v)
  | .array items :: stack => some (.reading (.array (v :: items) :: stack) .next)
  | .member members name :: stack =>
    some (.reading (.object ((name, v) :: members) :: stack) .next)
  | .object _ :: _ => none

/-- A token where a value must begin. -/
def beginValue? (stack : List Open) : Token → Option State
  | .null => deliver? .null stack
  | .bool b => deliver? (.bool b) stack
  | .number n => deliver? (.number n) stack
  | .text t => deliver? (.text t) stack
  | .openArray => some (.reading (.array [] :: stack) .firstItem)
  | .openObject => some (.reading (.object [] :: stack) .firstName)
  | _ => none

/-- A token where the innermost array or object may end. -/
def close? : List Open → Token → Option State
  | .array items :: stack, .closeArray => deliver? (.array items.reverse) stack
  | .object members :: stack, .closeObject => deliver? (.object members.reverse) stack
  | _, _ => none

/-- A token where a name must stand. -/
def beginMember? : List Open → Token → Option State
  | .object members :: stack, .text name => some (.reading (.member members name :: stack) .colon)
  | _, _ => none

/-- One token further. -/
def step? : State → Token → Option State
  | .done _, _ => none
  | .reading stack .value, token => beginValue? stack token
  | .reading stack .firstItem, token => close? stack token <|> beginValue? stack token
  | .reading stack .firstName, token => close? stack token <|> beginMember? stack token
  | .reading stack .name, token => beginMember? stack token
  | .reading stack .colon, .colon => some (.reading stack .value)
  | .reading _ .colon, _ => none
  | .reading (.array items :: stack) .next, .comma =>
    some (.reading (.array items :: stack) .value)
  | .reading (.object members :: stack) .next, .comma =>
    some (.reading (.object members :: stack) .name)
  | .reading stack .next, token => close? stack token

/-- Reads all tokens from a state on. -/
def run? (s : State) (ts : List Token) : Option State := ts.foldlM step? s

end Reader

/-- The value that tokens write, if they write exactly one. -/
def ofTokens? (ts : List Token) : Option Json :=
  match Reader.run? (.reading [] .value) ts with
  | some (.done v) => some v
  | _ => none

/-- The value of a text. Blanks around it are those of JSON: space, tab and line ends. -/
def parse? (cs : List Char) : Option Json :=
  (Token.scan? cs).bind ofTokens?

end Sidecheck.Json
