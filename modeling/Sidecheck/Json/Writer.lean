import Sidecheck.Json.Basic
/-!
# Writing JSON

The compact form: no blanks between tokens, and in a string only the quote, the backslash and
the control characters below U+0020 are escaped.
-/

namespace Sidecheck.Json

/-- A hexadecimal digit in lower case. -/
def hexDigit (n : Nat) : Char := Nat.digitChar n

/-- A character as it stands in a string. -/
def writeChar (c : Char) : List Char :=
  if c = '"' then ['\\', '"']
  else if c = '\\' then ['\\', '\\']
  else if c = '\x08' then ['\\', 'b']
  else if c = '\x0c' then ['\\', 'f']
  else if c = '\n' then ['\\', 'n']
  else if c = '\r' then ['\\', 'r']
  else if c = '\t' then ['\\', 't']
  else if c.toNat < 0x20 then
    ['\\', 'u', '0', '0', hexDigit (c.toNat / 16), hexDigit (c.toNat % 16)]
  else [c]

/-- A string between its quotes. -/
def writeText (cs : List Char) : List Char := '"' :: cs.flatMap writeChar ++ ['"']

/-- A number; one that is no natural number is written with an exponent. -/
def Number.write : Number → List Char
  | .natural n => Nat.toDigits 10 n
  | .other d =>
    (if d.negative then ['-'] else []) ++ Nat.toDigits 10 d.mantissa ++ 'e' ::
      (if d.shift < 0 then ['-'] else []) ++ Nat.toDigits 10 d.shift.natAbs

/-- A text; one that is no Unicode text has nothing to write and becomes null. -/
def Text.write : Text → List Char
  | some s => writeText s.toList
  | none => "null".toList

mutual
/-- A value in its compact form. -/
def write : Json → List Char
  | .null => "null".toList
  | .bool true => "true".toList
  | .bool false => "false".toList
  | .number n => n.write
  | .text t => t.write
  | .array items => '[' :: writeItems items ++ [']']
  | .object members => '\x7b' :: writeMembers members ++ ['\x7d']
/-- The items of an array with commas between them. -/
def writeItems : List Json → List Char
  | [] => []
  | [v] => v.write
  | v :: w :: rest => v.write ++ ',' :: writeItems (w :: rest)
/-- The members of an object with commas between them. -/
def writeMembers : List (Text × Json) → List Char
  | [] => []
  | [(name, v)] => name.write ++ ':' :: v.write
  | (name, v) :: m :: rest => name.write ++ ':' :: v.write ++ ',' :: writeMembers (m :: rest)
end

end Sidecheck.Json
