import Sidecheck.Text.Split
/-!
# Addresses in place of host names

A name whose last label is a number is an address of four bytes, and an address of sixteen
bytes stands between brackets.
-/

namespace Sidecheck.HostName

/-! ## Four bytes -/

/-- The number that digits of a base write. -/
def ofDigits? (base : Nat) (digits : List Char) : Option Nat :=
  digits.foldlM (fun n c =>
    let digit := if c.isDigit then c.toNat - '0'.toNat else c.toNat - 'a'.toNat + 10
    if (c.isDigit || ('a' ≤ c && c ≤ 'f')) && digit < base then some (n * base + digit)
    else none) 0

/-- The number that a label writes: hexadecimal behind `0x`, octal behind another zero. -/
def number? : List Char → Option Nat
  | [] => none
  | '0' :: 'x' :: digits => ofDigits? 16 digits
  | '0' :: c :: digits => ofDigits? 8 (c :: digits)
  | digits => ofDigits? 10 digits

/-- The labels of a name without the empty one behind a dot at its end. -/
def addressLabels (name : List Char) : List (List Char) :=
  let labels := name.splitOn '.'
  if labels.getLast? = some [] then labels.dropLast else labels

/-- The name's last label looks like a number, so that the name must be an address. -/
def endsInNumber (name : List Char) : Bool :=
  (addressLabels name).getLast?.any fun label =>
    (!label.isEmpty && label.all Char.isDigit) || (number? label).isSome

/-- The name is an address of four bytes. The last of its numbers fills all bytes that are
left. -/
def isAddress4 (name : List Char) : Bool :=
  match (addressLabels name).mapM number? with
  | none => false
  | some numbers =>
    numbers.length ≤ 4 && numbers.dropLast.all (· < 0x100) &&
      numbers.getLast?.any (· < Nat.pow 0x100 (5 - numbers.length))

/-! ## Sixteen bytes -/

/-- A hexadecimal digit. -/
def isHexDigit (c : Char) : Bool := c.isDigit || ('a' ≤ c.toLower && c.toLower ≤ 'f')

/-- A group of two bytes. -/
def isGroup (group : List Char) : Bool :=
  !group.isEmpty && group.length ≤ 4 && group.all isHexDigit

/-- A decimal number of one byte, without a zero in front. -/
def isByte (digits : List Char) : Bool :=
  !digits.isEmpty && digits.all Char.isDigit && (digits.length = 1 || digits.head? ≠ some '0') &&
    (ofDigits? 10 digits).any (· < 0x100)

/-- Four decimal bytes, which stand for two groups. -/
def isQuad (group : List Char) : Bool :=
  let bytes := group.splitOn '.'
  bytes.length = 4 && bytes.all isByte

/-- How many groups a text writes between colons; none if it does not. The last group may be
written as decimal bytes if it is the address's last. -/
def countGroups? (isLast : Bool) (text : List Char) : Option Nat :=
  if text.isEmpty then some 0
  else
    let groups := text.splitOn ':'
    let quad := isLast && groups.getLast?.any isQuad
    if (if quad then groups.dropLast else groups).all isGroup then
      some (groups.length + if quad then 1 else 0)
    else none

/-- The text is an address of sixteen bytes: eight groups, of which two colons in a row leave
out at least one. -/
def isAddress6 (text : List Char) : Bool :=
  match Text.splitFirst? [':', ':'] text with
  | none => countGroups? true text = some 8
  | some (before, behind) =>
    match countGroups? false before, countGroups? true behind with
    | some m, some n => m + n < 8
    | _, _ => false

end Sidecheck.HostName
