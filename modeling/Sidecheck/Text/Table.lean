/-!
# Tables of characters

A property of characters is written as words of hexadecimal numbers: `300-36F` is a range,
`5BF` a single character, and `=E6` gives the value of the words behind it.
-/

namespace Sidecheck.Text

namespace Table

/-- A digit of the numbers in a table. -/
def isDigit (c : Char) : Bool := c.isDigit || ('A' ≤ c && c ≤ 'F')

/-- The number that digits write. -/
def number (digits : List Char) : Nat :=
  digits.foldl (fun n c => n * 16 + (if c.isDigit then c.toNat - 0x30 else c.toNat - 0x37)) 0

/-- The numbers that a word writes, whatever stands between them. -/
def numbers (word : List Char) : List Nat := (word.splitOnP fun c => !isDigit c).map number

/-- The words of a table. -/
def words (text : String) : List (List Char) :=
  (text.toList.splitOnP Char.isWhitespace).filter (!·.isEmpty)

/-- The numbers of each word, with the value that was set before it. -/
def entries (text : String) : List (Nat × List Nat) :=
  ((words text).foldl (fun (value, found) word =>
    match word with
    | '=' :: digits => (number digits, found)
    | word => (value, (value, numbers word) :: found)) (0, [])).2.reverse

end Table

/-- A range of characters that have a value. -/
structure Range where
  first : Nat
  last : Nat
  value : Nat
deriving Repr

/-- The ranges that a table writes. -/
def readRanges (text : String) : Array Range :=
  ((Table.entries text).filterMap fun (value, numbers) =>
    match numbers with
    | [first] => some ⟨first, first, value⟩
    | [first, last] => some ⟨first, last, value⟩
    | _ => none).toArray

/-- The value of the range that a character is in. -/
def valueIn? (ranges : Array Range) (c : Char) : Option Nat :=
  (ranges.find? fun r => r.first ≤ c.toNat && c.toNat ≤ r.last).map (·.value)

/-- The character is in one of the ranges. -/
def isIn (ranges : Array Range) (c : Char) : Bool := (valueIn? ranges c).isSome

end Sidecheck.Text
