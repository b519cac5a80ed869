import Sidecheck.Text.Utf8
import Sidecheck.Wrap
/-!
# UTF-16 columns

Some tools count columns in UTF-16 units, where a character outside the basic plane counts
twice. Here such a column becomes an offset in bytes.
-/

namespace Sidecheck.Text

/-- The number of UTF-16 units of a character. -/
def units16 (c : Char) : Nat := if c.toNat < 0x10000 then 1 else 2

/-- The bytes in front of the first character that has at least `column` units before it, all bytes
if there is none. `counted` is the number of units seen so far. -/
def bytesUpTo16 (column : Nat) : (counted : Nat) → List Char → Nat
  | _, [] => 0
  | counted, c :: rest =>
    if column ≤ counted then 0
    else c.utf8Size + bytesUpTo16 column (wrap32 (counted + units16 c)) rest

/-- The byte offset of a column in a line. -/
def byteOfColumn16 (line : List Char) (column : Nat) : Nat := wrap32 (bytesUpTo16 column 0 line)

end Sidecheck.Text
