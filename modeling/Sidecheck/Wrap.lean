/-!
# Numbers of 32 bits

Offsets, lines and columns are numbers of 32 bits. A result that has more loses the bits above
them, so that a sum that is too large begins at zero again. Below `limit32` nothing is lost.
-/

namespace Sidecheck

/-- The least number that needs more than 32 bits. -/
def limit32 : Nat := 0x100000000

/-- The lowest 32 bits of a number. -/
def wrap32 (n : Nat) : Nat := n % limit32

theorem wrap32_of_lt {n : Nat} (h : n < limit32) : wrap32 n = n := Nat.mod_eq_of_lt h

theorem wrap32_le (n : Nat) : wrap32 n ≤ n := Nat.mod_le n limit32

end Sidecheck
