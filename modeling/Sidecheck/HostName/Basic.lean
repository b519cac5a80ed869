import Sidecheck.HostName.Label
/-!
# Host names

A host name in its normal form: every character is replaced by what it stands for, the text is
composed, and labels that are written in ASCII are read. Names that cannot be a host's have no
normal form.
-/

namespace Sidecheck.HostName

/-- An ASCII character that no host name holds. -/
def isForbidden (c : Char) : Bool :=
  c.toNat ≤ 0x20 || c.toNat = 0x7F || "%#/:<>?@[\\]^|".toList.contains c

/-- The labels of a name in its normal form. -/
def labels? (name : List Char) : Option (List (List Char)) := do
  let mapped ← mapText? name
  let labels ← ((Text.compose mapped).splitOn '.').mapM readLabel?
  let isFree := labels.all fun label => isLabel label && !label.any isForbidden
  let isMixed := labels.any (·.any isRightToLeft)
  if isFree && (!isMixed || labels.all goesOneWay) then some labels else none

/-- The normal form of a name. -/
def normal? (name : List Char) : Option (List Char) := (labels? name).map ['.'].intercalate

end Sidecheck.HostName
