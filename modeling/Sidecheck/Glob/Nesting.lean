import Sidecheck.Glob.Basic
/-!
# How deep globs may nest

Globs that more than a look at a path's text must decide are matched as regular expressions,
and an expression whose parts stand too deep inside one another is refused. Here are the
expression of a glob, its depth and the limit.
-/

namespace Sidecheck.Glob

/-! ## Expressions -/

/-- The characters that an expression writes with a backslash. -/
def specialChars : List Char := "\\.+*?()|[]\x7b\x7d^$#&-~".toList

/-- A byte that stands for itself. -/
def byteText (b : UInt8) : List Char :=
  if b < 0x80 then
    let c := Char.ofNat b.toNat
    if specialChars.contains c then ['\\', c] else [c]
  else '\\' :: 'x' :: Nat.toDigits 16 b.toNat

/-- A character that stands for itself, byte by byte. -/
def charText (c : Char) : List Char := (bytesOf c).flatMap byteText

/-- A range of a class. -/
def rangeText (range : Char × Char) : List Char :=
  if range.1 = range.2 then charText range.1 else charText range.1 ++ '-' :: charText range.2

mutual
/-- The expression of a token. -/
def Token.text : Token → List Char
  | .literal c => charText c
  | .any => "[^/]".toList
  | .star => "[^/]*".toList
  | .directoriesBefore => "(?:/?|.*/)".toList
  | .everythingBelow => "/.*".toList
  | .directoriesBetween => "(?:/|/.*/)".toList
  | .oneOf negated ranges =>
    '[' :: (if negated then ['^'] else []) ++ ranges.flatMap rangeText ++ [']']
  | .group branches =>
    if branchesEmpty branches then []
    else "(?:".toList ++ ['|'].intercalate (branchTexts branches) ++ [')']
/-- The expression of a sequence. -/
def sequenceText : List Token → List Char
  | [] => []
  | t :: rest => t.text ++ sequenceText rest
/-- The expressions of the branches that are not empty. -/
def branchTexts : List (List Token) → List (List Char)
  | [] => []
  | ts :: rest => (if tokensEmpty ts then [] else [sequenceText ts]) ++ branchTexts rest
end

/-- The glob's expression. -/
def expression (g : Glob) : String :=
  let body := match g.tokens with
    | [.directoriesBefore] => ".*".toList
    | tokens => sequenceText tokens
  .ofList ("(?-u)^".toList ++ body ++ ['$'])

/-! ## Depth -/

/-- How many bytes and ranges of bytes a range of a class adds to it. -/
def rangeMembers (range : Char × Char) : Nat :=
  if range.1 = range.2 then (bytesOf range.1).length
  else (bytesOf range.1).length + (bytesOf range.2).length - 1

/-- How many parts of a sequence a token is. -/
def Token.parts : Token → Nat
  | .literal c => (bytesOf c).length
  | .everythingBelow => 2
  | .group branches => if branchesEmpty branches then 0 else 1
  | _ => 1

/-- The depth that a list of alternatives, parts or members adds to that of its items. -/
def listDepth (count : Nat) : Nat := if count < 2 then 0 else 1

mutual
/-- How many operators of an expression stand inside one another at a token's deepest place. -/
def Token.depth : Token → Nat
  | .literal _ => 0
  | .any | .everythingBelow => 1
  | .star => 2
  | .directoriesBefore | .directoriesBetween => 4
  | .oneOf _ ranges => 1 + listDepth (ranges.foldl (fun n range => n + rangeMembers range) 0)
  | .group branches =>
    if branchesEmpty branches then 0
    else 1 + listDepth (branches.countP (!tokensEmpty ·)) + branchesDepth branches
/-- The greatest depth of the tokens of a sequence. -/
def tokensDepth : List Token → Nat
  | [] => 0
  | t :: rest => max t.depth (tokensDepth rest)
/-- The greatest depth of the branches of a group. -/
def branchesDepth : List (List Token) → Nat
  | [] => 0
  | ts :: rest =>
    let parts := ts.foldl (fun n t => n + t.parts) 0
    max (tokensDepth ts + listDepth parts) (branchesDepth rest)
end

/-- The depth of the glob's expression. -/
def depth (g : Glob) : Nat := 1 + tokensDepth g.tokens

/-! ## The limit -/

/-- The greatest depth of an expression. -/
def deepest : Nat := 250

/-- The glob's expression is too deep. -/
def isTooDeep (g : Glob) : Bool := deepest < g.depth

/-- An expression is too deep. -/
inductive NestingFault
  /-- The expression is read alone. -/
  | alone (expression : String)
  /-- The expression is read together with others, at a position among them. -/
  | among (position : Nat)
deriving DecidableEq, Repr

/-- The fault in words. -/
def NestingFault.message : NestingFault → String
  | .alone expression => "error parsing glob '" ++ expression ++ "': error parsing pattern 0"
  | .among position => "error parsing pattern " ++ .ofList (Nat.toDigits 10 position)

/-- The first fault of globs. Those that give an extension are read alone and before the
others; those that a text or a name decides have no expression. -/
def nestingFault? (globs : List Glob) : Option NestingFault :=
  match globs.find? fun g => g.shape = .extension && g.isTooDeep with
  | some g => some (.alone g.expression)
  | none => ((globs.filter (·.shape = .path)).findIdx? isTooDeep).map .among

end Sidecheck.Glob
