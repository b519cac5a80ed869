/-!
# Globs

A glob is a sequence of tokens, each of which matches some bytes of a path.
-/

namespace Sidecheck

namespace Glob

/-- A part of a glob. -/
inductive Token
  | literal (c : Char)
  /-- One byte that is no slash. -/
  | any
  /-- Any number of bytes that are no slashes. -/
  | star
  /-- Nothing, or whole directories and the slash behind them. -/
  | directoriesBefore
  /-- A slash and everything behind it. -/
  | everythingBelow
  /-- A slash, or a slash and whole directories with the slash behind them. -/
  | directoriesBetween
  /-- One byte of a class, or none of it. -/
  | oneOf (negated : Bool) (ranges : List (Char × Char))
  /-- One of several sequences. -/
  | group (branches : List (List Token))
deriving Repr

/-- The byte of a slash. -/
def slash : UInt8 := 0x2F

/-- The bytes of a character. -/
def bytesOf (c : Char) : List UInt8 := c.toString.toUTF8.toList

/-- A byte is in the class of a range. The bounds may be characters of several bytes; then the
class holds each of these bytes, and the range reaches from the last byte of the lower bound to
the first byte of the upper one. -/
def inRange (b : UInt8) (range : Char × Char) : Bool :=
  let low := bytesOf range.1
  let high := bytesOf range.2
  if range.1 = range.2 then low.contains b
  else
    low.dropLast.contains b || high.tail.contains b ||
      (low.getLast?.any (· ≤ b) && high.head?.any (b ≤ ·))

mutual
/-- A token that only ever matches nothing, because its branches are all empty. -/
def Token.isEmpty : Token → Bool
  | .group branches => branchesEmpty branches
  | _ => false
/-- A sequence of tokens that only ever match nothing. -/
def tokensEmpty : List Token → Bool
  | [] => true
  | t :: rest => t.isEmpty && tokensEmpty rest
/-- Branches that only ever match nothing. -/
def branchesEmpty : List (List Token) → Bool
  | [] => true
  | ts :: rest => tokensEmpty ts && branchesEmpty rest
end

/-- The character of a literal. -/
def Token.literal? : Token → Option Char
  | .literal c => some c
  | _ => none

/-- The characters of tokens that are all literals. -/
def literals? (tokens : List Token) : Option (List Char) := tokens.mapM Token.literal?

end Glob

/-- A glob; its tokens from the first to the last. -/
structure Glob where
  tokens : List Glob.Token
deriving Repr

namespace Glob

/-- What it takes to tell whether a path matches. -/
inductive Shape
  /-- A look at the path's text: the text itself, its beginning or its end is given. -/
  | text
  /-- A look at the path's last name: the name or its extension is given. -/
  | name
  /-- A look at the extension of the last name, and then at the whole path. -/
  | extension
  /-- A look at the whole path. -/
  | path
deriving DecidableEq, Repr

/-- The tokens end in literals that hold a dot, with no slash behind it. -/
def endsInExtension (tokens : List Token) : Bool :=
  ((tokens.reverse.map Token.literal?).takeWhile fun c => c.isSome && c ≠ some '/').contains
    (some '.')

/-- The shape of tokens that begin anywhere below a root. -/
def shapeBelow? (tokens : List Token) : Option Shape :=
  match literals? tokens, tokens with
  | some [], _ => none
  | some cs, _ => some (if cs.contains '/' then .text else .name)
  | none, .star :: .literal '.' :: rest =>
    if (literals? rest).any fun cs => !cs.contains '.' && !cs.contains '/' then some .name
    else none
  | none, _ => none

/-- The glob's shape. -/
def shape (g : Glob) : Shape :=
  let general : Shape :=
    if (literals? g.tokens).isSome then .text
    else if (literals? g.tokens.dropLast).isSome && g.tokens.getLast? matches some .everythingBelow
      then .text
    else if endsInExtension g.tokens then .extension
    else .path
  match g.tokens with
  | .directoriesBefore :: rest => (shapeBelow? rest).getD general
  | _ => general

end Glob

end Sidecheck
