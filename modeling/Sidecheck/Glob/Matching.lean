import Sidecheck.Glob.Basic
/-!
# Matching globs

Whether a glob matches a text is said through marks: one for each place of the text, which says
whether the tokens read so far can end there. A token that may match in several ways leaves
several marks, and a glob matches if the place behind the last byte is marked. The work is
proportional to the length of the text for each token.
-/

namespace Sidecheck.Glob

/-- A mark for each place of a text, from before its first byte to behind its last one. -/
abbrev Marks := List Bool

namespace Marks

/-- Only the place before the first byte is marked. -/
def start (text : List UInt8) : Marks := true :: text.map fun _ => false

/-- The places that are marked in one of two ways. -/
def union (a b : Marks) : Marks := a.zipWith (· || ·) b

/-- Behind one byte of a class. -/
def behindByte (p : UInt8 → Bool) (text : List UInt8) (marks : Marks) : Marks :=
  false :: marks.zipWith (fun mark b => mark && p b) text

/-- Behind any number of bytes that are no slashes; `reached` says that the first place is. -/
def behindName (reached : Bool) : List UInt8 → Marks → Marks
  | [], marks => marks.map (· || reached)
  | _ :: _, [] => []
  | b :: rest, mark :: marks =>
    let now := mark || reached
    now :: behindName (now && b ≠ slash) rest marks

/-- Behind every slash that stands somewhere behind a marked place, for all places but the
first one; `seen` says that a marked place came before. -/
def behindSlashes (seen : Bool) : List UInt8 → Marks → Marks
  | b :: rest, mark :: marks =>
    let seen := seen || mark
    (seen && b = slash) :: behindSlashes seen rest marks
  | _, _ => []

/-- Nothing, or whole directories and the slash behind them. -/
def behindDirectories (text : List UInt8) (marks : Marks) : Marks :=
  union marks (false :: behindSlashes false text marks)

/-- Every place from the first marked one on; `seen` says that a marked place came before. -/
def onward (seen : Bool) : Marks → Marks
  | [] => []
  | mark :: marks => (seen || mark) :: onward (seen || mark) marks

end Marks

mutual
/-- Where a token can end that begins at a marked place. An empty branch of a group does not
count as one. -/
def Token.marks (text : List UInt8) : Token → Marks → Marks
  | .literal c, marks =>
    (bytesOf c).foldl (fun marks byte => marks.behindByte (· = byte) text) marks
  | .any, marks => marks.behindByte (· ≠ slash) text
  | .star, marks => marks.behindName false text
  | .directoriesBefore, marks => marks.behindDirectories text
  | .everythingBelow, marks => (marks.behindByte (· = slash) text).onward false
  | .directoriesBetween, marks => (marks.behindByte (· = slash) text).behindDirectories text
  | .oneOf negated ranges, marks =>
    marks.behindByte (fun b => ranges.any (inRange b) != negated) text
  | .group branches, marks =>
    if branchesEmpty branches then marks else branchMarks text branches marks
/-- Where a sequence of tokens can end that begins at a marked place. -/
def sequenceMarks (text : List UInt8) : List Token → Marks → Marks
  | [], marks => marks
  | t :: rest, marks => sequenceMarks text rest (t.marks text marks)
/-- Where one of several sequences can end that begins at a marked place. -/
def branchMarks (text : List UInt8) : List (List Token) → Marks → Marks
  | [], marks => marks.map fun _ => false
  | ts :: rest, marks =>
    if tokensEmpty ts then branchMarks text rest marks
    else (sequenceMarks text ts marks).union (branchMarks text rest marks)
end

/-- The tokens match all of a text. Literals at the beginning are compared one by one, as no
choice comes before them. -/
def matchesFrom : List Token → List UInt8 → Bool
  | .literal c :: rest, text =>
    (bytesOf c).isPrefixOf text && matchesFrom rest (text.drop (bytesOf c).length)
  | tokens, text => (sequenceMarks text tokens (.start text)).getLast?.any id

/-- The tokens match all of a text. Two stars alone match everything. -/
def matchesAll (tokens : List Token) (text : List UInt8) : Bool :=
  match tokens with
  | [.directoriesBefore] => true
  | tokens => matchesFrom tokens text

/-- The text has a last name: it is not empty, and does not end in a `..`. -/
def hasLastName (text : String) : Bool :=
  !text.isEmpty && (text.toList.splitOn '/').getLast? ≠ some ['.', '.']

/-- The glob matches all of a text. One that looks at a path's last name asks for a path that
has one. -/
def isMatch (g : Glob) (text : String) : Bool :=
  let looksAtName := g.shape = .name || g.shape = .extension
  (!looksAtName || hasLastName text) && matchesAll g.tokens text.toUTF8.toList

end Sidecheck.Glob
