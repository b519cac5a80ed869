/-!
# Words of a command line

A command line falls into words as a shell reads it: at blanks that are neither quoted nor
escaped. A `#` at the beginning of a word begins a comment. The machine reads one character at
a time and keeps the word it is in.
-/

namespace Sidecheck.Shell

/-- Where in a command line the next character stands. -/
inductive Place
  | between
  /-- Behind a backslash with which a word begins. -/
  | betweenEscape
  | plain
  | plainEscape
  | singleQuotes
  | doubleQuotes
  | doubleQuotesEscape
  | comment
deriving DecidableEq, Repr

/-- A blank between words: space, tab or line feed. -/
def isSeparator (c : Char) : Bool := c = ' ' || c = '\t' || c = '\n'

/-- What a character does: the place behind it, the characters it adds to the word, and whether
it ends the word. -/
def Place.step (place : Place) (c : Char) : Place × List Char × Bool :=
  match place with
  | .between =>
    if c = '\'' then (.singleQuotes, [], false)
    else if c = '"' then (.doubleQuotes, [], false)
    else if c = '\\' then (.betweenEscape, [], false)
    else if isSeparator c then (.between, [], false)
    else if c = '#' then (.comment, [], false)
    else (.plain, [c], false)
  | .betweenEscape => if c = '\n' then (.between, [], false) else (.plain, [c], false)
  | .plain =>
    if c = '\'' then (.singleQuotes, [], false)
    else if c = '"' then (.doubleQuotes, [], false)
    else if c = '\\' then (.plainEscape, [], false)
    else if isSeparator c then (.between, [], true)
    else (.plain, [c], false)
  | .plainEscape => if c = '\n' then (.plain, [], false) else (.plain, [c], false)
  | .singleQuotes => if c = '\'' then (.plain, [], false) else (.singleQuotes, [c], false)
  | .doubleQuotes =>
    if c = '"' then (.plain, [], false)
    else if c = '\\' then (.doubleQuotesEscape, [], false)
    else (.doubleQuotes, [c], false)
  | .doubleQuotesEscape =>
    if c = '\n' then (.doubleQuotes, [], false)
    else if c = '$' ∨ c.toNat = 0x60 ∨ c = '"' ∨ c = '\\' then (.doubleQuotes, [c], false)
    else (.doubleQuotes, ['\\', c], false)
  | .comment => if c = '\n' then (.between, [], false) else (.comment, [], false)

/-- The words that the end of the line completes; none inside quotes. A backslash at the end
stands for itself. -/
def Place.finish? (place : Place) (word : List Char) : Option (List (List Char)) :=
  match place with
  | .between | .comment => some []
  | .plain => some [word]
  | .betweenEscape | .plainEscape => some [word ++ ['\\']]
  | .singleQuotes | .doubleQuotes | .doubleQuotesEscape => none

/-- The words of a line that goes on from a place inside a word, whose characters so far are
given from the last one to the first. -/
def wordsFrom? (place : Place) (reversed : List Char) : List Char → Option (List (List Char))
  | [] => place.finish? reversed.reverse
  | c :: rest =>
    let (place, added, ends) := place.step c
    let reversed := added.reverse ++ reversed
    if ends then (wordsFrom? place [] rest).map (reversed.reverse :: ·)
    else wordsFrom? place reversed rest

/-- The words of a command line; none if a quote is not closed. -/
def words? (line : String) : Option (List String) :=
  (wordsFrom? .between [] line.toList).map (·.map .ofList)

end Sidecheck.Shell
