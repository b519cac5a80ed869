import Sidecheck.Disk
import Sidecheck.LineIndex
import Sidecheck.Record.Basic
import Sidecheck.Severity
import Sidecheck.Text.Blank
import Sidecheck.Text.Lines
import Sidecheck.Text.Split
import Sidecheck.Text.Utf16
import Sidecheck.Text.Word
/-!
# A compiler's listing

What the compiler prints when its output is not meant for people's eyes alone:

    path(line,column): error TS1234: message
      an elaboration, two spaces further in for each level

A listing falls into blocks, each a header and the indented lines behind it; any other line
ends the block before it and says nothing. Each block becomes a record.
-/

namespace Sidecheck.Listing

/-- A number of 32 bits, perhaps with a plus sign. -/
def parseCount? (cs : List Char) : Option Nat :=
  let digits := match cs with
    | '+' :: rest => rest
    | cs => cs
  if digits.isEmpty ∨ !digits.all Char.isDigit then none
  else
    let n := digits.foldl (fun n c => n * 10 + (c.toNat - '0'.toNat)) 0
    if n < Nat.pow 2 32 then some n else none

/-- Where a diagnostic is: a path as it is written, a line and a column. -/
structure Place where
  path : List Char
  line : Nat
  column : Nat
deriving DecidableEq, Repr

/-- The first line of a diagnostic. -/
structure Header where
  place? : Option Place
  severity : Severity
  code : Nat
  text : List Char
deriving DecidableEq, Repr

namespace Header

/-- A header without a place: `error TS1234: message`. -/
def parseFinding? (cs : List Char) : Option Header := do
  let (word, rest) ← Text.splitFirst? [' '] cs
  let severity ← Severity.ofName? (.ofList word)
  let rest ← if ['T', 'S'].isPrefixOf rest then some (rest.drop 2) else none
  let (code, text) ← Text.splitFirst? [':'] rest
  return ⟨none, severity, ← parseCount? code, Text.trim text⟩

/-- The number with which a text ends, and what stands before it. The text is given from its
end to its beginning, and so is what stands before the number. -/
def countBefore? (reversed : List Char) : Option (Nat × List Char) :=
  let before := reversed.dropWhile Char.isDigit
  (parseCount? (reversed.takeWhile Char.isDigit).reverse).map fun n =>
    (n, if before.head? = some '+' then before.tail else before)

/-- The header behind a place, `path(line,column`, given from its end to its beginning, and the
`): ` that ends it. -/
def parseAt? (reversed after : List Char) : Option Header := do
  let (column, reversed) ← countBefore? reversed
  let (line, reversed) ← if reversed.head? = some ',' then countBefore? reversed.tail else none
  let path ← if reversed.head? = some '(' then some reversed.tail else none
  let header ← parseFinding? after
  return { header with place? := some ⟨path.reverse, line, column⟩ }

/-- A header in front of which a place stands, in a text that goes on behind what was seen. The
path may hold what ends a place, so the first cut that makes sense is taken. -/
def parsePlaced? (seen : List Char) : List Char → Option Header
  | [] => none
  | c :: rest =>
    let here :=
      if [')', ':', ' '].isPrefixOf (c :: rest) then parseAt? seen (rest.drop 2) else none
    match here with
    | some header => some header
    | none => parsePlaced? (c :: seen) rest

/-- The header that a line writes. -/
def parse? (cs : List Char) : Option Header := parseFinding? cs <|> parsePlaced? [] cs

end Header

/-- A header and the elaborations behind it, each with its depth. -/
structure Block where
  header : Header
  details : List (Nat × List Char)
deriving DecidableEq, Repr

/-- An indented line as an elaboration: one level for every two bytes of blanks in front, but
at least one. -/
def detail (line : List Char) : Nat × List Char :=
  let text := Text.trimStart line
  (max ((Text.byteLength line - Text.byteLength text) / 2) 1, text)

/-- The line belongs to a block that began above it, if there is one. -/
def isBelow (line : List Char) : Bool := Text.allBlank line || line.head? = some ' '

/-- The blocks of lines: each header with the lines that belong to it, of which blank ones say
nothing. -/
def blocksOf : List (List Char) → List Block
  | [] => []
  | line :: rest =>
    match if isBelow line then none else Header.parse? line with
    | some header =>
      ⟨header, ((rest.takeWhile isBelow).filter (!Text.allBlank ·)).map detail⟩ :: blocksOf rest
    | none => blocksOf rest

/-- The blocks of an output. -/
def blocks (output : List Char) : List Block := blocksOf (Text.outputLines output)

end Listing

namespace MessageTree

/-- Adds an elaboration as the last one at a depth below the top, or as deep as the elaborations
that came last reach. -/
def attach (text : String) : (depth : Nat) → MessageTree → MessageTree
  | depth + 2, .node top below =>
    match below.getLast? with
    | some last => .node top (below.dropLast ++ [last.attach text (depth + 1)])
    | none => .node top [.node text []]
  | _, .node top below => .node top (below ++ [.node text []])

end MessageTree

namespace Listing

/-- The message of a header's text and its elaborations. -/
def buildMessage (text : String) (details : List (Nat × String)) : Message :=
  if details.isEmpty then .plain text
  else .tree (details.foldl (fun tree (depth, s) => tree.attach s depth) (.node text []))

/-- A character of a name in a program. -/
def isTokenChar (c : Char) : Bool := Text.isAlphanumeric c || c = '_' || c = '$'

/-- The number of bytes of the name at the beginning of a text, at least one. -/
def tokenLength (cs : List Char) : Nat :=
  wrap32 (max (Text.byteLength (cs.takeWhile isTokenChar)) 1)

/-- The offset of a place in its file's text; none if there is no such line. Lines and columns
count from one, columns in UTF-16 units; a zero counts as a one. -/
def offset? (text : List Char) (line column : Nat) : Option Nat := do
  let lineStart ← (LineIndex.ofText text).offset? ⟨line - 1, 0⟩
  let rest := (Text.dropBytes lineStart text).getD []
  return wrap32 (lineStart + Text.byteOfColumn16 (rest.takeWhile (· ≠ '\n')) (column - 1))

/-- The range that a place means in its file's text: the name that stands there. -/
def range? (text : List Char) (line column : Nat) : Option (Nat × Nat) :=
  (offset? text line column).map fun start =>
    (start, ((Text.dropBytes start text).map tokenLength).getD 1)

/-- The file of a block, as seen from a root. -/
def Block.fileName? (root : String) (b : Block) : Option String :=
  b.header.place?.map fun p => Path.join root (.ofList p.path)

/-- The record of a block whose file has the given text. -/
def Block.record (root : String) (fileText : Option String) (b : Block) : CompilerRecord :=
  let range? := do
    let place ← b.header.place?
    let text ← fileText
    range? text.toList place.line place.column
  { fileName := b.fileName? root, fileText
    start := range?.map (·.1)
    length := range?.map (·.2)
    message := buildMessage (.ofList b.header.text)
      (b.details.map fun (depth, text) => (depth, .ofList text))
    category := b.header.severity.code
    code := b.header.code }

/-- The records of an output. A file is read once for all blocks that name its path, in the
way that the first of them writes it. -/
def records (disk : Disk) (root output : String) : List CompilerRecord :=
  let blocks := blocks output.toList
  let files := (blocks.filterMap (Block.fileName? root)).map fun file => (Path.parts file, file)
  blocks.map fun b =>
    let written? := (b.fileName? root).bind fun file => files.lookup (Path.parts file)
    b.record root (written?.bind fun file => (disk.readText file).toOption)

end Listing

end Sidecheck
