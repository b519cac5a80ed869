import Sidecheck.HostName.Address
import Sidecheck.HostName.Basic
/-!
# File URIs

From a URI to the path of the file it names. The path is found by the rules of the URL
standard: which slashes count depends on the scheme, `.` and `..` are resolved, a query and a
fragment are cut off. What is left is percent-decoded and must be UTF-8. A URI that names
another host has no path here.
-/

namespace Sidecheck.FileUri

/-- What the scheme says about the rest. -/
inductive Kind
  | file
  /-- A scheme whose URIs always have a host, where a backslash is a slash. -/
  | web
  | plain
deriving DecidableEq, Repr

/-- The kind of a scheme in lower case. -/
def kindOf (scheme : String) : Kind :=
  if scheme = "file" then .file
  else if scheme ∈ ["http", "https", "ws", "wss", "ftp"] then .web
  else .plain

/-- An ASCII letter. -/
def isLetter (c : Char) : Bool := c.isAlpha

/-- The text without tabs and line ends, and without blanks and control characters at its
ends. -/
def clean (cs : List Char) : List Char :=
  let isEdge := fun (c : Char) => c.toNat ≤ 0x20
  (Text.dropWhileEnd isEdge (cs.dropWhile isEdge)).filter fun c => c ≠ '\t' ∧ c ≠ '\n' ∧ c ≠ '\r'

/-- The scheme in lower case and what follows its colon. -/
def splitScheme? (cs : List Char) : Option (String × List Char) :=
  let isSchemeChar := fun (c : Char) => c.isAlphanum || c = '+' || c = '-' || c = '.'
  match cs.head?, cs.dropWhile isSchemeChar with
  | some first, ':' :: rest =>
    if isLetter first then some (.ofList ((cs.takeWhile isSchemeChar).map Char.toLower), rest)
    else none
  | _, _ => none

/-- A letter with a colon, or with a bar in its place: a directory that `..` never leaves. -/
def isDrive (segment : List Char) : Bool :=
  match segment with
  | [letter, mark] => isLetter letter && (mark = ':' || mark = '|')
  | _ => false

/-- A `.`, perhaps percent-encoded. -/
def isDot (segment : List Char) : Bool :=
  String.ofList (segment.map Char.toLower) ∈ [".", "%2e"]

/-- A `..`, perhaps percent-encoded. -/
def isDotDot (segment : List Char) : Bool :=
  String.ofList (segment.map Char.toLower) ∈ ["..", ".%2e", "%2e.", "%2e%2e"]

/-- The segments with `..` having taken back the one before, from the last one to the first. -/
def resolveSegments : (before : List (List Char)) → List (List Char) → List (List Char)
  | before, [] => before
  | before, segment :: rest =>
    let up := match before with
      | last :: earlier => if isDrive last then before else earlier
      | [] => []
    if isDotDot segment then
      if rest.isEmpty then [] :: up else resolveSegments up rest
    else if isDot segment then
      if rest.isEmpty then [] :: before else resolveSegments before rest
    else resolveSegments (segment :: before) rest

/-- A slash, where a backslash counts as one. -/
def isSlash (c : Char) : Bool := c = '/' || c = '\\'

/-- What follows a slash at the beginning, if there is one. -/
def dropSlash : List Char → List Char
  | c :: rest => if isSlash c then rest else c :: rest
  | [] => []

/-- The segments of what follows a path's first slash, from the first to the last. -/
def pathSegments (kind : Kind) (cs : List Char) : List (List Char) :=
  let cs := if kind = .plain then cs else cs.map fun c => if isSlash c then '/' else c
  (resolveSegments [] (cs.splitOn '/')).reverse

/-- The segments of a file's path: a drive at the beginning is written with a colon, and slashes
at the beginning are one slash. -/
def fileSegments (cs : List Char) : List (List Char) :=
  let segments := match pathSegments .file cs with
    | drive :: rest => (if isDrive drive then drive.take 1 ++ [':'] else drive) :: rest
    | [] => []
  match segments.dropWhile List.isEmpty with
  | [] => [[]]
  | kept => kept

/-- A hexadecimal digit's value. -/
def hexDigit? (b : UInt8) : Option UInt8 :=
  if 0x30 ≤ b ∧ b ≤ 0x39 then some (b - 0x30)
  else if 0x41 ≤ b ∧ b ≤ 0x46 then some (b - 0x41 + 10)
  else if 0x61 ≤ b ∧ b ≤ 0x66 then some (b - 0x61 + 10)
  else none

/-- Bytes with every `%` and two hexadecimal digits replaced by the byte they stand for. -/
def percentDecode : List UInt8 → List UInt8
  | [] => []
  | [a] => [a]
  | [a, b] => [a, b]
  | a :: b :: c :: rest =>
    match a == 0x25, hexDigit? b, hexDigit? c with
    | true, some high, some low => (high * 16 + low) :: percentDecode rest
    | _, _, _ => a :: percentDecode (b :: c :: rest)

/-- The bytes of a text. -/
def bytesOf (cs : List Char) : List UInt8 := (String.ofList cs).toUTF8.toList

/-- The bytes as text, if they are UTF-8. -/
def textOf? (bytes : List UInt8) : Option String := String.fromUTF8? bytes.toByteArray

/-- The path that segments write. One that ends in a drive gets a slash behind it. -/
def pathOf? (segments : List (List Char)) : Option String :=
  let bytes := segments.flatMap fun s => 0x2F :: percentDecode (bytesOf s)
  let endsInDrive := match bytes.reverse with
    | mark :: letter :: _ :: _ =>
      (mark == 0x3A || mark == 0x7C) && isLetter (Char.ofNat letter.toNat)
    | _ => false
  textOf? (if endsInDrive then bytes ++ [0x2F] else bytes)

/-- What a host says about where its files are. -/
inductive Host
  | here
  | elsewhere
  | invalid
deriving DecidableEq, Repr

/-- The name of the host whose files are here. -/
def localName : List Char := "localhost".toList

/-- The host of a file or web URI: an address in brackets, or a name or an address that may be
percent-encoded. -/
def readHost (host : List Char) : Host :=
  match host with
  | '[' :: rest =>
    if rest.getLast? = some ']' && HostName.isAddress6 rest.dropLast then .elsewhere else .invalid
  | _ =>
    match (textOf? (percentDecode (bytesOf host))).bind (HostName.normal? ·.toList) with
    | none | some [] => .invalid
    | some name =>
      if HostName.endsInNumber name && !HostName.isAddress4 name then .invalid
      else if name = localName then .here
      else .elsewhere

/-- The path of a file URI behind its scheme. A path that begins with a drive is here whatever
the host says, and a host that looks like a drive is one. -/
def filePath? (rest : List Char) : Option String :=
  match rest with
  | a :: b :: afterSlashes =>
    if isSlash a && isSlash b then
      let host := afterSlashes.takeWhile (!isSlash ·)
      let path := afterSlashes.drop host.length
      if isDrive host then pathOf? (fileSegments afterSlashes)
      else match if host.isEmpty then .here else readHost host with
        | .here => pathOf? (fileSegments path)
        | .elsewhere =>
          let path := dropSlash path
          if (pathSegments .file path).head?.any isDrive then pathOf? (fileSegments path) else none
        | .invalid => none
    else pathOf? (fileSegments (dropSlash rest))
  | _ => pathOf? (fileSegments (dropSlash rest))

/-- Splits what stands between the double slash and the path into user, host and what follows
the host's colon. -/
def splitAuthority (authority : List Char) :
    Option (List Char) × List Char × Option (List Char) :=
  let parts := authority.splitOn '@'
  let user := if parts.length = 1 then none else some (['@'].intercalate parts.dropLast)
  let place := parts.getLast?.getD []
  let host := place.takeWhile (· ≠ ':')
  match place.drop host.length with
  | [] => (user, host, none)
  | _ :: portNumber => (user, host, some portNumber)

/-- What follows a host's colon is empty or a number of 16 bits. -/
def isPortNumber (cs : List Char) : Bool :=
  cs.all Char.isDigit && (cs.isEmpty || ((String.ofList cs).toNat?.any (· < 0x10000)))

/-- The path of a web URI behind its scheme. -/
def webPath? (rest : List Char) : Option String :=
  let rest := rest.dropWhile isSlash
  let authority := rest.takeWhile (!isSlash ·)
  let (_, host, portNumber) := splitAuthority authority
  if portNumber.all isPortNumber ∧ readHost host = .here then
    pathOf? (pathSegments .web (rest.drop (authority.length + 1)))
  else none

/-- Splits what follows a host's colon into a number and what ends it: a backslash and what
stands behind that. -/
def splitPortNumber (cs : List Char) : List Char × List Char :=
  (cs.takeWhile (· ≠ '\\'), cs.dropWhile (· ≠ '\\'))

/-- The path of any other URI behind its scheme. The host is not named or named in plain
letters, and a backslash is a slash only where it ends the number behind a host. -/
def plainPath? (rest : List Char) : Option String :=
  match rest with
  | '/' :: '/' :: afterSlashes =>
    let authority := afterSlashes.takeWhile (· ≠ '/')
    let path := afterSlashes.drop authority.length
    let (user, host, behind) := splitAuthority authority
    let (portNumber, pathStart) := splitPortNumber (behind.getD [])
    let isHere :=
      (host = [] ∧ (user = none ∨ user = some [':']) ∧ behind = none) ∨
      (host = localName ∧ isPortNumber portNumber)
    if ¬ isHere then none
    else if !pathStart.isEmpty then pathOf? (pathSegments .plain (pathStart ++ path))
    else if path ≠ [] then pathOf? (pathSegments .plain (path.drop 1))
    else none
  | '/' :: path => pathOf? (pathSegments .plain path)
  | _ => none

/-- The path of the file that a URI names. -/
def path? (uri : String) : Option String := do
  let (scheme, rest) ← splitScheme? (clean uri.toList)
  let rest := rest.takeWhile fun c => c ≠ '?' ∧ c ≠ '#'
  match kindOf scheme with
  | .file => filePath? rest
  | .web => webPath? rest
  | .plain => plainPath? rest

end Sidecheck.FileUri
