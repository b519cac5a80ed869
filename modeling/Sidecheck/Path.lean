/-!
# Paths

A path is a text; what it names is the list of its parts. Repeated slashes, a slash at the end
and a `.` that is not the first part say nothing, so different texts can be the same path.
-/

namespace Sidecheck.Path

/-- One part of a path. -/
inductive Part
  /-- The slash of an absolute path. -/
  | root
  /-- A `.` in front of a relative path. -/
  | here
  /-- A `..`. -/
  | up
  | name (text : String)
deriving DecidableEq, Repr

/-- The part's text. -/
def Part.text : Part → String
  | .root => "/"
  | .here => "."
  | .up => ".."
  | .name text => text

/-- The part that stands between two slashes, if it says anything. -/
def partOf? (segment : List Char) : Option Part :=
  if segment = [] ∨ segment = ['.'] then none
  else if segment = ['.', '.'] then some .up
  else some (.name (.ofList segment))

/-- The parts of a path. -/
def parts (path : String) : List Part :=
  match path.toList.splitOn '/' with
  | [] | [[]] => []
  | [] :: rest => .root :: rest.filterMap partOf?
  | first :: rest =>
    (if first = ['.'] then [.here] else []) ++ (first :: rest).filterMap partOf?

/-- The texts name the same path. -/
def same (a b : String) : Bool := parts a = parts b

/-- The path begins with a slash. -/
def isAbsolute (path : String) : Bool := path.toList.head? = some '/'

/-- The path as seen from a base; an absolute path stays what it is. -/
def join (base path : String) : String :=
  if isAbsolute path then path
  else if base.toList.getLast?.all (· = '/') then base ++ path
  else base ++ "/" ++ path

/-- What follows the parts of the base. -/
def stripBase? (base path : List Part) : Option (List Part) := base.isPrefixOf? path

/-- The path's last part, if it is a name. -/
def fileName? (path : String) : Option String :=
  match (parts path).getLast? with
  | some (.name text) => some text
  | _ => none

/-- Something follows the last dot of the name, or nothing does; a name whose only dot is its
first character has no extension. -/
def hasExtension (path : String) : Bool :=
  match fileName? path with
  | some name => name.toList.tail.contains '.'
  | none => false

end Sidecheck.Path
