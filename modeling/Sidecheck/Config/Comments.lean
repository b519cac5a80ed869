/-!
# Comments in JSON

A configuration may hold comments, from `//` to the end of the line and between `/*` and `*/`.
They are taken out, everything else stays: a line comment's line feed, and whatever stands in a
string.
-/

namespace Sidecheck.Comments

/-- Where the next character stands. -/
inductive Place
  | code
  | string
  /-- Behind a backslash in a string. -/
  | escape
  | line
  | block
deriving DecidableEq, Repr

/-- The text that goes on from a place, without the comments. -/
def removeFrom : Place → List Char → List Char
  | _, [] => []
  | .string, c :: rest =>
    c :: removeFrom (if c = '"' then .code else if c = '\\' then .escape else .string) rest
  | .escape, c :: rest => c :: removeFrom .string rest
  | .code, '/' :: '/' :: rest => removeFrom .line rest
  | .code, '/' :: '*' :: rest => removeFrom .block rest
  | .code, c :: rest => c :: removeFrom (if c = '"' then .string else .code) rest
  | .line, c :: rest => if c = '\n' then c :: removeFrom .code rest else removeFrom .line rest
  | .block, '*' :: '/' :: rest => removeFrom .code rest
  | .block, _ :: rest => removeFrom .block rest

/-- The text without its comments. -/
def remove (cs : List Char) : List Char := removeFrom .code cs

/-- Taking out comments only ever takes characters out. -/
theorem removeFrom_sublist (place : Place) (cs : List Char) : (removeFrom place cs).Sublist cs := by
  fun_induction removeFrom place cs <;> simp_all [List.Sublist.cons]

end Sidecheck.Comments
