import Sidecheck.Diagnostic
import Sidecheck.Text.Blank
/-!
# The store of current diagnostics

The diagnostics of one checker, file by file, in the order in which the files came in. A file
without diagnostics has no entry. Diagnostics without a file are kept under the key `none`,
which only a full check replaces.
-/

namespace Sidecheck

/-- The current diagnostics, by file. -/
structure Store where
  entries : List (Option String × List Diagnostic)
deriving DecidableEq, Repr

namespace Store

/-- The store without diagnostics. -/
def empty : Store := ⟨[]⟩

/-- Whether the store has an entry for a key. -/
def hasKey (s : Store) (key : Option String) : Bool := s.entries.any (·.1 = key)

/-- Replaces the entry of a key in its place, or adds it at the end. -/
def put (s : Store) (key : Option String) (ds : List Diagnostic) : Store :=
  if s.hasKey key then
    ⟨s.entries.map fun (k, old) => (k, if k = key then ds else old)⟩
  else ⟨s.entries ++ [(key, ds)]⟩

/-- The diagnostics under a key. -/
def find (s : Store) (key : Option String) : List Diagnostic :=
  ((s.entries.find? (·.1 = key)).map (·.2)).getD []

/-- Adds a diagnostic behind those of its file. -/
def add (s : Store) (d : Diagnostic) : Store := s.put d.file (s.find d.file ++ [d])

/-- The store of a full check's diagnostics. -/
def ofList (ds : List Diagnostic) : Store := ds.foldl add empty

/-- Replaces the diagnostics of one file. -/
def update (s : Store) (file : String) (ds : List Diagnostic) : Store :=
  if ds.isEmpty then ⟨s.entries.filter (·.1 ≠ some file)⟩ else s.put (some file) ds

/-- What the names of all files below a directory begin with. -/
def directoryStart (dir : String) : List Char :=
  Text.dropWhileEnd (· = '/') dir.toList ++ ['/']

/-- A key is the name of a file below a directory. -/
def isUnder (dir : String) (key : Option String) : Bool :=
  key.any fun file => (directoryStart dir).isPrefixOf file.toList

/-- Removes every file below a directory; also tells how many there were. -/
def removeUnder (s : Store) (dir : String) : Store × Nat :=
  let kept := s.entries.filter fun (key, _) => !isUnder dir key
  (⟨kept⟩, s.entries.length - kept.length)

/-- All diagnostics, file by file. -/
def flatten (s : Store) : List Diagnostic := s.entries.flatMap (·.2)

/-- The diagnostics of one file. -/
def get (s : Store) (file : String) : List Diagnostic := s.find (some file)

/-- The number of keys with diagnostics. -/
def fileCount (s : Store) : Nat := s.entries.length

/-- The number of diagnostics. -/
def size (s : Store) : Nat := s.entries.foldr (fun entry size => entry.2.length + size) 0

/-- The store holds nothing. -/
def isEmpty (s : Store) : Bool := s.entries.isEmpty

theorem size_eq_length_flatten (s : Store) : s.size = s.flatten.length := by
  rcases s with ⟨entries⟩
  induction entries with
  | nil => rfl
  | cons entry rest ih =>
    simp only [size, flatten, List.foldr_cons, List.flatMap_cons, List.length_append] at ih ⊢
    rw [ih]

end Store

end Sidecheck
