import Sidecheck.Disk
import Sidecheck.Payload
/-!
# The overlay file

Payloads reach the overlay through a file that a server follows, one line of JSON for each.
Nothing here reports an error: where no file can be created, payloads are dropped.
-/

namespace Sidecheck

/-- The file that payloads are written to. -/
structure OverlayFile where
  path : String
  /-- The names that lead to the open file; none if it could not be created. -/
  place? : Option (List String)
deriving DecidableEq, Repr

namespace OverlayFile

/-- Creates the file, or empties the one that is there. -/
def create (disk : Disk) (path : String) : Disk × OverlayFile :=
  let (disk, place?) := disk.createFile path
  (disk, { path, place? })

/-- What a payload adds to the file. -/
def lineBytes (p : Payload) : ByteArray := (p.line ++ "\n").toUTF8

/-- Writes a payload. -/
def post (o : OverlayFile) (disk : Disk) (p : Payload) : Disk :=
  o.place?.elim disk fun place => disk.append place (lineBytes p)

/-- Writes payloads one by one. -/
def postAll (o : OverlayFile) (disk : Disk) (ps : List Payload) : Disk := ps.foldl o.post disk

end OverlayFile

end Sidecheck
