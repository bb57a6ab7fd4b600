import Tilewright.Journal
import Tilewright.Text.Line
import Tilewright.Text.Word

/-!
# Reading catalogues

A catalogue is a header line, which is never looked at, and one row per line behind it. The rows
are read in order, and each one that is read is reported. The first line that is not a row ends the
reading, a blank line included; nothing behind it is looked at.
-/

namespace Tilewright.Catalogue

/-- Reads the fields of a row, and reports the terrain with the number of its line. -/
def readFields (line : Nat) (fields : List Text) : Outcome Terrain :=
  match Terrain.ofFields fields with
  | .error fault => ⟨[], .error (.badRow line fault)⟩
  | .ok terrain =>
    ⟨[.rowDecoded line terrain.name terrain.moveCosts.impassable], .ok terrain⟩

/-- The fields of a line. A mark `#` is a character like any other. -/
def fields? (line : Text) : Option (List Text) :=
  Word.split true (Word.escapeMarks line)

/-- Reads a row from the line with this number. -/
def readRow (number : Nat) (line : Text) : Outcome Terrain :=
  match fields? line with
  | none => ⟨[], .error (.badRow number .unbalancedQuotes)⟩
  | some fields => readFields number fields

/-- Reads rows from consecutive lines, of which the first has this number. -/
def readRows : (number : Nat) → List Text → Outcome (List Terrain)
  | _, [] => return []
  | number, line :: lines => do
    let terrain ← readRow number line
    let terrains ← readRows (number + 1) lines
    return terrain :: terrains

/-- Reads the rows behind the header. Lines are counted from one, with the header. -/
def read (text : Text) : Outcome (List Terrain) :=
  readRows 2 (text.lines.drop 1)

/-- Reads the catalogue that a file holds, and reports how many rows it has. -/
def load (path : Path) (contents : Except FileFault Text) : Outcome (List Terrain) :=
  match contents with
  | .error fault => ⟨[], .error (.file path fault)⟩
  | .ok text => do
    let terrains ← read text
    Outcome.report (.catalogueLoaded path terrains.length)
    return terrains

end Tilewright.Catalogue
