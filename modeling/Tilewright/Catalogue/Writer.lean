import Tilewright.Catalogue.Reader

/-!
# Writing catalogues

A terrain is written down as the nineteen fields of a row, and a catalogue as a header line and one
row per terrain. Flags that are not set, and no repair, are written as a dash.
-/

namespace Tilewright

namespace Terrain

/-- The field of a flag. -/
def fieldOfFlag (set : Bool) : Text :=
  if set then ['1'] else dash

end Terrain

/-- The letter that stands for a class of units, or a dash. -/
def Repair.code : Repair → Text
  | .nothing => Terrain.dash
  | .ground => ['G']
  | .naval => ['N']
  | .air => ['A']

namespace Terrain

/-- The fields of the row that describes a terrain. -/
def toFields (terrain : Terrain) : List Text :=
  [terrain.name, terrain.shortName] ++
  terrain.moveCosts.toList.map (fun (_, cost) => Decimal.ofNat cost.toNat) ++
  [Decimal.ofInt terrain.defense.toInt,
    fieldOfFlag terrain.generatesIncome,
    terrain.repair.code,
    fieldOfFlag terrain.hidesUnits,
    Decimal.ofInt terrain.vision.toInt,
    fieldOfFlag terrain.isLand,
    fieldOfFlag terrain.isShallowWater,
    fieldOfFlag terrain.holdsValue,
    terrain.description]

end Terrain

/-- The row of a terrain, with every field in single quotes and one space between two fields. -/
def Catalogue.writeRow (terrain : Terrain) : Text :=
  Text.joinWith [' '] (terrain.toFields.map (Word.write .single))

/-- The catalogue of terrains under a header. -/
def Catalogue.write (header : Text) (terrains : List Terrain) : Text :=
  header ++ terrains.flatMap fun terrain => '\n' :: writeRow terrain

end Tilewright
