import Tilewright.Substitution
import Tilewright.Terrain
import Tilewright.Text.Decimal

/-!
# Placeholders

A region says where the properties of a terrain go. The word `Template` stands for the name of the
class, and a tag, a name between comment marks as in `/*land*/`, stands for a property, written as a
literal of the generated code. `Terrain.substitutions` lists the placeholders of a terrain in the
order in which they are filled.
-/

namespace Tilewright

namespace Placeholder

/-- The tag of a name. -/
def tag (name : Text) : Text :=
  "/*".toList ++ name ++ "*/".toList

/-- A string of the generated code. The text is taken over as it is. -/
def stringLiteral (text : Text) : Text :=
  '"' :: text ++ ['"']

/-- A truth value of the generated code. -/
def boolLiteral (value : Bool) : Text :=
  if value then "true".toList else "false".toList

/-- A class of units in the generated code. -/
def repairLiteral (repair : Repair) : Text :=
  "UnitClass.".toList ++ repair.name

/-- The word that stands for the name of the class. -/
def classWord : Text := "Template".toList

/-- The least value that a tile may hold. -/
def leastValue : Nat := 0

/-- The greatest value that a tile may hold. -/
def greatestValue : Nat := 99

/-- The members of a class whose tiles hold a value. -/
def valueMembers : Text :=
  "\n        _value = 0;\n        get value() \x7b return this._value; \x7d\n".toList ++
    "        set value(n) \x7b this._value = Common.bindValue(n, ".toList ++
    Decimal.ofNat leastValue ++ ", ".toList ++ Decimal.ofNat greatestValue ++ "); \x7d\n".toList

/-- The substitution for the tag of a name. -/
def fill (name : String) (replacement : Text) : Substitution :=
  ⟨tag name.toList, replacement⟩

/-- The substitution for the tag of a move type. -/
def fillCost (costs : MoveCosts) (m : MoveType) : Substitution :=
  ⟨tag m.tagName, Decimal.ofNat (costs.cost m).toNat⟩

end Placeholder

open Placeholder in
/-- The placeholders of a terrain and what is written for them, in the order in which they are
filled. The serial is the terrain's place in the catalogue, counted from zero. -/
def Terrain.substitutions (terrain : Terrain) (serial : Nat) : List Substitution :=
  [⟨classWord, terrain.className⟩,
    fill "serial" (Decimal.ofNat serial),
    fill "land" (boolLiteral terrain.isLand),
    fill "shallow" (boolLiteral terrain.isShallowWater),
    fill "name" (stringLiteral terrain.name),
    fill "short name" (stringLiteral terrain.shortName),
    fill "defense" (Decimal.ofInt terrain.defense.toInt),
    fill "income" (boolLiteral terrain.generatesIncome),
    fill "repair" (repairLiteral terrain.repair),
    fill "hideaway" (boolLiteral terrain.hidesUnits),
    fill "vision" (Decimal.ofInt terrain.vision.toInt),
    fill "desc" (stringLiteral terrain.description)] ++
  MoveType.all.map (fillCost terrain.moveCosts) ++
  [fill "move costs" (Text.joinWith ", ".toList
      (terrain.moveCosts.toList.map fun (_, cost) => Decimal.ofNat cost.toNat)),
    fill "value" (if terrain.holdsValue then valueMembers else [])]

/-- The needles are the same for every terrain. -/
theorem Terrain.needles_substitutions (terrain other : Terrain) (serial otherSerial : Nat) :
    (terrain.substitutions serial).map Substitution.needle =
      (other.substitutions otherSerial).map Substitution.needle := by
  simp [substitutions, Placeholder.fill, Placeholder.fillCost, Function.comp_def]

end Tilewright
