import Tilewright.Terrain
import Tilewright.Text.Decimal
import Tilewright.Text.Quoted

/-!
# Rows

A row of the catalogue has nineteen fields: name, short name, eight move costs, defense, income,
repair, hideaway, vision, land, shallow, value and description. `Terrain.ofFields` reads them. The
numbers are checked from left to right, and the first bad one is reported with its column.

* A flag is set by the field `1` and by nothing else.
* A dash stands for no vision, and for no value; any other value field means that the tile holds a
  value.
-/

namespace Tilewright

/-- The number of fields in a row. -/
def fieldCount : Nat := 19

/-- The columns that hold a number. -/
inductive Column where
  | cost (moveType : MoveType)
  | defense
  | vision
deriving DecidableEq, Repr

/-- The name of a column. -/
def Column.name : Column → Text
  | .cost moveType => moveType.tagName
  | .defense => "defense".toList
  | .vision => "vision".toList

/-- Why a line of the catalogue is not a row. -/
inductive RowFault where
  /-- A quote stays open, or a backslash ends the line. -/
  | unbalancedQuotes
  /-- The line has `found` fields. -/
  | fieldCount (found : Nat)
  /-- The column does not hold a number that fits. -/
  | badNumber (column : Column) (field : Text)
deriving DecidableEq, Repr

/-- The reason given for a line that is not a row. -/
def RowFault.reason : RowFault → Text
  | .unbalancedQuotes => "unbalanced quotes".toList
  | .fieldCount found =>
    "expected ".toList ++ Decimal.ofNat Tilewright.fieldCount ++ " fields, found ".toList ++
      Decimal.ofNat found
  | .badNumber column field =>
    "column `".toList ++ column.name ++ "` expects a non-negative integer, found ".toList ++
      Quoted.quote field

namespace Terrain

/-- A flag is set by the field `1`. -/
def isSet (field : Text) : Bool :=
  field = ['1']

/-- The field that stands for no vision and for no value. -/
def dash : Text := ['-']

/-- Reads the field of a move cost. -/
def costOfField (moveType : MoveType) (field : Text) : Except RowFault UInt32 :=
  match Decimal.readUInt32? field with
  | some cost => .ok cost
  | none => .error (.badNumber (.cost moveType) field)

/-- Reads the field of a number that may have a sign. -/
def numberOfField (column : Column) (field : Text) : Except RowFault Int32 :=
  match Decimal.readInt32? field with
  | some n => .ok n
  | none => .error (.badNumber column field)

@[simp] theorem costOfField_ofNat (moveType : MoveType) (cost : UInt32) :
    costOfField moveType (Decimal.ofNat cost.toNat) = .ok cost := by
  simp [costOfField]

@[simp] theorem numberOfField_ofInt (column : Column) (n : Int32) :
    numberOfField column (Decimal.ofInt n.toInt) = .ok n := by
  simp [numberOfField]

/-- Reads the field of the vision. -/
def visionOfField (field : Text) : Except RowFault Int32 :=
  if field = dash then .ok 0 else numberOfField .vision field

@[simp] theorem visionOfField_ofInt (n : Int32) :
    visionOfField (Decimal.ofInt n.toInt) = .ok n := by
  have noDash : Decimal.ofInt n.toInt ≠ dash := by
    intro h
    have read := Decimal.readInt32?_ofInt n
    have unread : Decimal.readInt32? dash = none := by decide
    rw [h, unread] at read
    exact absurd read (by simp)
  simp [visionOfField, noDash]

/-- The terrain that the fields of a row describe. -/
def ofFields : List Text → Except RowFault Terrain
  | [name, shortName, infantry, mech, treadA, treadB, tire, air, ship, transport, defense, income,
      repair, hideaway, vision, land, shallow, value, description] => do
    let infantry ← costOfField .infantry infantry
    let mech ← costOfField .mech mech
    let treadA ← costOfField .treadA treadA
    let treadB ← costOfField .treadB treadB
    let tire ← costOfField .tire tire
    let air ← costOfField .air air
    let ship ← costOfField .ship ship
    let transport ← costOfField .transport transport
    let defense ← numberOfField .defense defense
    let vision ← visionOfField vision
    return {
      name, shortName, description
      moveCosts := { infantry, mech, treadA, treadB, tire, air, ship, transport }
      defense, vision
      generatesIncome := isSet income
      repair := .ofCode repair
      hidesUnits := isSet hideaway
      isLand := isSet land
      isShallowWater := isSet shallow
      holdsValue := value ≠ dash }
  | fields => .error (.fieldCount fields.length)

end Terrain

end Tilewright
