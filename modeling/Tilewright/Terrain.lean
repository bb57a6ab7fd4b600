import Tilewright.Text.Basic

/-!
# Terrains

A terrain is one kind of map tile: what it is called, what it costs each kind of unit to enter it,
and what a unit standing on it gains. The move types stand in the order of the catalogue's
columns, which is also the order of the list of costs that a generated class carries.
-/

namespace Tilewright

/-! ## Moving -/

/-- The ways in which units move. -/
inductive MoveType where
  | infantry
  | mech
  | treadA
  | treadB
  | tire
  | air
  | ship
  | transport
deriving DecidableEq, Repr

namespace MoveType

/-- Every move type, in the order of the catalogue's columns. -/
def all : List MoveType :=
  [.infantry, .mech, .treadA, .treadB, .tire, .air, .ship, .transport]

@[simp] theorem mem_all (m : MoveType) : m ∈ all := by
  cases m <;> decide

/-- The short name of a move type. It names the column in faults and the placeholder in hosts. -/
def tagName : MoveType → Text
  | .infantry => "inf".toList
  | .mech => "mch".toList
  | .treadA => "trA".toList
  | .treadB => "trB".toList
  | .tire => "trd".toList
  | .air => "air".toList
  | .ship => "shp".toList
  | .transport => "trp".toList

end MoveType

/-- What it costs to enter a terrain, by move type. A cost of zero means that the terrain cannot be
entered. -/
structure MoveCosts where
  infantry : UInt32 := 0
  mech : UInt32 := 0
  treadA : UInt32 := 0
  treadB : UInt32 := 0
  tire : UInt32 := 0
  air : UInt32 := 0
  ship : UInt32 := 0
  transport : UInt32 := 0
deriving DecidableEq, Repr

namespace MoveCosts

/-- The cost for one move type. -/
def cost (costs : MoveCosts) : MoveType → UInt32
  | .infantry => costs.infantry
  | .mech => costs.mech
  | .treadA => costs.treadA
  | .treadB => costs.treadB
  | .tire => costs.tire
  | .air => costs.air
  | .ship => costs.ship
  | .transport => costs.transport

/-- The costs that a rule gives to each move type. -/
def ofCost (cost : MoveType → UInt32) : MoveCosts :=
  ⟨cost .infantry, cost .mech, cost .treadA, cost .treadB, cost .tire, cost .air, cost .ship,
    cost .transport⟩

@[simp] theorem cost_ofCost (cost : MoveType → UInt32) : (ofCost cost).cost = cost := by
  funext m
  cases m <;> rfl

@[simp] theorem ofCost_cost (costs : MoveCosts) : ofCost costs.cost = costs := rfl

/-- A terrain can be entered by a move type whose cost is not zero. -/
def isPassable (costs : MoveCosts) (m : MoveType) : Bool :=
  costs.cost m != 0

/-- Every move type with its cost, in the order of the columns. -/
def toList (costs : MoveCosts) : List (MoveType × UInt32) :=
  MoveType.all.map fun m => (m, costs.cost m)

/-- The move types that cannot enter, in the order of the columns. -/
def impassable (costs : MoveCosts) : List MoveType :=
  MoveType.all.filter fun m => !costs.isPassable m

end MoveCosts

/-! ## Repairing -/

/-- The class of units that a terrain repairs. -/
inductive Repair where
  | nothing
  | ground
  | naval
  | air
deriving DecidableEq, Repr

namespace Repair

/-- The class that a letter of the catalogue stands for. Any other word stands for no repair. -/
def ofCode (code : Text) : Repair :=
  if code = ['G'] then .ground
  else if code = ['N'] then .naval
  else if code = ['A'] then .air
  else .nothing

/-- The name of the class. -/
def name : Repair → Text
  | .nothing => "None".toList
  | .ground => "Ground".toList
  | .naval => "Naval".toList
  | .air => "Air".toList

end Repair

/-! ## Terrains -/

/-- A kind of map tile. -/
structure Terrain where
  name : Text := []
  shortName : Text := []
  description : Text := []
  moveCosts : MoveCosts := {}
  /-- What a unit standing here gains in defense. -/
  defense : Int32 := 0
  /-- Whether the owner earns income from it. -/
  generatesIncome : Bool := false
  repair : Repair := .nothing
  /-- Whether units standing here are hidden. -/
  hidesUnits : Bool := false
  /-- How far a unit sees from here. -/
  vision : Int32 := 0
  isLand : Bool := false
  isShallowWater : Bool := false
  /-- Whether the tile holds a value, which changes as the tile is captured. -/
  holdsValue : Bool := false
deriving DecidableEq, Repr

/-- The name of the class generated for a terrain: its name without the spaces. -/
def Terrain.className (terrain : Terrain) : Text :=
  terrain.name.filter (· != ' ')

end Tilewright
