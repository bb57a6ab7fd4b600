import Tilewright.Proofs.Obstacles

/-!
# Columns of numbers

Ten columns of a row hold numbers. They are read from left to right, and each by itself: whether a
column can hold its field does not depend on the other fields.

* `Column.fits` says which fields a column can hold.
* `Terrain.fault?_ofFields`: the fault of nineteen fields is that of the first column that cannot
  hold its field.
* `Terrain.exists_ofFields_eq_ok_iff`: fields describe a terrain if and only if there are nineteen
  of them and every column can hold its own.
-/

namespace Tilewright

/-- The faults of a second stage count only if the first stage has none. -/
theorem Except.fault?_bind {ε α β : Type} {first : Except ε α} {next : α → Except ε β}
    {fault : Option ε} (hnext : ∀ a, fault? (next a) = fault) :
    fault? (first >>= next) = (fault? first).or fault := by
  cases first with
  | error error => rfl
  | ok a => exact hnext a

theorem exists_eq_ok_iff_fault?_eq_none {ε α : Type} {result : Except ε α} :
    (∃ a, result = .ok a) ↔ fault? result = none := by
  cases result <;> simp [fault?]

theorem findSome?_cons_eq_or {α β : Type} (f : α → Option β) (a : α) (more : List α) :
    (a :: more).findSome? f = (f a).or (more.findSome? f) := by
  rw [List.findSome?_cons]
  cases f a <;> rfl

namespace Column

/-- The columns of numbers, in the order in which they are read. -/
def all : List Column :=
  MoveType.all.map .cost ++ [.defense, .vision]

@[simp] theorem mem_all (column : Column) : column ∈ all := by
  cases column <;> simp [all]

/-- The place of a column in a row, counted from zero. -/
def place : Column → Nat
  | .cost moveType => 2 + MoveType.all.idxOf moveType
  | .defense => 10
  | .vision => 14

/-- Tells whether a column can hold a field. -/
def fits : Column → Text → Bool
  | .cost _, field => (Decimal.readUInt32? field).isSome
  | .defense, field => (Decimal.readInt32? field).isSome
  | .vision, field => field = Terrain.dash || (Decimal.readInt32? field).isSome

/-- The fault of a column that cannot hold a field. -/
def fieldFault? (column : Column) (field : Text) : Option RowFault :=
  if column.fits field then none else some (.badNumber column field)

/-- The field that a row has in a column. -/
def field (column : Column) (fields : List Text) : Text :=
  fields.getD column.place []

theorem fieldFault?_eq_none_iff {column : Column} {field : Text} :
    column.fieldFault? field = none ↔ column.fits field = true := by
  simp [fieldFault?]

/-! ## One field -/

theorem fault?_costOfField (moveType : MoveType) (field : Text) :
    fault? (Terrain.costOfField moveType field) = (cost moveType).fieldFault? field := by
  unfold Terrain.costOfField fieldFault?
  cases h : Decimal.readUInt32? field <;> simp [fits, fault?, h]

theorem fault?_defenseOfField (field : Text) :
    fault? (Terrain.numberOfField defense field) = defense.fieldFault? field := by
  unfold Terrain.numberOfField fieldFault?
  cases h : Decimal.readInt32? field <;> simp [fits, fault?, h]

theorem fault?_visionOfField (field : Text) :
    fault? (Terrain.visionOfField field) = vision.fieldFault? field := by
  unfold Terrain.visionOfField fieldFault?
  by_cases hdash : field = Terrain.dash
  · simp [fits, fault?, hdash]
  · unfold Terrain.numberOfField
    cases h : Decimal.readInt32? field <;> simp [fits, fault?, hdash, h]

/-! ## All fields -/

/-- The fault of the first column that cannot hold its field. -/
def firstFault? (fields : List Text) : Option RowFault :=
  all.findSome? fun column => column.fieldFault? (column.field fields)

theorem firstFault?_eq_none_iff {fields : List Text} :
    firstFault? fields = none ↔ ∀ column : Column, column.fits (column.field fields) = true := by
  simp [firstFault?, List.findSome?_eq_none_iff, fieldFault?_eq_none_iff]

end Column

namespace Terrain

/-- Of nineteen fields the first one that its column cannot hold is at fault. -/
theorem fault?_ofFields {fields : List Text} (h : fields.length = fieldCount) :
    fault? (ofFields fields) = Column.firstFault? fields := by
  match fields, h with
  | [name, shortName, infantry, mech, treadA, treadB, tire, air, ship, transport, defense, income,
      repair, hideaway, vision, land, shallow, value, description], _ =>
    rw [Column.firstFault?, Column.all, MoveType.all]
    simp only [List.map_cons, List.map_nil, List.cons_append, List.nil_append,
      findSome?_cons_eq_or, List.findSome?_nil, ← Column.fault?_costOfField,
      ← Column.fault?_defenseOfField, ← Column.fault?_visionOfField]
    rw [ofFields]
    -- the numbers are read one after the other, and no fault depends on the numbers before
    iterate 10 refine Except.fault?_bind fun _ => ?_
    rfl

/-- Any other number of fields is at fault by itself. -/
theorem ofFields_of_length_ne {fields : List Text} (h : fields.length ≠ fieldCount) :
    ofFields fields = .error (.fieldCount fields.length) := by
  unfold ofFields
  split
  · exact absurd rfl h
  · rfl

/-- Fields describe a terrain if and only if there are nineteen of them and every column of numbers
can hold its own. -/
theorem exists_ofFields_eq_ok_iff {fields : List Text} :
    (∃ terrain, ofFields fields = .ok terrain) ↔
      fields.length = fieldCount ∧ ∀ column : Column, column.fits (column.field fields) = true := by
  constructor
  · intro h
    have hlength : fields.length = fieldCount := by
      by_contra hne
      rw [ofFields_of_length_ne hne] at h
      simp at h
    rw [exists_eq_ok_iff_fault?_eq_none, fault?_ofFields hlength,
      Column.firstFault?_eq_none_iff] at h
    exact ⟨hlength, h⟩
  · rintro ⟨hlength, hfits⟩
    rw [exists_eq_ok_iff_fault?_eq_none, fault?_ofFields hlength,
      Column.firstFault?_eq_none_iff]
    exact hfits

end Terrain

end Tilewright
