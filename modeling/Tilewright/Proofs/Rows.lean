import Tilewright.Proofs.Columns
import Tilewright.Proofs.Numerals
import Tilewright.Proofs.Replacement

/-!
# Which fields are a row

A row is told from its fields by what is documented about them: how many there are, and what stands
in the columns of numbers. Everything else a field may hold is allowed and means something.

* `Column.Holds` says which number a field stands for in its column, in terms of numerals.
* `Terrain.Describes` says what the fields of a row say about the terrain. It leaves nothing open:
  fields describe one terrain at most (`Describes.unique`).
* `Terrain.Refused` gives the reason why fields are no row. Of several bad columns the leftmost one
  is named.
* `Catalogue.readFields_iff`: the reader of rows returns the terrain that is described, or the error
  with the reason.
-/

namespace Tilewright

open Decimal

/-! ## One column -/

namespace Column

/-- The field stands for the number in the column. -/
inductive Holds : Column → Text → Int → Prop where
  | cost {moveType : MoveType} {field : Text} {n : Nat} (numeral : UnsignedNumeral field n)
      (upper : n < 2 ^ 32) : Holds (.cost moveType) field n
  | defense {field : Text} {i : Int} (numeral : SignedNumeral field i) (lower : -2 ^ 31 ≤ i)
      (upper : i < 2 ^ 31) : Holds .defense field i
  | vision {field : Text} {i : Int} (numeral : SignedNumeral field i) (lower : -2 ^ 31 ≤ i)
      (upper : i < 2 ^ 31) : Holds .vision field i
  | noVision : Holds .vision ['-'] 0

variable {column : Column} {field : Text}

/-- A column can hold the fields that stand for a number in it. -/
theorem fits_iff : column.fits field = true ↔ ∃ i, column.Holds field i := by
  cases column with
  | cost moveType =>
    show (readUInt32? field).isSome = true ↔ _
    rw [isSome_readUInt32?_iff]
    constructor
    · rintro ⟨n, hnumeral, hupper⟩
      exact ⟨n, .cost hnumeral hupper⟩
    · rintro ⟨i, hholds⟩
      cases hholds with
      | cost hnumeral hupper => exact ⟨_, hnumeral, hupper⟩
  | defense =>
    show (readInt32? field).isSome = true ↔ _
    rw [isSome_readInt32?_iff]
    constructor
    · rintro ⟨i, hnumeral, hlower, hupper⟩
      exact ⟨i, .defense hnumeral hlower hupper⟩
    · rintro ⟨i, hholds⟩
      cases hholds with
      | defense hnumeral hlower hupper => exact ⟨i, hnumeral, hlower, hupper⟩
  | vision =>
    unfold fits
    rw [Bool.or_eq_true, decide_eq_true_eq, isSome_readInt32?_iff]
    constructor
    · rintro (rfl | ⟨i, hnumeral, hlower, hupper⟩)
      · exact ⟨0, .noVision⟩
      · exact ⟨i, .vision hnumeral hlower hupper⟩
    · rintro ⟨i, hholds⟩
      cases hholds with
      | vision hnumeral hlower hupper => exact .inr ⟨i, hnumeral, hlower, hupper⟩
      | noVision => exact .inl rfl

/-- A field stands for one number only. -/
theorem Holds.unique {i j : Int} (hi : column.Holds field i) (hj : column.Holds field j) :
    i = j := by
  cases hi with
  | cost hnumeral _ =>
    cases hj with
    | cost hother _ => exact congrArg Int.ofNat (hnumeral.unique hother)
  | defense hnumeral _ _ =>
    cases hj with
    | defense hother _ _ => exact hnumeral.unique hother
  | vision hnumeral _ _ =>
    cases hj with
    | vision hother _ _ => exact hnumeral.unique hother
    | noVision => exact absurd hnumeral (not_signedNumeral_dash i)
  | noVision =>
    cases hj with
    | vision hother _ _ => exact absurd hother (not_signedNumeral_dash j)
    | noVision => rfl

/-- A column is at fault when its field stands for no number. -/
theorem fieldFault?_eq_some_iff {fault : RowFault} :
    column.fieldFault? field = some fault ↔
      (¬ ∃ i, column.Holds field i) ∧ fault = .badNumber column field := by
  rw [← fits_iff]
  unfold fieldFault?
  cases column.fits field <;> simp [eq_comm]

end Column

/-- Three letters stand for the three classes that can be repaired. -/
theorem Repair.ofCode_iff (code : Text) :
    (Repair.ofCode code = .ground ↔ code = ['G']) ∧
      (Repair.ofCode code = .naval ↔ code = ['N']) ∧
      (Repair.ofCode code = .air ↔ code = ['A']) := by
  unfold Repair.ofCode
  by_cases hground : code = ['G']
  · simp [hground]
  · by_cases hnaval : code = ['N']
    · simp [hnaval]
    · by_cases hair : code = ['A'] <;> simp [hground, hnaval, hair]

namespace Terrain

/-! ## What fields say -/

/-- The number that a terrain has in a column. -/
def number (terrain : Terrain) : Column → Int
  | .cost moveType => (terrain.moveCosts.cost moveType).toNat
  | .defense => terrain.defense.toInt
  | .vision => terrain.vision.toInt

/-- The fields are a row, and the row says this about the terrain. -/
structure Describes (fields : List Text) (terrain : Terrain) : Prop where
  length : fields.length = 19
  name : fields[0]? = some terrain.name
  shortName : fields[1]? = some terrain.shortName
  /-- In each column of numbers stands the number that the terrain has there. -/
  numbers : ∀ column : Column, column.Holds (column.field fields) (terrain.number column)
  generatesIncome : terrain.generatesIncome = true ↔ fields[11]? = some ['1']
  ground : terrain.repair = .ground ↔ fields[12]? = some ['G']
  naval : terrain.repair = .naval ↔ fields[12]? = some ['N']
  air : terrain.repair = .air ↔ fields[12]? = some ['A']
  hidesUnits : terrain.hidesUnits = true ↔ fields[13]? = some ['1']
  isLand : terrain.isLand = true ↔ fields[15]? = some ['1']
  isShallowWater : terrain.isShallowWater = true ↔ fields[16]? = some ['1']
  /-- Every other field counts as a value, a zero and an empty one included. -/
  holdsValue : terrain.holdsValue = true ↔ fields[17]? ≠ some ['-']
  description : fields[18]? = some terrain.description

/-- The fields are no row, for this reason. -/
inductive Refused (fields : List Text) : RowFault → Text → Prop where
  | fieldCount (h : fields.length ≠ 19) :
      Refused fields (.fieldCount fields.length)
        ("expected 19 fields, found ".toList ++ Decimal.ofNat fields.length)
  /-- The columns before this one hold numbers. -/
  | badNumber {before behind : List Column} {column : Column} (length : fields.length = 19)
      (columns : Column.all = before ++ column :: behind)
      (good : ∀ earlier ∈ before, ∃ i, earlier.Holds (earlier.field fields) i)
      (bad : ¬ ∃ i, column.Holds (column.field fields) i) :
      Refused fields (.badNumber column (column.field fields))
        ("column `".toList ++ column.name ++ "` expects a non-negative integer, found ".toList ++
          Quoted.quote (column.field fields))

variable {fields : List Text} {terrain : Terrain}

/-! ## What a column is read as -/

theorem holds_of_costOfField_eq_ok {moveType : MoveType} {field : Text} {cost : UInt32}
    (h : costOfField moveType field = .ok cost) :
    (Column.cost moveType).Holds field cost.toNat := by
  unfold costOfField at h
  split at h
  · next hread =>
    rw [Except.ok.inj h, readUInt32?_eq_some_iff] at hread
    exact .cost hread cost.toNat_lt
  · cases h

theorem signedNumeral_of_numberOfField_eq_ok {column : Column} {field : Text} {value : Int32}
    (h : numberOfField column field = .ok value) :
    SignedNumeral field value.toInt ∧ -2 ^ 31 ≤ value.toInt ∧ value.toInt < 2 ^ 31 := by
  unfold numberOfField at h
  split at h
  · next hread =>
    rw [Except.ok.inj h, readInt32?_eq_some_iff] at hread
    exact ⟨hread, value.minValue_le_toInt, Int.lt_of_le_sub_one value.toInt_le⟩
  · cases h

theorem holds_of_visionOfField_eq_ok {field : Text} {vision : Int32}
    (h : visionOfField field = .ok vision) : Column.vision.Holds field vision.toInt := by
  unfold visionOfField at h
  split at h
  · next hdash =>
    rw [hdash, ← Except.ok.inj h]
    exact .noVision
  · rcases signedNumeral_of_numberOfField_eq_ok h with ⟨hnumeral, hlower, hupper⟩
    exact .vision hnumeral hlower hupper

/-! ## What a row is read as -/

/-- The terrain that is read is described by the fields. -/
theorem describes_of_ofFields_eq_ok (h : ofFields fields = .ok terrain) :
    Describes fields terrain := by
  have hlength : fields.length = fieldCount := (exists_ofFields_eq_ok_iff.1 ⟨terrain, h⟩).1
  match fields, hlength with
  | [name, shortName, infantry, mech, treadA, treadB, tire, air, ship, transport, defense, income,
      repair, hideaway, vision, land, shallow, value, description], _ =>
    simp only [ofFields, Except.bind_eq_ok] at h
    obtain ⟨_, hinfantry, _, hmech, _, htreadA, _, htreadB, _, htire, _, hair, _, hship, _,
      htransport, _, hdefense, _, hvision, hterrain⟩ := h
    rw [← Except.ok.inj hterrain]
    have hrepair := Repair.ofCode_iff repair
    refine
      { length := rfl, name := rfl, shortName := rfl, description := rfl
        numbers := ?numbers
        ground := by simp [hrepair], naval := by simp [hrepair], air := by simp [hrepair]
        generatesIncome := by simp [isSet], hidesUnits := by simp [isSet]
        isLand := by simp [isSet], isShallowWater := by simp [isSet]
        holdsValue := by rw [decide_eq_true_iff]; simp [dash] }
    intro column
    cases column with
    | cost moveType =>
      cases moveType with
      | infantry => exact holds_of_costOfField_eq_ok hinfantry
      | mech => exact holds_of_costOfField_eq_ok hmech
      | treadA => exact holds_of_costOfField_eq_ok htreadA
      | treadB => exact holds_of_costOfField_eq_ok htreadB
      | tire => exact holds_of_costOfField_eq_ok htire
      | air => exact holds_of_costOfField_eq_ok hair
      | ship => exact holds_of_costOfField_eq_ok hship
      | transport => exact holds_of_costOfField_eq_ok htransport
    | defense =>
      rcases signedNumeral_of_numberOfField_eq_ok hdefense with ⟨hnumeral, hlower, hupper⟩
      exact .defense hnumeral hlower hupper
    | vision => exact holds_of_visionOfField_eq_ok hvision

/-- Two terrains with the same numbers have the same costs, defense and vision. -/
theorem numbers_eq_of_number_eq {other : Terrain} (hnumber : terrain.number = other.number) :
    terrain.moveCosts = other.moveCosts ∧ terrain.defense = other.defense ∧
      terrain.vision = other.vision := by
  have hcost : terrain.moveCosts.cost = other.moveCosts.cost := by
    funext moveType
    have hmoveType := congrFun hnumber (.cost moveType)
    exact UInt32.toNat_inj.1 (Int.ofNat.inj hmoveType)
  have hcosts : terrain.moveCosts = other.moveCosts := by
    rw [← MoveCosts.ofCost_cost terrain.moveCosts, hcost, MoveCosts.ofCost_cost]
  exact ⟨hcosts, Int32.toInt_inj.1 (congrFun hnumber .defense),
    Int32.toInt_inj.1 (congrFun hnumber .vision)⟩

/-- Two terrains are the same if they have the same texts, numbers, flags and repair. -/
theorem eq_of_number_eq {other : Terrain} (hname : terrain.name = other.name)
    (hshortName : terrain.shortName = other.shortName)
    (hdescription : terrain.description = other.description)
    (hnumber : terrain.number = other.number) (hrepair : terrain.repair = other.repair)
    (hincome : terrain.generatesIncome = other.generatesIncome)
    (hhides : terrain.hidesUnits = other.hidesUnits) (hland : terrain.isLand = other.isLand)
    (hshallow : terrain.isShallowWater = other.isShallowWater)
    (hvalue : terrain.holdsValue = other.holdsValue) : terrain = other := by
  rcases numbers_eq_of_number_eq hnumber with ⟨hcosts, hdefense, hvision⟩
  cases terrain
  cases other
  simp_all

/-- Fields describe one terrain only. -/
theorem Describes.unique {other : Terrain} (h : Describes fields terrain)
    (hother : Describes fields other) : terrain = other := by
  have hnumber : terrain.number = other.number := by
    funext column
    exact (h.numbers column).unique (hother.numbers column)
  have hrepair : terrain.repair = other.repair := by
    have hground := h.ground.trans hother.ground.symm
    have hnaval := h.naval.trans hother.naval.symm
    have hair := h.air.trans hother.air.symm
    cases hclass : terrain.repair <;> cases hclass' : other.repair <;> simp_all
  exact eq_of_number_eq (Option.some.inj (h.name.symm.trans hother.name))
    (Option.some.inj (h.shortName.symm.trans hother.shortName))
    (Option.some.inj (h.description.symm.trans hother.description)) hnumber hrepair
    (Bool.eq_iff_iff.2 (h.generatesIncome.trans hother.generatesIncome.symm))
    (Bool.eq_iff_iff.2 (h.hidesUnits.trans hother.hidesUnits.symm))
    (Bool.eq_iff_iff.2 (h.isLand.trans hother.isLand.symm))
    (Bool.eq_iff_iff.2 (h.isShallowWater.trans hother.isShallowWater.symm))
    (Bool.eq_iff_iff.2 (h.holdsValue.trans hother.holdsValue.symm))

/-- Nineteen fields are a row if every column of numbers holds one. -/
theorem exists_ofFields_eq_ok_iff_holds :
    (∃ terrain, ofFields fields = .ok terrain) ↔
      fields.length = 19 ∧ ∀ column : Column, ∃ i, column.Holds (column.field fields) i := by
  rw [exists_ofFields_eq_ok_iff]
  refine and_congr Iff.rfl (forall_congr' fun column => ?_)
  exact Column.fits_iff

/-- A terrain is read from the fields that describe it. -/
theorem ofFields_eq_ok_iff : ofFields fields = .ok terrain ↔ Describes fields terrain := by
  constructor
  · exact describes_of_ofFields_eq_ok
  · intro h
    have hread : ∃ other, ofFields fields = .ok other :=
      exists_ofFields_eq_ok_iff_holds.2 ⟨h.length, fun column => ⟨_, h.numbers column⟩⟩
    rcases hread with ⟨other, hother⟩
    rw [h.unique (describes_of_ofFields_eq_ok hother)]
    exact hother

/-! ## Why fields are no row -/

theorem ofFields_eq_error_iff_fault?_eq {fault : RowFault} :
    ofFields fields = .error fault ↔ fault? (ofFields fields) = some fault := by
  cases ofFields fields <;> simp [fault?]

/-- The leftmost column that holds no number is at fault. -/
theorem firstFault?_eq_some_iff {fault : RowFault} (h : fields.length = 19) :
    Column.firstFault? fields = some fault ↔ ∃ reason, Refused fields fault reason := by
  unfold Column.firstFault?
  rw [List.findSome?_eq_some_iff]
  constructor
  · rintro ⟨before, column, behind, hcolumns, hbad, hgood⟩
    rw [Column.fieldFault?_eq_some_iff] at hbad
    rw [hbad.2]
    refine ⟨_, .badNumber h hcolumns (fun earlier hearlier => ?_) hbad.1⟩
    exact Column.fits_iff.1 (Column.fieldFault?_eq_none_iff.1 (hgood earlier hearlier))
  · rintro ⟨reason, hrefused⟩
    cases hrefused with
    | fieldCount hne => exact absurd h hne
    | @badNumber before behind column _ hcolumns hgood hbad =>
      refine ⟨before, column, behind, hcolumns, Column.fieldFault?_eq_some_iff.2 ⟨hbad, rfl⟩, ?_⟩
      intro earlier hearlier
      exact Column.fieldFault?_eq_none_iff.2 (Column.fits_iff.2 (hgood earlier hearlier))

/-- The reason is the one that the fault gives. -/
theorem Refused.reason_eq {fault : RowFault} {reason : Text} (h : Refused fields fault reason) :
    fault.reason = reason := by
  cases h with
  | fieldCount _ => rfl
  | badNumber _ _ _ _ => rfl

theorem ofFields_eq_error_iff {fault : RowFault} :
    ofFields fields = .error fault ↔ Refused fields fault fault.reason := by
  by_cases hlength : fields.length = 19
  · rw [ofFields_eq_error_iff_fault?_eq, fault?_ofFields hlength,
      firstFault?_eq_some_iff hlength]
    constructor
    · rintro ⟨reason, hrefused⟩
      rwa [hrefused.reason_eq]
    · intro hrefused
      exact ⟨_, hrefused⟩
  · rw [ofFields_of_length_ne hlength]
    constructor
    · intro h
      rw [← Except.error.inj h]
      exact .fieldCount hlength
    · intro h
      cases h with
      | fieldCount _ => rfl
      | badNumber h _ _ _ => exact absurd h hlength

end Terrain

/-! ## Lines -/

/-- The reader of rows returns what the fields are read as. -/
theorem Catalogue.result_readFields_eq_ok_iff {line : Nat} {fields : List Text}
    {terrain : Terrain} :
    (readFields line fields).result = .ok terrain ↔ Terrain.ofFields fields = .ok terrain := by
  unfold readFields
  cases Terrain.ofFields fields <;> simp

/-- The reader of rows accepts exactly the fields that describe a terrain, and of the others it says
what is wrong with them: their number, or else the leftmost column that holds no number. -/
theorem Catalogue.readFields_iff (line : Nat) (fields : List Text) :
    Column.all.map (fun column => (column.name, column.place)) =
        [("inf".toList, 2), ("mch".toList, 3), ("trA".toList, 4), ("trB".toList, 5),
          ("trd".toList, 6), ("air".toList, 7), ("shp".toList, 8), ("trp".toList, 9),
          ("defense".toList, 10), ("vision".toList, 14)] ∧
      ((∃ terrain, (readFields line fields).result = .ok terrain) ↔
        fields.length = 19 ∧ ∀ column : Column, ∃ i, column.Holds (column.field fields) i) ∧
      (∀ terrain, (readFields line fields).result = .ok terrain ↔
        Terrain.Describes fields terrain) ∧
      ∀ error, (readFields line fields).result = .error error ↔
        ∃ fault, error = .badRow line fault ∧ Terrain.Refused fields fault fault.reason := by
  have hresult : (readFields line fields).result =
      (Terrain.ofFields fields).mapError (.badRow line) := by
    unfold readFields
    cases Terrain.ofFields fields <;> rfl
  have hok (terrain : Terrain) : (readFields line fields).result = .ok terrain ↔
      Terrain.ofFields fields = .ok terrain := by
    rw [hresult]
    cases Terrain.ofFields fields <;> simp [Except.mapError]
  refine ⟨by decide, ?accepted, ?terrain, ?refused⟩
  case accepted =>
    simp only [hok]
    exact Terrain.exists_ofFields_eq_ok_iff_holds
  case terrain =>
    intro terrain
    rw [hok]
    exact Terrain.ofFields_eq_ok_iff
  case refused =>
    intro error
    simp only [← Terrain.ofFields_eq_error_iff]
    rw [hresult]
    cases Terrain.ofFields fields <;> simp [Except.mapError, eq_comm]

end Tilewright
