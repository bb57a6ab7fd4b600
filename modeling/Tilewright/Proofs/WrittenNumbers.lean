import Mathlib.Data.List.Basic
import Tilewright.Proofs.Hygiene
import Tilewright.Proofs.Rows

/-!
# Numbers as they are written

A number can be read from many numerals, with a plus sign and with zeros in front. It is written in
one form only, so that whoever reads the generated code cannot take it for another number. What is
read in a column and what is written for the placeholder of the column is the same number.

* `Decimal.Canonical` and `Decimal.SignedCanonical` single out one numeral of each number.
  `Decimal.canonical_iff` and `Decimal.signedCanonical_iff`: numbers are written as this numeral,
  and as no other.
* `Substitution.textsFor` lists what is written for a needle. `Terrain.textsFor_column` and
  `Terrain.textsFor_moveCosts` say it for the columns of numbers.
* `Terrain.numbers_written_as_read`: what is written is the canonical form of what was read, and it
  is read back as the same numbers.
-/

namespace Tilewright

namespace Decimal

/-! ## Canonical numerals -/

/-- The numeral of a number without zeros in front. -/
structure Canonical (text : Text) (n : Nat) : Prop where
  numeral : Numeral text n
  /-- A zero stands in front only if nothing stands behind it. -/
  head : text.head? = some '0' → text = ['0']

/-- The canonical numeral of a number, behind a minus sign if and only if the number is
negative. -/
inductive SignedCanonical : Text → Int → Prop where
  | unsigned {text : Text} {n : Nat} (h : Canonical text n) : SignedCanonical text n
  | minus {digits : Text} {n : Nat} (h : Canonical digits n) (hn : 0 < n) :
      SignedCanonical ('-' :: digits) (-n)

theorem ofNat_digit {d : Nat} (h : d < 10) : ofNat d = [Nat.digitChar d] :=
  Nat.toDigits_of_lt_base h

/-- One more digit behind a number that is not zero. -/
theorem ofNat_append {n d : Nat} (hn : 0 < n) (hd : d < 10) :
    ofNat (10 * n + d) = ofNat n ++ [Nat.digitChar d] := by
  rw [← ofNat_digit hd]
  exact (Nat.toDigits_append_toDigits (by decide) hn hd).symm

/-- A number that is not zero does not start with a zero. -/
theorem head?_ofNat_ne {n : Nat} (hn : 0 < n) : (ofNat n).head? ≠ some '0' := by
  induction n using Nat.strongRecOn with
  | ind n ih =>
    by_cases hdigit : n < 10
    · rw [ofNat_digit hdigit, List.head?_cons, ne_eq, Option.some.injEq, Nat.digitChar_eq_zero]
      exact Nat.ne_of_gt hn
    · -- the first digit is that of the number without its last digit
      have hmore : 0 < n / 10 := by omega
      have hne : ofNat (n / 10) ≠ [] := Nat.toDigits_ne_nil
      rw [← Nat.div_add_mod n 10, ofNat_append hmore (Nat.mod_lt n (by decide)),
        List.head?_append_of_ne_nil _ hne]
      exact ih (n / 10) (by omega) hmore

theorem canonical_ofNat (n : Nat) : Canonical (ofNat n) n where
  numeral := digits?_eq_some_iff.1 (digits?_ofNat n)
  head := by
    intro hhead
    rcases Nat.eq_zero_or_pos n with rfl | hn
    · exact ofNat_digit (by decide)
    · exact absurd hhead (head?_ofNat_ne hn)

/-- A numeral without zeros in front is how its number is written. -/
theorem Canonical.eq_ofNat {text : Text} {n : Nat} (h : Canonical text n) : text = ofNat n := by
  rcases h with ⟨hnumeral, hhead⟩
  induction hnumeral with
  | digit hd => exact (ofNat_digit hd).symm
  | @append digits n d before hd ih =>
    -- more than one digit, so the first one is no zero, and the number before is not zero
    have hfirst : digits.head? ≠ some '0' := by
      intro hzero
      have hall := hhead (by rw [List.head?_append_of_ne_nil _ before.ne_nil, hzero])
      have hlength := congrArg List.length hall
      rw [List.length_append, List.length_singleton, List.length_singleton] at hlength
      exact before.ne_nil (List.eq_nil_of_length_eq_zero (Nat.succ.inj hlength))
    have hdigits : digits = ofNat n := ih fun hzero => absurd hzero hfirst
    have hn : 0 < n := by
      refine Nat.pos_of_ne_zero ?_
      rintro rfl
      exact hfirst (by rw [hdigits, ofNat_digit (by decide)]; rfl)
    rw [ofNat_append hn hd, ← hdigits]

/-- A number is written as its canonical numeral, and as no other. -/
theorem canonical_iff {text : Text} {n : Nat} : Canonical text n ↔ text = ofNat n := by
  constructor
  · exact Canonical.eq_ofNat
  · rintro rfl
    exact canonical_ofNat n

theorem signedCanonical_iff {text : Text} {i : Int} :
    SignedCanonical text i ↔ text = ofInt i := by
  constructor
  · intro h
    cases h with
    | unsigned h => exact canonical_iff.1 h
    | @minus digits n h hn =>
      obtain ⟨m, rfl⟩ := Nat.exists_eq_add_one.2 hn
      rw [canonical_iff.1 h]
      rfl
  · rintro rfl
    cases i with
    | ofNat n => exact .unsigned (canonical_iff.2 rfl)
    | negSucc n => exact .minus (canonical_iff.2 rfl) (Nat.succ_pos n)

/-- What is written is a numeral of the number. -/
theorem signedNumeral_ofInt (i : Int) : SignedNumeral (ofInt i) i :=
  signed?_eq_some_iff.1 (signed?_ofInt i)

end Decimal

/-! ## Placeholders -/

/-- The texts that substitutions have for a needle. -/
def Substitution.textsFor (needle : Text) (substitutions : List Substitution) : List Text :=
  (substitutions.filter fun s => s.needle = needle).map replacement

/-- Where no needle is repeated, each has the one text that stands with it. -/
theorem Substitution.textsFor_of_mem {substitutions : List Substitution}
    (hnodup : (substitutions.map needle).Nodup) {s : Substitution} (hs : s ∈ substitutions) :
    textsFor s.needle substitutions = [s.replacement] := by
  induction substitutions with
  | nil => cases hs
  | cons first more ih =>
    rw [List.map_cons, List.nodup_cons] at hnodup
    have hmore {t : Substitution} (ht : t ∈ more) : t.needle ≠ first.needle := by
      intro hsame
      exact hnodup.1 (hsame ▸ List.mem_map_of_mem ht)
    unfold textsFor at ih ⊢
    rcases List.mem_cons.1 hs with rfl | hs
    · have hnone : more.filter (fun t => t.needle = s.needle) = [] := by
        rw [List.filter_eq_nil_iff]
        intro t ht
        simpa using hmore ht
      rw [List.filter_cons_of_pos (by simp), hnone]
      rfl
    · rw [List.filter_cons_of_neg (by simpa using (hmore hs).symm)]
      exact ih hnodup.2 hs

namespace Terrain

/-- What is written for the placeholder of a name. -/
def textsFor (terrain : Terrain) (serial : Nat) (name : Text) : List Text :=
  Substitution.textsFor (Placeholder.tag name) (terrain.substitutions serial)

theorem textsFor_of_mem {terrain : Terrain} {serial : Nat} {name text : Text}
    (h : ⟨Placeholder.tag name, text⟩ ∈ terrain.substitutions serial) :
    terrain.textsFor serial name = [text] := by
  have hnodup : ((terrain.substitutions serial).map Substitution.needle).Nodup := by
    rw [Placeholder.needles_substitutions_eq]
    exact Placeholder.nodup_needles
  exact Substitution.textsFor_of_mem hnodup h

/-- For the placeholder of a column of numbers the number in the column is written. -/
theorem textsFor_column (terrain : Terrain) (serial : Nat) (column : Column) :
    terrain.textsFor serial column.name = [Decimal.ofInt (terrain.number column)] := by
  apply textsFor_of_mem
  cases column with
  | cost moveType =>
    have hcost : Placeholder.fillCost terrain.moveCosts moveType ∈
        MoveType.all.map (Placeholder.fillCost terrain.moveCosts) :=
      List.mem_map_of_mem (MoveType.mem_all moveType)
    exact List.mem_append_left _ (List.mem_append_right _ hcost)
  | defense => exact List.mem_of_getElem? (i := 6) rfl
  | vision => exact List.mem_of_getElem? (i := 10) rfl

/-- For the placeholder of all move costs they are written in the order of the columns. -/
theorem textsFor_moveCosts (terrain : Terrain) (serial : Nat) :
    terrain.textsFor serial "move costs".toList =
      [Text.joinWith ", ".toList
        (MoveType.all.map fun moveType => Decimal.ofInt (terrain.number (.cost moveType)))] := by
  have hcosts : (terrain.moveCosts.toList.map fun entry => Decimal.ofNat entry.2.toNat) =
      MoveType.all.map fun moveType => Decimal.ofInt (terrain.number (.cost moveType)) := by
    unfold MoveCosts.toList
    rw [List.map_map]
    rfl
  rw [← hcosts]
  apply textsFor_of_mem
  exact List.mem_append_right _ List.mem_cons_self

/-! ## Reading and writing -/

/-- What is written for a column stands for the same number in the column. -/
theorem holds_ofInt_number (terrain : Terrain) (column : Column) :
    column.Holds (Decimal.ofInt (terrain.number column)) (terrain.number column) := by
  cases column with
  | cost moveType =>
    exact .cost (.bare (Decimal.canonical_ofNat _).numeral) (terrain.moveCosts.cost moveType).toNat_lt
  | defense =>
    exact .defense (Decimal.signedNumeral_ofInt _) terrain.defense.minValue_le_toInt
      (Int.lt_of_le_sub_one terrain.defense.toInt_le)
  | vision =>
    exact .vision (Decimal.signedNumeral_ofInt _) terrain.vision.minValue_le_toInt
      (Int.lt_of_le_sub_one terrain.vision.toInt_le)

/-- What is written for the numbers of a terrain, by column, is the canonical form of what its fields
denote. -/
structure WrittenAsRead (fields : List Text) (terrain : Terrain) (serial : Nat)
    (text : Column → Text) : Prop where
  columns : ∀ column : Column, terrain.textsFor serial column.name = [text column]
  cost : ∀ moveType, ∃ n, Decimal.UnsignedNumeral ((Column.cost moveType).field fields) n ∧
    Decimal.Canonical (text (.cost moveType)) n
  defense : ∃ i, Decimal.SignedNumeral (Column.defense.field fields) i ∧
    Decimal.SignedCanonical (text .defense) i
  /-- A dash denotes no number and is written as zero. -/
  vision : (Column.vision.field fields = ['-'] ∧ text .vision = ['0']) ∨
    ∃ i, Decimal.SignedNumeral (Column.vision.field fields) i ∧
      Decimal.SignedCanonical (text .vision) i
  moveCosts : terrain.textsFor serial "move costs".toList =
    [Text.joinWith ", ".toList (MoveType.all.map fun moveType => text (.cost moveType))]

theorem writtenAsRead_of_describes {fields : List Text} {terrain : Terrain}
    (h : Describes fields terrain) (serial : Nat) :
    WrittenAsRead fields terrain serial fun column => Decimal.ofInt (terrain.number column) where
  columns := terrain.textsFor_column serial
  cost := by
    intro moveType
    have hholds := h.numbers (.cost moveType)
    generalize terrain.number (.cost moveType) = i at hholds ⊢
    cases hholds with
    | cost numeral _ => exact ⟨_, numeral, Decimal.canonical_ofNat _⟩
  defense := by
    have hholds := h.numbers .defense
    generalize terrain.number .defense = i at hholds ⊢
    cases hholds with
    | defense numeral _ _ => exact ⟨i, numeral, Decimal.signedCanonical_iff.2 rfl⟩
  vision := by
    have hholds := h.numbers .vision
    generalize terrain.number .vision = i at hholds ⊢
    generalize Column.vision.field fields = field at hholds ⊢
    cases hholds with
    | vision numeral _ _ => exact .inr ⟨i, numeral, Decimal.signedCanonical_iff.2 rfl⟩
    | noVision => exact .inl ⟨rfl, rfl⟩
  moveCosts := terrain.textsFor_moveCosts serial

/-- **Numbers are written as they were read.** For each of the ten columns of numbers the placeholder
of the same name gets the canonical form of the number that the field denotes, and the list of move
costs has the eight costs in the order of the columns. Whatever else stands in a row, fields that
hold what is written for a terrain are read as a terrain with the same numbers. -/
theorem numbers_written_as_read (serial : Nat) :
    Column.all.map (fun column => (Placeholder.tag column.name, column.place)) =
        [("/*inf*/".toList, 2), ("/*mch*/".toList, 3), ("/*trA*/".toList, 4),
          ("/*trB*/".toList, 5), ("/*trd*/".toList, 6), ("/*air*/".toList, 7),
          ("/*shp*/".toList, 8), ("/*trp*/".toList, 9), ("/*defense*/".toList, 10),
          ("/*vision*/".toList, 14)] ∧
      (∀ (line : Nat) (fields : List Text) (terrain : Terrain),
        (Catalogue.readFields line fields).result = .ok terrain →
        ∃ text, WrittenAsRead fields terrain serial text) ∧
      ∀ (terrain : Terrain) (fields : List Text), fields.length = 19 →
        (∀ column : Column, terrain.textsFor serial column.name = [column.field fields]) →
        ∀ line, ∃ other, (Catalogue.readFields line fields).result = .ok other ∧
          other.moveCosts = terrain.moveCosts ∧ other.defense = terrain.defense ∧
          other.vision = terrain.vision := by
  refine ⟨by decide, ?_, ?_⟩
  · intro line fields terrain h
    rw [Catalogue.result_readFields_eq_ok_iff, ofFields_eq_ok_iff] at h
    exact ⟨_, writtenAsRead_of_describes h serial⟩
  · intro terrain fields hlength htexts line
    have hholds (column : Column) : column.Holds (column.field fields) (terrain.number column) := by
      have htext := htexts column
      rw [textsFor_column, List.singleton_inj] at htext
      rw [← htext]
      exact terrain.holds_ofInt_number column
    rcases exists_ofFields_eq_ok_iff_holds.2 ⟨hlength, fun column => ⟨_, hholds column⟩⟩ with
      ⟨other, hother⟩
    have hnumber : other.number = terrain.number := by
      funext column
      exact ((describes_of_ofFields_eq_ok hother).numbers column).unique (hholds column)
    exact ⟨other, Catalogue.result_readFields_eq_ok_iff.2 hother, numbers_eq_of_number_eq hnumber⟩

/-- Fields with plus signs, with zeros in front, and without a vision. -/
def looseFields : List Text :=
  ["Sea Port", "Port", "+1", "007", "0", "00", "4294967295", "+0", "1", "1", "-007", "1", "N", "0",
    "-", "1", "0", "20", "Harbour"].map String.toList

/-- What the loose fields say. -/
def looseTerrain : Terrain where
  name := "Sea Port".toList
  shortName := "Port".toList
  description := "Harbour".toList
  moveCosts := { infantry := 1, mech := 7, tire := 4294967295, ship := 1, transport := 1 }
  defense := -7
  generatesIncome := true
  repair := .naval
  isLand := true
  holdsValue := true

/-- The same numbers in canonical form, and nothing in the other columns. -/
def tightFields : List Text :=
  ["", "", "1", "7", "0", "0", "4294967295", "0", "1", "1", "-7", "", "", "", "0", "", "", "",
    ""].map String.toList

theorem numbers_of_looseFields :
    (Catalogue.readFields 2 looseFields).result = .ok looseTerrain ∧
      (∃ text, WrittenAsRead looseFields looseTerrain 3 text) ∧
      tightFields.length = 19 ∧
      (∀ column : Column, looseTerrain.textsFor 3 column.name = [column.field tightFields]) ∧
      ∃ other, (Catalogue.readFields 5 tightFields).result = .ok other ∧
        other.moveCosts = looseTerrain.moveCosts ∧ other.defense = looseTerrain.defense ∧
        other.vision = looseTerrain.vision := by
  have hread : (Catalogue.readFields 2 looseFields).result = .ok looseTerrain := by decide
  have htexts (column : Column) :
      looseTerrain.textsFor 3 column.name = [column.field tightFields] := by
    rw [textsFor_column, List.singleton_inj]
    cases column with
    | cost moveType => cases moveType <;> rfl
    | defense => rfl
    | vision => rfl
  rcases numbers_written_as_read 3 with ⟨-, hwritten, hback⟩
  exact ⟨hread, hwritten 2 looseFields looseTerrain hread, rfl, htexts,
    hback looseTerrain tightFields rfl htexts 5⟩

end Terrain

end Tilewright
