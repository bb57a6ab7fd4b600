import Tilewright.Text.Basic

/-!
# Decimal numbers

A number is read from one or more ASCII digits, after an optional plus sign. A signed number may
have a minus sign instead. Leading zeros do not matter; a number that does not fit into 32 bits is
not read. A number is written with a minus sign exactly when it is negative, and without leading
zeros.
-/

namespace Tilewright.Decimal

/-- The number that one or more digits denote. -/
def digits? (text : Text) : Option Nat :=
  if text.isEmpty || !text.all Char.isDigit then none else some (Nat.ofDigitChars 10 text 0)

/-- The number that digits denote after an optional plus sign. -/
def unsigned? : Text → Option Nat
  | '+' :: digits => digits? digits
  | digits => digits? digits

/-- The number that digits denote after an optional sign. -/
def signed? : Text → Option Int
  | '+' :: digits => (digits? digits).map Int.ofNat
  | '-' :: digits => (digits? digits).map (fun n => -Int.ofNat n)
  | digits => (digits? digits).map Int.ofNat

/-- Reads a number from 0 to 2³² - 1. -/
def readUInt32? (text : Text) : Option UInt32 :=
  (unsigned? text).bind fun n => if h : n < UInt32.size then some (UInt32.ofNatLT n h) else none

/-- Reads a number from -2³¹ to 2³¹ - 1. -/
def readInt32? (text : Text) : Option Int32 :=
  (signed? text).bind fun n =>
    if Int32.minValue.toInt ≤ n ∧ n ≤ Int32.maxValue.toInt then some (Int32.ofInt n) else none

/-- The digits of a number. -/
def ofNat (n : Nat) : Text :=
  Nat.toDigits 10 n

/-- The digits of a number behind its sign. -/
def ofInt : Int → Text
  | .ofNat n => ofNat n
  | .negSucc n => '-' :: ofNat (n + 1)

theorem isDigit_of_mem_ofNat {c : Char} {n : Nat} (h : c ∈ ofNat n) : c.isDigit = true :=
  Nat.isDigit_of_mem_toDigits (by decide) (by decide) h

/-- Behind the sign of a number stand its digits. -/
theorem isDigit_of_mem_ofInt {c : Char} {i : Int} (h : c ∈ ofInt i) :
    c = '-' ∨ c.isDigit = true := by
  cases i with
  | ofNat n => exact .inr (isDigit_of_mem_ofNat h)
  | negSucc n =>
    rcases List.mem_cons.1 h with sign | digit
    · exact .inl sign
    · exact .inr (isDigit_of_mem_ofNat digit)

theorem not_mem_ofNat {c : Char} (h : c.isDigit = false) (n : Nat) : c ∉ ofNat n := by
  intro hmem
  rw [isDigit_of_mem_ofNat hmem] at h
  exact Bool.noConfusion h

theorem not_mem_ofInt {c : Char} (hsign : c ≠ '-') (h : c.isDigit = false) (i : Int) :
    c ∉ ofInt i := by
  intro hmem
  rcases isDigit_of_mem_ofInt hmem with sign | digit
  · exact hsign sign
  · rw [digit] at h
    exact Bool.noConfusion h

/-- A number is written with one digit at least. -/
theorem exists_isDigit_mem_ofNat (n : Nat) : ∃ c ∈ ofNat n, c.isDigit = true := by
  obtain ⟨c, rest, h⟩ := List.exists_cons_of_ne_nil (Nat.toDigits_ne_nil (n := n) (b := 10))
  have first : c ∈ ofNat n := by simp [ofNat, h]
  exact ⟨c, first, isDigit_of_mem_ofNat first⟩

theorem exists_isDigit_mem_ofInt (i : Int) : ∃ c ∈ ofInt i, c.isDigit = true := by
  cases i with
  | ofNat n => exact exists_isDigit_mem_ofNat n
  | negSucc n =>
    obtain ⟨c, digit, isDigit⟩ := exists_isDigit_mem_ofNat (n + 1)
    exact ⟨c, List.mem_cons_of_mem _ digit, isDigit⟩

/-! ## Reading what was written -/

@[simp] theorem digits?_ofNat (n : Nat) : digits? (ofNat n) = some n := by
  have digits : (Nat.toDigits 10 n).all Char.isDigit = true :=
    List.all_eq_true.2 fun c hc => isDigit_of_mem_ofNat hc
  have nonempty : (Nat.toDigits 10 n).isEmpty = false :=
    List.isEmpty_eq_false_iff.2 Nat.toDigits_ne_nil
  rw [digits?, ofNat, digits, nonempty, Nat.ofDigitChars_ten_toDigits]
  rfl

/-- Digits start with no sign. -/
theorem exists_ofNat_eq_cons (n : Nat) :
    ∃ c rest, ofNat n = c :: rest ∧ c ≠ '+' ∧ c ≠ '-' := by
  obtain ⟨c, rest, h⟩ := List.exists_cons_of_ne_nil (Nat.toDigits_ne_nil (n := n) (b := 10))
  have digit : c.isDigit = true :=
    Nat.isDigit_of_mem_toDigits (b := 10) (n := n) (by decide) (by decide) (by simp [h])
  refine ⟨c, rest, h, ?_, ?_⟩
  · rintro rfl
    exact absurd digit (by decide)
  · rintro rfl
    exact absurd digit (by decide)

@[simp] theorem unsigned?_ofNat (n : Nat) : unsigned? (ofNat n) = some n := by
  obtain ⟨c, rest, h, plus, _⟩ := exists_ofNat_eq_cons n
  have read := digits?_ofNat n
  rw [h] at read ⊢
  unfold unsigned?
  split
  · simp_all
  · exact read

@[simp] theorem signed?_ofInt (i : Int) : signed? (ofInt i) = some i := by
  cases i with
  | ofNat n =>
    obtain ⟨c, rest, h, plus, minus⟩ := exists_ofNat_eq_cons n
    have read := digits?_ofNat n
    simp only [ofInt]
    rw [h] at read ⊢
    unfold signed?
    split
    · simp_all
    · simp_all
    · simp [read]
  | negSucc n =>
    have negative : -((n : Int) + 1) = .negSucc n := rfl
    simp [ofInt, signed?, negative]

/-- A number of 32 bits is read back from its digits. -/
@[simp] theorem readUInt32?_ofNat (n : UInt32) : readUInt32? (ofNat n.toNat) = some n := by
  simp [readUInt32?, n.toNat_lt]

/-- A signed number of 32 bits is read back from its sign and digits. -/
@[simp] theorem readInt32?_ofInt (n : Int32) : readInt32? (ofInt n.toInt) = some n := by
  have lower := n.minValue_le_toInt
  have upper := n.toInt_le
  simp only [readInt32?, signed?_ofInt, Option.bind_some]
  rw [if_pos ⟨lower, upper⟩, Int32.ofInt_toInt]

end Tilewright.Decimal
