import Mathlib.Algebra.Ring.Int.Defs
import Mathlib.Algebra.Ring.Nat
import Mathlib.Data.List.Induction
import Tilewright.Text.Decimal

/-!
# Numerals

What the readers of numbers accept, stated as a grammar. A numeral is one digit, or a numeral with
one more digit behind it; the grammar knows neither a bound on the number nor on the digits, and
leading zeros are digits like any other.

* `Decimal.digits?_eq_some_iff`: the reader of digits reads numerals, and nothing else.
* `Decimal.readUInt32?_eq_some_iff` and `Decimal.readInt32?_eq_some_iff`: the readers of 32 bits
  read the numerals, with their signs, of the numbers that fit, and read them as those numbers.
-/

namespace Tilewright.Decimal

/-- The text is the digits of a number, which may start with zeros. -/
inductive Numeral : Text → Nat → Prop where
  | digit {d : Nat} (h : d < 10) : Numeral [Nat.digitChar d] d
  | append {digits : Text} {n d : Nat} (before : Numeral digits n) (h : d < 10) :
      Numeral (digits ++ [Nat.digitChar d]) (10 * n + d)

/-- The text is a numeral, with or without a plus sign. -/
inductive UnsignedNumeral : Text → Nat → Prop where
  | bare {digits : Text} {n : Nat} (h : Numeral digits n) : UnsignedNumeral digits n
  | plus {digits : Text} {n : Nat} (h : Numeral digits n) : UnsignedNumeral ('+' :: digits) n

/-- The text is a numeral, with or without a sign. -/
inductive SignedNumeral : Text → Int → Prop where
  | unsigned {text : Text} {n : Nat} (h : UnsignedNumeral text n) : SignedNumeral text n
  | minus {digits : Text} {n : Nat} (h : Numeral digits n) : SignedNumeral ('-' :: digits) (-n)

/-! ## Digits -/

theorem toNat_digitChar_sub {d : Nat} (h : d < 10) :
    (Nat.digitChar d).toNat - '0'.toNat = d := by
  rw [Nat.toNat_digitChar_of_lt_ten h]
  exact Nat.add_sub_cancel_left 48 d

/-- A character that is a digit is the digit of its value. -/
theorem exists_eq_digitChar {c : Char} (h : c.isDigit = true) :
    ∃ d, d < 10 ∧ c = Nat.digitChar d := by
  have hbounds : 48 ≤ c.toNat ∧ c.toNat ≤ 57 := Char.isDigit_iff_toNat.1 h
  have hlt : c.toNat - 48 < 10 := by omega
  have hvalue : c.toNat = (Nat.digitChar (c.toNat - 48)).toNat := by
    rw [Nat.toNat_digitChar_of_lt_ten hlt]
    omega
  exact ⟨c.toNat - 48, hlt, Char.toNat_inj.1 hvalue⟩

theorem ofDigitChars_append_digitChar {d : Nat} (h : d < 10) (digits : Text) :
    Nat.ofDigitChars 10 (digits ++ [Nat.digitChar d]) 0 = 10 * Nat.ofDigitChars 10 digits 0 + d := by
  rw [Nat.ofDigitChars_append, Nat.ofDigitChars_cons, Nat.ofDigitChars_nil, toNat_digitChar_sub h]

theorem Numeral.ne_nil {text : Text} {n : Nat} (h : Numeral text n) : text ≠ [] := by
  cases h <;> simp

theorem Numeral.isDigit_of_mem {text : Text} {n : Nat} (h : Numeral text n) {c : Char}
    (hc : c ∈ text) : c.isDigit = true := by
  induction h with
  | digit hd =>
    rw [List.mem_singleton.1 hc, Nat.isDigit_digitChar]
    exact decide_eq_true hd
  | append before hd ih =>
    rcases List.mem_append.1 hc with hbefore | hlast
    · exact ih hbefore
    · rw [List.mem_singleton.1 hlast, Nat.isDigit_digitChar]
      exact decide_eq_true hd

/-- What a numeral denotes is what its digits are read as. -/
theorem Numeral.eq_ofDigitChars {text : Text} {n : Nat} (h : Numeral text n) :
    n = Nat.ofDigitChars 10 text 0 := by
  induction h with
  | @digit d hd =>
    have hread := ofDigitChars_append_digitChar hd []
    rw [Nat.ofDigitChars_nil, Nat.mul_zero, Nat.zero_add] at hread
    exact hread.symm
  | append before hd ih => rw [ofDigitChars_append_digitChar hd, ← ih]

/-- One or more digits are the numeral of the number that is read from them. -/
theorem numeral_ofDigitChars {text : Text} (hne : text ≠ [])
    (hdigits : ∀ c ∈ text, c.isDigit = true) : Numeral text (Nat.ofDigitChars 10 text 0) := by
  -- a numeral grows at its end
  induction text using List.reverseRecOn with
  | nil => exact absurd rfl hne
  | append_singleton digits c ih =>
    rw [List.forall_mem_append, List.forall_mem_singleton] at hdigits
    rcases exists_eq_digitChar hdigits.2 with ⟨d, hd, rfl⟩
    rw [ofDigitChars_append_digitChar hd]
    by_cases hfirst : digits = []
    · rw [hfirst, Nat.ofDigitChars_nil, Nat.mul_zero, Nat.zero_add]
      exact .digit hd
    · exact .append (ih hfirst hdigits.1) hd

/-- The reader of digits reads numerals, and nothing else. -/
theorem digits?_eq_some_iff {text : Text} {n : Nat} : digits? text = some n ↔ Numeral text n := by
  unfold digits?
  constructor
  · intro h
    split at h
    · cases h
    · next hread =>
      rw [Bool.or_eq_true, not_or, List.isEmpty_iff, Bool.not_eq_true', Bool.not_eq_false,
        List.all_eq_true] at hread
      rw [← Option.some.inj h]
      exact numeral_ofDigitChars hread.1 hread.2
  · intro h
    have hempty : text.isEmpty = false := List.isEmpty_eq_false_iff.2 h.ne_nil
    have hall : text.all Char.isDigit = true := List.all_eq_true.2 fun c hc => h.isDigit_of_mem hc
    rw [hempty, hall, ← h.eq_ofDigitChars]
    rfl

/-- A sign does not begin a numeral. -/
theorem not_numeral_cons {sign : Char} (h : sign.isDigit = false) (digits : Text) (n : Nat) :
    ¬ Numeral (sign :: digits) n := by
  intro hnumeral
  rw [hnumeral.isDigit_of_mem List.mem_cons_self] at h
  exact Bool.noConfusion h

/-! ## Signs -/

theorem unsigned?_eq_some_iff {text : Text} {n : Nat} :
    unsigned? text = some n ↔ UnsignedNumeral text n := by
  unfold unsigned?
  split
  · next digits =>
    rw [digits?_eq_some_iff]
    constructor
    · exact .plus
    · intro h
      cases h with
      | bare h => exact absurd h (not_numeral_cons (by decide) digits n)
      | plus h => exact h
  · next hplus =>
    rw [digits?_eq_some_iff]
    constructor
    · exact .bare
    · intro h
      cases h with
      | bare h => exact h
      | @plus digits _ h => exact absurd rfl (hplus digits)

/-- A numeral denotes one number only, with its sign as without. -/
theorem UnsignedNumeral.unique {text : Text} {n m : Nat} (hn : UnsignedNumeral text n)
    (hm : UnsignedNumeral text m) : n = m := by
  rw [← unsigned?_eq_some_iff] at hn hm
  exact Option.some.inj (hn.symm.trans hm)

/-- Behind no minus sign, a signed number is read like one without a sign. -/
theorem signed?_of_ne_minus {text : Text} (h : ∀ digits, text ≠ '-' :: digits) :
    signed? text = (unsigned? text).map Int.ofNat := by
  unfold signed?
  split
  · rfl
  · next digits => exact absurd rfl (h digits)
  · next hplus _ =>
    unfold unsigned?
    split
    · exact absurd rfl (hplus _)
    · rfl

theorem signed?_eq_some_iff {text : Text} {i : Int} :
    signed? text = some i ↔ SignedNumeral text i := by
  by_cases hminus : ∃ digits, text = '-' :: digits
  · rcases hminus with ⟨digits, rfl⟩
    show (digits? digits).map (fun n => -Int.ofNat n) = some i ↔ _
    rw [Option.map_eq_some_iff]
    constructor
    · rintro ⟨n, hread, rfl⟩
      exact .minus (digits?_eq_some_iff.1 hread)
    · intro h
      cases h with
      | unsigned h =>
        cases h with
        | bare h => exact absurd h (not_numeral_cons (by decide) digits _)
      | minus h => exact ⟨_, digits?_eq_some_iff.2 h, rfl⟩
  · rw [signed?_of_ne_minus (not_exists.1 hminus), Option.map_eq_some_iff]
    constructor
    · rintro ⟨n, hread, rfl⟩
      exact .unsigned (unsigned?_eq_some_iff.1 hread)
    · intro h
      cases h with
      | unsigned h => exact ⟨_, unsigned?_eq_some_iff.2 h, rfl⟩
      | @minus digits _ h => exact absurd ⟨digits, rfl⟩ hminus

theorem SignedNumeral.unique {text : Text} {i j : Int} (hi : SignedNumeral text i)
    (hj : SignedNumeral text j) : i = j := by
  rw [← signed?_eq_some_iff] at hi hj
  exact Option.some.inj (hi.symm.trans hj)

/-- A sign alone is not a numeral. -/
theorem not_signedNumeral_dash (i : Int) : ¬ SignedNumeral ['-'] i := by
  intro h
  cases h with
  | unsigned h =>
    cases h with
    | bare h => exact not_numeral_cons (by decide) [] _ h
  | minus h => exact h.ne_nil rfl

/-! ## 32 bits -/

/-- A number of 32 bits is read from its numerals, and from nothing else. -/
theorem readUInt32?_eq_some_iff {text : Text} {value : UInt32} :
    readUInt32? text = some value ↔ UnsignedNumeral text value.toNat := by
  unfold readUInt32?
  rw [Option.bind_eq_some_iff]
  constructor
  · rintro ⟨n, hread, hvalue⟩
    split at hvalue
    · next hfits =>
      rw [← Option.some.inj hvalue, UInt32.toNat_ofNatLT]
      exact unsigned?_eq_some_iff.1 hread
    · cases hvalue
  · intro h
    refine ⟨value.toNat, unsigned?_eq_some_iff.2 h, ?_⟩
    rw [dif_pos value.toNat_lt, UInt32.ofNatLT_toNat]

/-- What is read is a numeral of a number below 2³². -/
theorem isSome_readUInt32?_iff {text : Text} :
    (readUInt32? text).isSome = true ↔ ∃ n, UnsignedNumeral text n ∧ n < 2 ^ 32 := by
  rw [Option.isSome_iff_exists]
  constructor
  · rintro ⟨value, hread⟩
    exact ⟨value.toNat, readUInt32?_eq_some_iff.1 hread, value.toNat_lt⟩
  · rintro ⟨n, hnumeral, hfits⟩
    refine ⟨UInt32.ofNatLT n hfits, readUInt32?_eq_some_iff.2 ?_⟩
    rwa [UInt32.toNat_ofNatLT]

theorem readInt32?_eq_some_iff {text : Text} {value : Int32} :
    readInt32? text = some value ↔ SignedNumeral text value.toInt := by
  unfold readInt32?
  rw [Option.bind_eq_some_iff]
  constructor
  · rintro ⟨i, hread, hvalue⟩
    split at hvalue
    · next hfits =>
      rw [← Option.some.inj hvalue, Int32.toInt_ofInt_of_le hfits.1 (Int.lt_of_le_sub_one hfits.2)]
      exact signed?_eq_some_iff.1 hread
    · cases hvalue
  · intro h
    refine ⟨value.toInt, signed?_eq_some_iff.2 h, ?_⟩
    rw [if_pos ⟨value.minValue_le_toInt, value.toInt_le⟩, Int32.ofInt_toInt]

/-- What is read is a numeral of a number from -2³¹ to 2³¹ - 1. -/
theorem isSome_readInt32?_iff {text : Text} :
    (readInt32? text).isSome = true ↔
      ∃ i, SignedNumeral text i ∧ -2 ^ 31 ≤ i ∧ i < 2 ^ 31 := by
  rw [Option.isSome_iff_exists]
  constructor
  · rintro ⟨value, hread⟩
    exact ⟨value.toInt, readInt32?_eq_some_iff.1 hread, value.minValue_le_toInt,
      Int.lt_of_le_sub_one value.toInt_le⟩
  · rintro ⟨i, hnumeral, hlower, hupper⟩
    refine ⟨Int32.ofInt i, readInt32?_eq_some_iff.2 ?_⟩
    rwa [Int32.toInt_ofInt_of_le hlower hupper]

example : readInt32? "-00002147483648".toList = some Int32.minValue := by decide

end Tilewright.Decimal
