import Mathlib.Data.List.TakeDrop
import Tilewright.Config.Grammar
import Tilewright.Config.Skip

/-!
# Reading the pieces of a configuration text

What the grammar calls a gap, a name or a string, the scanner takes off the front of a text,
whatever stands behind it.

* `Scan.dropBlank_gap`: what stands behind a gap is read as if there were no gap.
* `Scan.identifier_label`: a name is read, written as it is or as a raw identifier.
* `Scan.string_literal`: a string is read, with escapes or raw, and whatever characters it has.
-/

namespace Tilewright.Scan

open Grammar

/-! ## Steps in a row -/

section Steps

variable {α β : Type} {scan : Scan α} {text rest : Text} {value : α}

/-- A scanner goes on with what its first step leaves. -/
theorem bind_of_ok (next : α → Scan β) (h : scan text = .ok (value, rest)) :
    (scan >>= next) text = next value rest := by
  show (scan text >>= fun found => next found.1 found.2) = next value rest
  rw [h]
  rfl

theorem accept_append (expected rest : Text) :
    accept expected (expected ++ rest) = .ok (true, rest) := by
  simp [accept]

theorem accept_cons (c : Char) (rest : Text) : accept [c] (c :: rest) = .ok (true, rest) :=
  accept_append [c] rest

theorem accept_cons_of_ne {c d : Char} (h : d ≠ c) (rest : Text) :
    accept [c] (d :: rest) = .ok (false, d :: rest) := by
  simp [accept, Ne.symm h]

end Steps

/-! ## Gaps -/

/-- Holds where no gap begins. -/
def Solid (text : Text) : Prop :=
  ∃ c rest, text = c :: rest ∧ isSpace c = false ∧ c ≠ '/'

theorem dropBlank_of_solid {text : Text} (h : Solid text) : dropBlank .plain text = .ok text := by
  rcases h with ⟨c, rest, rfl, hspace, hslash⟩
  unfold dropBlank
  split <;> simp_all

theorem dropBlank_space {c : Char} (hc : c ∈ [' ', '\t', '\n', '\r']) (rest : Text) :
    dropBlank .plain (c :: rest) = dropBlank .plain rest := by
  simp only [List.mem_cons, List.not_mem_nil, or_false] at hc
  rcases hc with rfl | rfl | rfl | rfl <;> simp [dropBlank, isSpace]

/-- A line comment ends with its line. -/
theorem dropBlank_line {comment : Text} (hcomment : '\n' ∉ comment) (rest : Text) :
    dropBlank .line (comment ++ '\n' :: rest) = dropBlank .plain rest := by
  induction comment with
  | nil => simp [dropBlank]
  | cons c comment ih =>
    rw [List.mem_cons, not_or] at hcomment
    rw [List.cons_append, dropBlank, if_neg (Ne.symm hcomment.1), ih hcomment.2]

theorem dropBlank_lastLine {comment : Text} (hcomment : '\n' ∉ comment) :
    dropBlank .line comment = .ok [] := by
  induction comment with
  | nil => rfl
  | cons c comment ih =>
    rw [List.mem_cons, not_or] at hcomment
    rw [dropBlank, if_neg (Ne.symm hcomment.1), ih hcomment.2]

/-- A block comment ends where its own end stands, behind the ends of the comments in it. -/
theorem dropBlank_block {around : Nat} {comment : Text} (h : BlockComment around comment)
    (rest : Text) : dropBlank (.block around) (comment ++ rest) = dropBlank .plain rest := by
  induction h with
  | last => simp [dropBlank]
  | close h ih => simpa [dropBlank] using ih
  | opening h ih => simpa [dropBlank] using ih
  | @other around c comment hclose hopen h ih =>
    rw [← ih, List.cons_append, dropBlank.eq_def]
    -- a comment does not end here, so that there is a next character to look at
    rcases comment with _ | ⟨d, comment⟩
    · cases h
    · simp only [List.cons_prefix_cons, List.nil_prefix, and_true, not_and] at hclose hopen
      split <;> simp_all

/-- What stands behind a gap is read as if there were no gap. -/
theorem dropBlank_gap {gap : Text} (h : Gap gap) (rest : Text) :
    dropBlank .plain (gap ++ rest) = dropBlank .plain rest := by
  induction h with
  | nil => rfl
  | space hc h ih => rw [List.cons_append, dropBlank_space hc, ih]
  | line hcomment h ih =>
    rw [List.append_assoc, List.cons_append, List.cons_append, List.cons_append, dropBlank,
      dropBlank_line hcomment, ih]
  | block hcomment h ih =>
    rw [List.append_assoc, List.cons_append, List.cons_append, dropBlank,
      dropBlank_block hcomment, ih]

theorem dropBlank_lastGap {gap : Text} (h : LastGap gap) : dropBlank .plain gap = .ok [] := by
  cases h with
  | gap h => simpa [dropBlank] using dropBlank_gap h []
  | line h hcomment => rw [dropBlank_gap h, dropBlank, dropBlank_lastLine hcomment]

theorem blank_of_dropBlank {text rest : Text} (h : dropBlank .plain text = .ok rest) :
    blank text = .ok ((), rest) := by
  rw [blank, h]
  rfl

theorem blank_gap {gap rest : Text} (h : Gap gap) (hrest : Solid rest) :
    blank (gap ++ rest) = .ok ((), rest) :=
  blank_of_dropBlank (by rw [dropBlank_gap h, dropBlank_of_solid hrest])

/-! ## Punctuation -/

section Punctuation

variable {before behind text rest : Text}

theorem colon_gap (hbefore : Gap before) (hbehind : Gap behind) (hrest : Solid rest) :
    colon (before ++ ':' :: (behind ++ rest)) = .ok ((), rest) := by
  have hcolon : Solid (':' :: (behind ++ rest)) := ⟨_, _, rfl, rfl, by decide⟩
  rw [colon, bind_of_ok _ (blank_gap hbefore hcolon), bind_of_ok _ (accept_cons _ _)]
  exact blank_gap hbehind hrest

theorem comma_gap (hbefore : Gap before) (hrest : dropBlank .plain text = .ok rest) :
    comma (before ++ ',' :: text) = .ok (true, rest) := by
  have hcomma : Solid (',' :: text) := ⟨_, _, rfl, rfl, by decide⟩
  rw [comma, bind_of_ok _ (blank_gap hbefore hcomma), bind_of_ok _ (accept_cons _ _)]
  exact bind_of_ok _ (blank_of_dropBlank hrest)

/-- Before a closing parenthesis there is no comma. -/
theorem comma_close (hbefore : Gap before) :
    comma (before ++ ')' :: rest) = .ok (false, ')' :: rest) := by
  have hclose : Solid (')' :: rest) := ⟨_, _, rfl, rfl, by decide⟩
  rw [comma, bind_of_ok _ (blank_gap hbefore hclose),
    bind_of_ok _ (accept_cons_of_ne (by decide) _)]
  rfl

end Punctuation

/-! ## Names -/

/-- The names that can be written as they are, and that do not begin like a raw string. -/
def isName : Text → Bool
  | [] => false
  | c :: rest => isFirst c && c != 'r' && rest.all isOther

theorem isOther_of_isFirst {c : Char} (h : isFirst c = true) : isOther c = true := by
  simp only [isFirst, isOther, Char.isAlphanum, Bool.or_eq_true] at h ⊢
  rcases h with h | h
  · exact .inl (.inl h)
  · exact .inr h

theorem isRaw_of_isOther {c : Char} (h : isOther c = true) : isRaw c = true := by
  simp [isRaw, h]

/-- An identifier ends where none of its characters follows. -/
theorem span_append {p : Char → Bool} {name rest : Text} (hname : name.all p = true)
    (hrest : rest.head?.any p = false) : (name ++ rest).span p = (name, rest) := by
  rw [List.span_eq_takeWhile_dropWhile]
  rw [List.all_eq_true] at hname
  rw [List.takeWhile_append_of_pos hname, List.dropWhile_append_of_pos hname]
  cases rest <;> simp_all

/-- Behind a gap there is no more of an identifier. -/
theorem not_isRaw_gap {gap : Text} (h : Gap gap) {c : Char} (hc : isRaw c = false) (rest : Text) :
    (gap ++ c :: rest).head?.any isRaw = false := by
  cases h with
  | nil => simpa using hc
  | line hcomment h => rfl
  | block hcomment h => rfl
  | @space d behind hd h =>
    simp only [List.mem_cons, List.not_mem_nil, or_false] at hd
    rcases hd with rfl | rfl | rfl | rfl <;> rfl

/-- A name is read where no character of a raw identifier follows. -/
theorem identifier_label {name label rest : Text} (hname : isName name = true)
    (hlabel : Label name label) (hrest : rest.head?.any isRaw = false) :
    identifier (label ++ rest) = .ok (name, rest) := by
  rcases name with _ | ⟨c, more⟩
  · exact absurd hname (by simp [isName])
  · simp only [isName, Bool.and_eq_true, bne_iff_ne] at hname
    rcases hname with ⟨⟨hfirst, hr⟩, hmore⟩
    have hother : (c :: more).all isOther = true := by
      simp [isOther_of_isFirst hfirst, hmore]
    have hraw : (c :: more).all isRaw = true := by
      rw [List.all_eq_true] at hother ⊢
      intro d hd
      exact isRaw_of_isOther (hother d hd)
    have hbehind : rest.head?.any isOther = false := by
      cases rest <;> simp_all [isRaw]
    cases hlabel with
    | plain =>
      -- a name that does not begin with an `r` is not taken for a raw identifier or a raw string
      rw [List.cons_append, identifier, if_pos hfirst, ← List.cons_append,
        span_append hother hbehind]
      · simp [hrest]
      all_goals simp_all
    | raw =>
      rw [List.cons_append, List.cons_append, identifier, span_append hraw hrest]
      simp_all

/-! ## Strings -/

section Strings

variable {c : Char} {text written rest : Text}

theorem hexDigit?_of_hexDigit {value : Nat} (h : HexDigit value c) : hexDigit? c = some value := by
  have hall : ∀ value < 16, hexDigit? value.digitChar = some value ∧
      hexDigit? value.digitChar.toUpper = some value := by decide
  rcases h with ⟨hlt, rfl | rfl⟩
  · exact (hall value hlt).1
  · exact (hall value hlt).2

theorem hexDigit_cons {value : Nat} (h : HexDigit value c) (rest : Text) :
    hexDigit (c :: rest) = .ok (value, rest) := by
  rw [hexDigit, hexDigit?_of_hexDigit h]

/-- Digits in braces are read up to the closing brace, if there are not too many. -/
theorem braced_digits {values : List Nat} {digits : Text}
    (h : List.Forall₂ HexDigit values digits) {left : Nat} (hleft : digits.length ≤ left)
    (rest : Text) : braced left (digits ++ '\x7d' :: rest) = .ok (values, '\x7d' :: rest) := by
  induction h generalizing left with
  | nil => cases left <;> simp [braced]
  | @cons value digit values digits hdigit hmore ih =>
    cases left with
    | zero => exact absurd hleft (by simp)
    | succ left =>
      -- the closing brace is no digit, so that only the count of the digits can stop the reader
      have hne : digit ≠ '\x7d' := by
        rintro rfl
        exact absurd (hexDigit?_of_hexDigit hdigit) (by simp [hexDigit?])
      simp [braced, hne, hexDigit?_of_hexDigit hdigit, ih (Nat.le_of_succ_le_succ hleft),
        Except.map]

/-- An escape is taken off with the backslash, and its character is put in front of what the rest of
the string stands for. -/
theorem quotedFrom_backslash {behind : Text} (h : escape text = .ok (c, behind)) :
    quotedFrom ('\\' :: text) = (quotedFrom behind).map fun found => (c :: found.1, found.2) := by
  rw [quotedFrom]
  split <;> simp_all

theorem escape_letter {letter : Char} (h : (c, letter) ∈ letters) (rest : Text) :
    escape (letter :: rest) = .ok (c, rest) := by
  simp only [letters, List.mem_cons, Prod.mk.injEq, List.not_mem_nil, or_false] at h
  rcases h with ⟨rfl, rfl⟩ | ⟨rfl, rfl⟩ | ⟨rfl, rfl⟩ | ⟨rfl, rfl⟩ | ⟨rfl, rfl⟩ | ⟨rfl, rfl⟩ |
    ⟨rfl, rfl⟩ <;> simp [escape, ofLetter?]

theorem escape_byte {highValue lowValue : Nat} {high low : Char} (hhigh : HexDigit highValue high)
    (hlow : HexDigit lowValue low) (hc : c.toNat = 16 * highValue + lowValue) (rest : Text) :
    escape ('x' :: high :: low :: rest) = .ok (c, rest) := by
  simp only [escape, hexDigit_cons hhigh, hexDigit_cons hlow, bind, Except.bind, pure, Except.pure]
  rw [← hc, Char.ofNat_toNat]

theorem escape_codePoint {values : List Nat} {digits : Text}
    (hdigits : List.Forall₂ HexDigit values digits) (hne : digits ≠ [])
    (hlength : digits.length ≤ 6) (hc : c.toNat = hexNumber values) (rest : Text) :
    escape ('u' :: '\x7b' :: (digits ++ '\x7d' :: rest)) = .ok (c, rest) := by
  have hvalues : values ≠ [] := by
    rintro rfl
    cases hdigits
    exact hne rfl
  have hnumber : ofHexDigits values = c.toNat := hc.symm
  have hvalid : (ofHexDigits values).isValidChar := hnumber ▸ c.valid
  simp only [escape, braced_digits hdigits hlength, bind, Except.bind]
  rw [codePoint, if_pos ⟨hvalues, rfl, hvalid⟩, hnumber, Char.ofNat_toNat]

/-- A character is read from any way to write it. -/
theorem quotedFrom_escaped {piece : Text} (h : Escaped c piece) (rest : Text) :
    quotedFrom (piece ++ rest) =
      (quotedFrom rest).map fun found => (c :: found.1, found.2) := by
  cases h with
  | plain hquote hbackslash =>
    rw [List.singleton_append, quotedFrom]
    all_goals simp_all
  | letter h => exact quotedFrom_backslash (escape_letter h rest)
  | byte hhigh hlow hc => exact quotedFrom_backslash (escape_byte hhigh hlow hc rest)
  | codePoint hdigits hne hlength hc =>
    rw [List.append_assoc]
    exact quotedFrom_backslash (escape_codePoint hdigits hne hlength hc rest)

theorem quotedFrom_enclosed (h : Enclosed text written) (rest : Text) :
    quotedFrom (written ++ '"' :: rest) = .ok (text, rest) := by
  induction h with
  | nil =>
    rw [List.nil_append, quotedFrom]
  | cons hc h ih =>
    rw [List.append_assoc, quotedFrom_escaped hc, ih]
    rfl

/-- A raw string ends behind its text. The marks that follow a quote in the text are too few, and
the quote at the end is no mark. -/
theorem rawFrom_text {marks : Nat} (h : ¬ '"' :: List.replicate marks '#' <:+: text)
    (rest : Text) : rawFrom ('"' :: List.replicate marks '#')
      (text ++ '"' :: (List.replicate marks '#' ++ rest)) = .ok (text, rest) := by
  induction text with
  | nil => simp [rawFrom]
  | cons c text ih =>
    rw [List.infix_cons_iff, not_or] at h
    have hprefix : ¬ '"' :: List.replicate marks '#' <+:
        c :: text ++ '"' :: (List.replicate marks '#' ++ rest) := by
      rintro ⟨behind, hbehind⟩
      rcases List.append_eq_append_iff.1 hbehind with ⟨more, hlong, -⟩ | ⟨more, hshort, hquote⟩
      · exact h.1 ⟨more, hlong.symm⟩
      · -- the ending reaches the quote at the end, which would be one of its marks
        rcases more with _ | ⟨d, more⟩
        · exact h.1 ⟨[], by simpa using hshort⟩
        · rw [List.cons_append, List.cons.injEq] at hquote hshort
          have hmark : d ∈ List.replicate marks '#' := by simp [hshort.2]
          rw [← hquote.1] at hmark
          exact absurd (List.eq_of_mem_replicate hmark) (by decide)
    rw [List.cons_append, rawFrom, if_neg (by simpa using hprefix), ih h.2]
    rfl

/-- A string is read, and what stands behind it stays. -/
theorem string_literal (h : Literal text written) (rest : Text) :
    string (written ++ rest) = .ok (text, rest) := by
  cases h with
  | escaped h =>
    rw [List.append_assoc]
    exact quotedFrom_enclosed h rest
  | @raw marks h =>
    have hmarks : (List.replicate marks '#').all (· == '#') = true := by simp
    have hspan : (List.replicate marks '#' ++ '"' :: (text ++ '"' :: (List.replicate marks '#' ++
        rest))).span (· == '#') = (List.replicate marks '#', '"' :: (text ++ '"' ::
        (List.replicate marks '#' ++ rest))) := span_append hmarks rfl
    simp only [List.append_assoc, List.cons_append, string, hspan]
    exact rawFrom_text h rest

end Strings

end Tilewright.Scan
