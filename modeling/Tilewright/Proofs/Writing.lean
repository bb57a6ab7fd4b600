import Tilewright.Proofs.Lines
import Tilewright.Proofs.WordGrammar

/-!
# Words that were written down

`Word.write` writes a word down in one of three styles, and `Word.writeLine` puts written words on a
line, each behind its gap. Such a line belongs to the grammar of words, and its words are those that
were written.

* `Word.parts_write`: a written word is made of parts, in every style that fits it.
* `Word.WrittenApart` says that the words of a line are kept apart by blanks.
* `Word.reads_writeLine`: the words of the line are read back.
* `Word.isRow_writeLine`: if no word holds a line feed then the line can be a row.
-/

namespace Tilewright.Word

/-! ## Written words -/

/-- Text without special characters is made of plain parts. -/
theorem parts_of_plain {text : Text} (h : ∀ c ∈ text, isSpecial c = false) : Parts text text := by
  induction text with
  | nil => exact .nil
  | cons c text ih =>
    have hplain : IsPlain c := by
      have hc := h c (by simp)
      simp only [isSpecial, Bool.or_eq_false_iff, beq_eq_false_iff_ne] at hc
      rcases hc with ⟨⟨⟨⟨hsep, -⟩, hquote⟩, hdouble⟩, hbackslash⟩
      exact ⟨hsep, hquote, hdouble, hbackslash⟩
    exact .cons (.plain hplain) (ih fun d hd => h d (List.mem_cons_of_mem _ hd))

/-- In single quotes a word is cut at each single quote. `text` is the part up to there. -/
theorem parts_single (text word : Text) (htext : '\'' ∉ text) :
    Parts ('\'' :: (text ++
      word.flatMap fun c => if c = '\'' then ['\'', '\\', '\'', '\''] else [c]) ++ ['\''])
      (text ++ word) := by
  induction word generalizing text with
  | nil => simpa using Parts.single (.single htext)
  | cons c word ih =>
    by_cases hc : c = '\''
    · -- the quotes end, a quote follows behind a backslash, and the quotes open again
      subst hc
      have hopened := ih [] (by simp)
      have hkept : Part ['\\', '\''] ['\''] := .escaped (by decide)
      simpa using Parts.cons (.single htext) (.cons hkept hopened)
    · have hmore : '\'' ∉ text ++ [c] := by simp [htext, Ne.symm hc]
      simpa [hc] using ih (text ++ [c]) hmore

/-- In double quotes a backslash stands before each character that needs it. -/
theorem enclosed_double (word : Text) :
    Enclosed (word.flatMap fun c => if isEscapable c then ['\\', c] else [c]) word := by
  induction word with
  | nil => exact .nil
  | cons c word ih =>
    rw [List.flatMap_cons]
    by_cases hc : isEscapable c = true
    · rw [if_pos hc]
      exact .escaped hc ih
    · have hother : c ≠ '"' ∧ c ≠ '\\' := by
        constructor <;> (rintro rfl; exact hc (by decide))
      rw [if_neg hc]
      exact .plain hother.1 hother.2 ih

/-- A bare word has no special character. -/
theorem isSpecial_of_fits_bare {word : Text} (h : Style.bare.fits word = true) :
    word ≠ [] ∧ ∀ c ∈ word, isSpecial c = false := by
  simp only [Style.fits, Bool.and_eq_true, Bool.not_eq_true', List.isEmpty_eq_false_iff,
    List.all_eq_true] at h
  exact h

theorem parts_write {style : Style} {word : Text} (h : style.fits word = true) :
    Parts (write style word) word := by
  cases style with
  | single => exact parts_single [] word (by simp)
  -- one part is enough where the quotes stay open
  | double => exact .single (.double (enclosed_double word))
  | bare => exact parts_of_plain (isSpecial_of_fits_bare h).2

theorem write_ne_nil {style : Style} {word : Text} (h : style.fits word = true) :
    write style word ≠ [] := by
  cases style with
  | single | double => simp [write]
  | bare => exact (isSpecial_of_fits_bare h).1

/-- Writing puts in quotes and backslashes, and nothing else. -/
theorem mem_write {style : Style} {word : Text} {c : Char} (h : c ∈ write style word) :
    c ∈ word ∨ c = '\'' ∨ c = '"' ∨ c = '\\' := by
  cases style with
  | single =>
    simp only [write, List.cons_append, List.mem_cons, List.mem_append, List.mem_flatMap,
      List.not_mem_nil, or_false] at h
    rcases h with h | ⟨d, hd, h⟩ | h
    · exact .inr (.inl h)
    · split at h
      · simp only [List.mem_cons, List.not_mem_nil, or_false] at h
        tauto
      · exact .inl (List.mem_singleton.1 h ▸ hd)
    · exact .inr (.inl h)
  | double =>
    simp only [write, List.cons_append, List.mem_cons, List.mem_append, List.mem_flatMap,
      List.not_mem_nil, or_false] at h
    rcases h with h | ⟨d, hd, h⟩ | h
    · exact .inr (.inr (.inl h))
    · split at h
      · simp only [List.mem_cons, List.not_mem_nil, or_false] at h
        rcases h with h | h
        · exact .inr (.inr (.inr h))
        · exact .inl (h ▸ hd)
      · exact .inl (List.mem_singleton.1 h ▸ hd)
    · exact .inr (.inr (.inl h))
  | bare => exact .inl h

/-- A written word does not end in a return. -/
theorem getLast?_write {style : Style} {word : Text} (h : style.fits word = true) :
    (write style word).getLast? ≠ some '\r' := by
  cases style with
  | single | double =>
    rw [write, List.getLast?_concat]
    decide
  | bare =>
    intro hlast
    have hmem : '\r' ∈ word := List.mem_of_getLast? hlast
    exact absurd ((isSpecial_of_fits_bare h).2 _ hmem) (by decide)

/-! ## Written lines -/

/-- The gaps that words of one line can have: spaces and tabs. -/
def IsGap (gap : Text) : Prop :=
  ∀ c ∈ gap, c = ' ' ∨ c = '\t'

instance (gap : Text) : Decidable (IsGap gap) :=
  decidable_of_iff (gap.all fun c => c == ' ' || c == '\t') (by simp [IsGap])

/-- The words are written in styles that fit them, and all but the first stand behind a gap. -/
structure WrittenApart (words : List Written) (behind : Text) : Prop where
  fits : ∀ written ∈ words, written.style.fits written.word = true
  gap : ∀ written ∈ words, IsGap written.gap
  apart : ∀ written ∈ words.tail, written.gap ≠ []
  behind : IsGap behind

theorem WrittenApart.tail {written : Written} {words : List Written} {behind : Text}
    (h : WrittenApart (written :: words) behind) : WrittenApart words behind where
  fits other hother := h.fits other (List.mem_cons_of_mem _ hother)
  gap other hother := h.gap other (List.mem_cons_of_mem _ hother)
  apart other hother := h.apart other (List.mem_of_mem_tail hother)
  behind := h.behind

theorem writeLine_cons (written : Written) (words : List Written) (behind : Text) :
    writeLine (written :: words) behind =
      written.gap ++ (write written.style written.word ++ writeLine words behind) := by
  simp [writeLine]

theorem IsGap.isSeparator {gap : Text} (h : IsGap gap) {c : Char} (hc : c ∈ gap) :
    isSeparator c = true := by
  rcases h c hc with rfl | rfl <;> rfl

theorem IsGap.getLast? {gap : Text} (h : IsGap gap) : gap.getLast? ≠ some '\r' := by
  intro hlast
  rcases h _ (List.mem_of_getLast? hlast) with hc | hc
  · exact absurd hc (by decide)
  · exact absurd hc (by decide)

theorem reads_gap {gap line : Text} {words : List Text} (hgap : IsGap gap)
    (h : Reads line words) : Reads (gap ++ line) words := by
  induction gap with
  | nil => exact h
  | cons c gap ih =>
    have hc : isSeparator c = true := hgap.isSeparator (by simp)
    exact .gap hc (ih fun d hd => hgap d (List.mem_cons_of_mem _ hd))

/-- A separator at the beginning of a line does not matter. -/
theorem reads_of_separator_cons {c : Char} {line : Text} {words : List Text}
    (hc : isSeparator c = true) (h : Reads (c :: line) words) : Reads line words := by
  rw [← split_eq_some_iff_reads] at h ⊢
  rw [split, splitFrom_separator rfl hc] at h
  simpa [Mode.close, split] using h

/-- A word can be put in front of a line that begins with a separator. -/
theorem reads_parts_append {parts word line : Text} {words : List Text} (h : Parts parts word)
    (hne : parts ≠ []) (hline : ∀ c ∈ line.head?, isSeparator c = true)
    (more : Reads line words) : Reads (parts ++ line) (word :: words) := by
  cases line with
  | nil =>
    have hwords : words = [] := by
      rw [← split_eq_some_iff_reads] at more
      exact (Option.some_inj.1 more).symm
    rw [hwords, List.append_nil]
    exact .last h hne
  | cons c line =>
    have hc : isSeparator c = true := hline c rfl
    exact .word h hne hc (reads_of_separator_cons hc more)

/-- Behind a word the line ends, or there is a separator. -/
theorem WrittenApart.head?_isSeparator {written : Written} {words : List Written} {behind : Text}
    (h : WrittenApart (written :: words) behind) :
    ∀ c ∈ (writeLine words behind).head?, isSeparator c = true := by
  intro c hc
  cases words with
  | nil => exact h.behind.isSeparator (List.mem_of_head? hc)
  | cons next words =>
    have hgap : IsGap next.gap := h.gap next (by simp)
    rcases List.exists_cons_of_ne_nil (h.apart next (by simp)) with ⟨d, gap, hcons⟩
    rw [writeLine_cons, hcons] at hc
    have hd : d = c := by simpa using hc
    exact hgap.isSeparator (by simp [hcons, hd])

/-- The words that were written on a line are the words of the line. -/
theorem reads_writeLine {words : List Written} {behind : Text} (h : WrittenApart words behind) :
    Reads (writeLine words behind) (words.map Written.word) := by
  induction words with
  | nil => simpa [writeLine] using reads_gap h.behind .nil
  | cons written words ih =>
    have hfits : written.style.fits written.word = true := h.fits written (by simp)
    -- the gap goes, the written word stands for the word, and a separator or the end follows
    rw [writeLine_cons, List.map_cons]
    refine reads_gap (h.gap written (by simp)) ?_
    exact reads_parts_append (parts_write hfits) (write_ne_nil hfits) h.head?_isSeparator
      (ih h.tail)

/-- Words in single quotes, with one space between two of them. -/
def spaced : List Text → List Written
  | [] => []
  | word :: words => ⟨[], .single, word⟩ :: words.map fun next => ⟨[' '], .single, next⟩

theorem map_word_spaced (words : List Text) : (spaced words).map Written.word = words := by
  cases words with
  | nil => rfl
  | cons word words => simp [spaced, Function.comp_def]

theorem writtenApart_spaced (words : List Text) : WrittenApart (spaced words) [] := by
  cases words with
  | nil => constructor <;> simp [spaced, IsGap]
  | cons word words => constructor <;> simp [spaced, IsGap, Style.fits]

theorem writeLine_spaced (words : List Text) :
    writeLine (spaced words) [] = Text.joinWith [' '] (words.map (write .single)) := by
  cases words with
  | nil => rfl
  | cons word words =>
    rw [spaced, writeLine_cons, List.nil_append, List.map_cons, Text.joinWith_cons, writeLine,
      List.append_nil, List.flatMap_map, List.flatMap_map]

/-! ## Written lines as rows -/

theorem IsGap.newline_not_mem {gap : Text} (h : IsGap gap) : '\n' ∉ gap := by
  intro hmem
  rcases h _ hmem with hc | hc
  · exact absurd hc (by decide)
  · exact absurd hc (by decide)

theorem writeLine_ne_nil {words : List Written} {behind : Text} (h : WrittenApart words behind)
    (hne : words ≠ []) : writeLine words behind ≠ [] := by
  rcases List.exists_cons_of_ne_nil hne with ⟨written, words, rfl⟩
  have hwrite := write_ne_nil (h.fits written (by simp))
  rw [writeLine_cons]
  simp [hwrite]

/-- A line feed on the line is a line feed in a word. -/
theorem newline_not_mem_writeLine {words : List Written} {behind : Text}
    (h : WrittenApart words behind) (hwords : ∀ written ∈ words, '\n' ∉ written.word) :
    '\n' ∉ writeLine words behind := by
  induction words with
  | nil => exact h.behind.newline_not_mem
  | cons written words ih =>
    rw [writeLine_cons, List.mem_append, List.mem_append]
    rintro (hmem | hmem | hmem)
    · exact (h.gap written (by simp)).newline_not_mem hmem
    · rcases mem_write hmem with hword | hc | hc | hc
      · exact hwords written (by simp) hword
      all_goals exact absurd hc (by decide)
    · exact ih h.tail (fun other hother => hwords other (List.mem_cons_of_mem _ hother)) hmem

theorem getLast?_append_ne {first second : Text} {c : Char} (hfirst : first.getLast? ≠ some c)
    (hsecond : second.getLast? ≠ some c) : (first ++ second).getLast? ≠ some c := by
  rw [List.getLast?_append]
  cases h : second.getLast? with
  | none => simpa using hfirst
  | some d => simpa [h] using hsecond

/-- No line ends in a return, whatever its words end in. -/
theorem getLast?_writeLine {words : List Written} {behind : Text} (h : WrittenApart words behind) :
    (writeLine words behind).getLast? ≠ some '\r' := by
  induction words with
  | nil => exact h.behind.getLast?
  | cons written words ih =>
    rw [writeLine_cons]
    refine getLast?_append_ne (h.gap written (by simp)).getLast? ?_
    exact getLast?_append_ne (getLast?_write (h.fits written (by simp))) (ih h.tail)

/-- A line of words without line feeds can be a row. -/
theorem isRow_writeLine {words : List Written} {behind : Text} (h : WrittenApart words behind)
    (hne : words ≠ []) (hwords : ∀ written ∈ words, '\n' ∉ written.word) :
    Text.IsRow (writeLine words behind) where
  ne_nil := writeLine_ne_nil h hne
  newline := newline_not_mem_writeLine h hwords
  return_end := getLast?_writeLine h

end Tilewright.Word
