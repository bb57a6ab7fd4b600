import Tilewright.Catalogue.Reader
import Tilewright.Proofs.WordGrammar

/-!
# Marks are characters

A reader that knows comments would take a mark at the beginning of a word for the start of one. The
lines of a catalogue have no comments, so a backslash is put before each mark outside quotes, and
the reader finds the words that a reader without comments finds in the line as it is.

The two go over the line in step. The one that puts the backslashes knows only which quotes are
open, and that is all it has to know of the standing of the reader (`Word.Mode.quotes`).

* `Word.splitFrom_escapeMarksFrom`: from two standings with the same quotes both readers find the
  same words.
* `Catalogue.fields?_eq_split_and_reads`: a mark has no meaning in a row.
-/

namespace Tilewright

namespace Word

/-- Without marks nothing is put in. -/
theorem escapeMarksFrom_of_not_mem {line : Text} (h : '#' ∉ line) (quotes : Quotes) :
    escapeMarksFrom quotes line = line := by
  induction quotes, line using escapeMarksFrom.induct with
  | case1 => simp [escapeMarksFrom]
  | case2 => simp at h
  | case3 rest ih | case4 rest ih | case6 rest ih | case7 rest ih =>
    rw [escapeMarksFrom, ih (List.not_mem_of_not_mem_cons h)]
  | case5 c rest ih | case8 c rest ih =>
    rw [escapeMarksFrom,
      ih (List.not_mem_of_not_mem_cons (List.not_mem_of_not_mem_cons h))]
  | case9 quotes c rest _ _ _ _ _ _ _ ih =>
    rw [escapeMarksFrom, ih (List.not_mem_of_not_mem_cons h)] <;> assumption

/-- The look for a mark in front of the escaping only saves work. -/
theorem escapeMarks_eq (line : Text) : escapeMarks line = escapeMarksFrom .none line := by
  unfold escapeMarks
  split
  · rfl
  · next hmark =>
    exact (escapeMarksFrom_of_not_mem (by simpa using hmark) .none).symm

theorem Mode.eq_single_of_quotes {mode : Mode} (h : mode.quotes = some .single) :
    mode = .single := by
  cases mode <;> simp_all [Mode.quotes]

theorem Mode.eq_double_of_quotes {mode : Mode} (h : mode.quotes = some .double) :
    mode = .double := by
  cases mode <;> simp_all [Mode.quotes]

/-- The reader with comments on the escaped line keeps in step with the reader without comments on
the line itself. -/
theorem splitFrom_escapeMarksFrom {mode : Mode} {quotes : Quotes}
    (h : mode.quotes = some quotes) (line : Text) :
    splitFrom true mode (escapeMarksFrom quotes line) = splitFrom false mode line := by
  induction quotes, line using escapeMarksFrom.induct generalizing mode with
  | case1 quotes =>
    cases mode <;> rfl
  | case2 rest ih =>
    -- a bare mark is kept by its backslash on one side and is plain on the other
    rw [escapeMarksFrom, splitFrom_backslash h (by decide), ih rfl,
      splitFrom_plain h (by decide) (.inr (.inl rfl))]
  | case3 rest ih =>
    rw [escapeMarksFrom, splitFrom_quote h, splitFrom_quote h, ih rfl]
  | case4 rest ih =>
    rw [escapeMarksFrom, splitFrom_doubleQuote h, splitFrom_doubleQuote h, ih rfl]
  | case5 c rest ih =>
    rw [escapeMarksFrom]
    by_cases hline : c = '\n'
    · subst hline
      rw [splitFrom_continued h, splitFrom_continued h, ih rfl]
    · rw [splitFrom_backslash h hline, splitFrom_backslash h hline, ih rfl]
  -- quotes close on both sides
  | case6 rest ih =>
    rcases Mode.eq_single_of_quotes h with rfl
    rw [escapeMarksFrom, splitFrom_single_close, splitFrom_single_close, ih rfl]
  | case7 rest ih =>
    rcases Mode.eq_double_of_quotes h with rfl
    rw [escapeMarksFrom, splitFrom_double_close, splitFrom_double_close, ih rfl]
  | case8 c rest ih =>
    -- inside double quotes nothing is put in, so a backslash means the same on both sides
    rcases Mode.eq_double_of_quotes h with rfl
    rw [escapeMarksFrom, splitFrom_double_backslash, splitFrom_double_backslash, ih rfl]
  | case9 quotes c rest hmark hquote hdouble hbackslash hsingle hclose hkept ih =>
    rw [escapeMarksFrom] <;> try assumption
    cases quotes with
    | none =>
      by_cases hsep : isSeparator c = true
      · rw [splitFrom_separator h hsep, splitFrom_separator h hsep, ih rfl]
      by_cases hlone : c = '\\'
      · -- the backslash at the end of the line
        cases rest with
        | nil =>
          subst hlone
          rw [escapeMarksFrom, splitFrom_lone_backslash h, splitFrom_lone_backslash h]
        | cons d rest => exact (hbackslash d rest rfl hlone rfl).elim
      · have hplain : IsPlain c :=
          ⟨by simpa using hsep, fun hc => hquote rfl hc, fun hc => hdouble rfl hc, hlone⟩
        rw [splitFrom_plain h hplain (.inr (.inr fun hc => hmark rfl hc)),
          splitFrom_plain h hplain (.inr (.inl rfl)), ih rfl]
    | single =>
      rcases Mode.eq_single_of_quotes h with rfl
      rw [splitFrom_single_cons fun hc => hsingle rfl hc,
        splitFrom_single_cons fun hc => hsingle rfl hc, ih rfl]
    | double =>
      rcases Mode.eq_double_of_quotes h with rfl
      by_cases hlone : c = '\\'
      · cases rest with
        | nil =>
          subst hlone
          rw [escapeMarksFrom, splitFrom_double_lone_backslash, splitFrom_double_lone_backslash]
        | cons d rest => exact (hkept d rest rfl hlone rfl).elim
      · rw [splitFrom_double_cons (fun hc => hclose rfl hc) hlone,
          splitFrom_double_cons (fun hc => hclose rfl hc) hlone, ih rfl]

/-- Reading the escaped line with comments is reading the line without comments. -/
theorem split_escapeMarks (line : Text) : split true (escapeMarks line) = split false line := by
  rw [escapeMarks_eq]
  exact splitFrom_escapeMarksFrom rfl line

end Word

/-- **A mark has no meaning in a row.** The fields of a line are the words that a reader without
comments finds, and these are the words that the grammar, which knows no comments, gives the line. A
line that the grammar does not know has no fields. -/
theorem Catalogue.fields?_eq_split_and_reads (line : Text) :
    fields? line = Word.split false line ∧
      (∀ words, fields? line = some words ↔ Word.Reads line words) ∧
      (fields? line = none ↔ ∀ words, ¬ Word.Reads line words) := by
  have hsplit : fields? line = Word.split false line := Word.split_escapeMarks line
  rw [hsplit]
  refine ⟨rfl, fun words => Word.split_eq_some_iff_reads, ?_⟩
  rw [Option.eq_none_iff_forall_ne_some]
  exact forall_congr' fun words => not_congr Word.split_eq_some_iff_reads

end Tilewright
