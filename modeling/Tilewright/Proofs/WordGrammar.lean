import Mathlib.Tactic.Common
import Tilewright.Text.Word

/-!
# The grammar of words

`Word.split` reads a line from left to right and remembers where it stands. The grammar says the
same without a reader: a line is made of words with separators around them, a word is made of parts,
and a part is a bare character, a character behind a backslash, or a text in quotes.

* `Word.Enclosed`, `Word.Part`, `Word.Parts` and `Word.Reads` are the grammar.
* `splitFrom_parts_append` says what the reader makes of the parts of a word, and
  `beginsWithWord_of_splitFrom_bare` that it takes nothing else for a word.
* `split_eq_some_iff_reads`: without comments the reader finds exactly the words of the grammar. A
  line that the grammar does not know has no words.
-/

namespace Tilewright.Word

/-! ## Grammar -/

/-- The characters that stand for themselves outside quotes. -/
def IsPlain (c : Char) : Prop :=
  isSeparator c = false ∧ c ≠ '\'' ∧ c ≠ '"' ∧ c ≠ '\\'

instance (c : Char) : Decidable (IsPlain c) :=
  inferInstanceAs (Decidable (_ ∧ _))

/-- What is written between double quotes, and the text that it stands for. -/
inductive Enclosed : Text → Text → Prop where
  | nil : Enclosed [] []
  | plain {c written text} (hquote : c ≠ '"') (hbackslash : c ≠ '\\')
      (h : Enclosed written text) : Enclosed (c :: written) (c :: text)
  /-- A backslash keeps one of four characters and goes. -/
  | escaped {c written text} (hc : isEscapable c = true) (h : Enclosed written text) :
      Enclosed ('\\' :: c :: written) (c :: text)
  /-- Before any other character a backslash stands for itself. -/
  | literal {c written text} (hc : isEscapable c = false) (hline : c ≠ '\n')
      (h : Enclosed written text) : Enclosed ('\\' :: c :: written) ('\\' :: c :: text)
  /-- A backslash before a line feed goes, and so does the line feed. -/
  | continued {written text} (h : Enclosed written text) :
      Enclosed ('\\' :: '\n' :: written) text

/-- A part of a word as it is written, and the text that it stands for. -/
inductive Part : Text → Text → Prop where
  | plain {c} (h : IsPlain c) : Part [c] [c]
  /-- A backslash keeps the next character, whichever it is. -/
  | escaped {c} (h : c ≠ '\n') : Part ['\\', c] [c]
  /-- Only a line feed goes with the backslash. A line that was cut from a text has none. -/
  | continued : Part ['\\', '\n'] []
  | single {text} (h : '\'' ∉ text) : Part ('\'' :: text ++ ['\'']) text
  | double {written text} (h : Enclosed written text) : Part ('"' :: written ++ ['"']) text

/-- Parts that join, and the text that they stand for together. -/
inductive Parts : Text → Text → Prop where
  | nil : Parts [] []
  | cons {part text parts texts} (h : Part part text) (more : Parts parts texts) :
      Parts (part ++ parts) (text ++ texts)

/-- A line and its words. A word has at least one part; the text of its parts may be empty. -/
inductive Reads : Text → List Text → Prop where
  | nil : Reads [] []
  | gap {c line words} (hc : isSeparator c = true) (h : Reads line words) : Reads (c :: line) words
  | last {parts word} (h : Parts parts word) (hne : parts ≠ []) : Reads parts [word]
  | word {parts word c line words} (h : Parts parts word) (hne : parts ≠ [])
      (hc : isSeparator c = true) (more : Reads line words) :
      Reads (parts ++ c :: line) (word :: words)

theorem Parts.single {part text : Text} (h : Part part text) : Parts part text := by
  simpa using Parts.cons h .nil

/-! ## One step of the reader -/

/-- The quotes that are open where a reader stands. In a comment quotes do not count. -/
def Mode.quotes : Mode → Option Quotes
  | .gap | .bare => some .none
  | .single => some .single
  | .double => some .double
  | .comment => none

/-- Puts a text in front of the first word. -/
def attachAll (text : Text) (words : List Text) : List Text :=
  text.foldr Text.attach words

@[simp] theorem attachAll_nil : attachAll [] = id := rfl

@[simp] theorem attachAll_cons (c : Char) (text : Text) (words : List Text) :
    attachAll (c :: text) words = Text.attach c (attachAll text words) := rfl

theorem attachAll_append (first second : Text) (words : List Text) :
    attachAll (first ++ second) words = attachAll first (attachAll second words) :=
  List.foldr_append

@[simp] theorem attachAll_cons_word (text word : Text) (words : List Text) :
    attachAll text (word :: words) = (text ++ word) :: words := by
  induction text with
  | nil => rfl
  | cons c text ih => simp [ih, Text.attach]

section Steps

variable {comments : Bool} {mode : Mode} {c : Char} {rest : Text}

/-- Outside quotes and comments a reader stands between words or in the bare part of one. -/
theorem Mode.eq_gap_or_bare_of_quotes (h : mode.quotes = some .none) :
    mode = .gap ∨ mode = .bare := by
  cases mode with
  | gap => exact .inl rfl
  | bare => exact .inr rfl
  | single | double | comment => simp [Mode.quotes] at h

theorem splitFrom_nil (h : mode.quotes = some .none) :
    splitFrom comments mode [] = some (mode.close []) := by
  rcases Mode.eq_gap_or_bare_of_quotes h with rfl | rfl <;> rfl

theorem splitFrom_quote (h : mode.quotes = some .none) :
    splitFrom comments mode ('\'' :: rest) = splitFrom comments .single rest := by
  rcases Mode.eq_gap_or_bare_of_quotes h with rfl | rfl <;> rfl

theorem splitFrom_doubleQuote (h : mode.quotes = some .none) :
    splitFrom comments mode ('"' :: rest) = splitFrom comments .double rest := by
  rcases Mode.eq_gap_or_bare_of_quotes h with rfl | rfl <;> rfl

theorem splitFrom_lone_backslash (h : mode.quotes = some .none) :
    splitFrom comments mode ['\\'] = none := by
  rcases Mode.eq_gap_or_bare_of_quotes h with rfl | rfl <;> rfl

theorem splitFrom_backslash (h : mode.quotes = some .none) (hc : c ≠ '\n') :
    splitFrom comments mode ('\\' :: c :: rest) =
      (splitFrom comments .bare rest).map (Text.attach c) := by
  rcases Mode.eq_gap_or_bare_of_quotes h with rfl | rfl <;> exact if_neg hc

theorem splitFrom_continued (h : mode.quotes = some .none) :
    splitFrom comments mode ('\\' :: '\n' :: rest) = splitFrom comments .bare rest := by
  rcases Mode.eq_gap_or_bare_of_quotes h with rfl | rfl <;> rfl

/-- A character that is no quote and no backslash, in every standing of the reader. -/
theorem splitFrom_cons (hquote : c ≠ '\'') (hdouble : c ≠ '"') (hbackslash : c ≠ '\\') :
    splitFrom comments mode (c :: rest) =
      match mode with
      | .single => (splitFrom comments .single rest).map (Text.attach c)
      | .double => (splitFrom comments .double rest).map (Text.attach c)
      | .comment => splitFrom comments (if c = '\n' then .gap else .comment) rest
      | mode =>
        if isSeparator c then (splitFrom comments .gap rest).map mode.close
        else if comments && mode = .gap && c = '#' then splitFrom comments .comment rest
        else (splitFrom comments .bare rest).map (Text.attach c) := by
  cases mode with
  | single => rw [splitFrom]; exact hquote
  | double => rw [splitFrom] <;> simp [hdouble, hbackslash]
  | comment => rfl
  | gap | bare => rw [splitFrom] <;> simp [hquote, hdouble, hbackslash]

theorem splitFrom_separator (h : mode.quotes = some .none) (hc : isSeparator c = true) :
    splitFrom comments mode (c :: rest) = (splitFrom comments .gap rest).map mode.close := by
  have hother : c ≠ '\'' ∧ c ≠ '"' ∧ c ≠ '\\' := by
    refine ⟨?_, ?_, ?_⟩ <;> (rintro rfl; exact absurd hc (by decide))
  rw [splitFrom_cons hother.1 hother.2.1 hother.2.2]
  rcases Mode.eq_gap_or_bare_of_quotes h with rfl | rfl <;> exact if_pos hc

/-- A plain character belongs to a word, unless it is a mark that begins a comment. -/
theorem splitFrom_plain (h : mode.quotes = some .none) (hc : IsPlain c)
    (hmark : mode = .bare ∨ comments = false ∨ c ≠ '#') :
    splitFrom comments mode (c :: rest) = (splitFrom comments .bare rest).map (Text.attach c) := by
  rcases hc with ⟨hsep, hquote, hdouble, hbackslash⟩
  have hcomment : ¬ (comments && mode = .gap && c = '#') = true := by
    rw [Bool.and_eq_true, Bool.and_eq_true, decide_eq_true_eq, decide_eq_true_eq]
    rintro ⟨⟨rfl, rfl⟩, rfl⟩
    simp at hmark
  rw [splitFrom_cons hquote hdouble hbackslash]
  rcases Mode.eq_gap_or_bare_of_quotes h with rfl | rfl
  · simp only [hsep, Bool.false_eq_true, if_false]
    exact if_neg hcomment
  · simp only [hsep, Bool.false_eq_true, if_false]
    exact if_neg hcomment

theorem splitFrom_single_nil : splitFrom comments .single [] = none := rfl

theorem splitFrom_single_close :
    splitFrom comments .single ('\'' :: rest) = splitFrom comments .bare rest := rfl

theorem splitFrom_single_cons (hc : c ≠ '\'') :
    splitFrom comments .single (c :: rest) =
      (splitFrom comments .single rest).map (Text.attach c) := by
  by_cases hdouble : c = '"'
  · subst hdouble
    rfl
  by_cases hbackslash : c = '\\'
  · subst hbackslash
    rfl
  · exact splitFrom_cons hc hdouble hbackslash

theorem splitFrom_double_nil : splitFrom comments .double [] = none := rfl

theorem splitFrom_double_lone_backslash : splitFrom comments .double ['\\'] = none := rfl

theorem splitFrom_double_close :
    splitFrom comments .double ('"' :: rest) = splitFrom comments .bare rest := rfl

theorem splitFrom_double_cons (hquote : c ≠ '"') (hbackslash : c ≠ '\\') :
    splitFrom comments .double (c :: rest) =
      (splitFrom comments .double rest).map (Text.attach c) := by
  by_cases hsingle : c = '\''
  · subst hsingle
    rfl
  · exact splitFrom_cons hsingle hquote hbackslash

/-- Inside double quotes it depends on the next character what a backslash is. -/
theorem splitFrom_double_backslash :
    splitFrom comments .double ('\\' :: c :: rest) =
      if c = '\n' then splitFrom comments .double rest
      else if isEscapable c then (splitFrom comments .double rest).map (Text.attach c)
      else (splitFrom comments .double rest).map (Text.attach '\\' ∘ Text.attach c) := rfl

/-- Without comments a word that begins between words is like one that goes on. -/
theorem splitFrom_gap_eq_bare (hc : isSeparator c = false) :
    splitFrom false .gap (c :: rest) = splitFrom false .bare (c :: rest) := by
  by_cases hplain : IsPlain c
  · rw [splitFrom_plain rfl hplain (.inr (.inl rfl)), splitFrom_plain rfl hplain (.inl rfl)]
  · have hspecial : c = '\'' ∨ c = '"' ∨ c = '\\' := by
      simp only [IsPlain, hc, true_and] at hplain
      tauto
    rcases hspecial with rfl | rfl | rfl
    · rw [splitFrom_quote rfl, splitFrom_quote rfl]
    · rw [splitFrom_doubleQuote rfl, splitFrom_doubleQuote rfl]
    · cases rest with
      | nil => rw [splitFrom_lone_backslash rfl, splitFrom_lone_backslash rfl]
      | cons c rest =>
        by_cases hline : c = '\n'
        · subst hline
          rw [splitFrom_continued rfl, splitFrom_continued rfl]
        · rw [splitFrom_backslash rfl hline, splitFrom_backslash rfl hline]

end Steps

/-! ## What the reader makes of the grammar -/

section Reading

variable {comments : Bool} {mode : Mode} {written text line : Text} {words : List Text}

/-- Inside single quotes the text goes up to the next single quote. -/
theorem splitFrom_single_append (rest : Text) (h : '\'' ∉ text) :
    splitFrom comments .single (text ++ '\'' :: rest) =
      (splitFrom comments .bare rest).map (attachAll text) := by
  induction text with
  | nil => rw [List.nil_append, splitFrom_single_close, attachAll_nil, Option.map_id, id]
  | cons c text ih =>
    rw [List.mem_cons, not_or] at h
    rw [List.cons_append, splitFrom_single_cons (Ne.symm h.1), ih h.2, Option.map_map]
    rfl

/-- Inside double quotes the text goes up to the next double quote that no backslash keeps. -/
theorem splitFrom_double_append (rest : Text) (h : Enclosed written text) :
    splitFrom comments .double (written ++ '"' :: rest) =
      (splitFrom comments .bare rest).map (attachAll text) := by
  induction h with
  | nil => rw [List.nil_append, splitFrom_double_close, attachAll_nil, Option.map_id, id]
  | plain hquote hbackslash _ ih =>
    rw [List.cons_append, splitFrom_double_cons hquote hbackslash, ih, Option.map_map]
    rfl
  | @escaped c _ _ hc _ ih =>
    have hline : c ≠ '\n' := by
      rintro rfl
      exact absurd hc (by decide)
    rw [List.cons_append, List.cons_append, splitFrom_double_backslash, if_neg hline, if_pos hc,
      ih, Option.map_map]
    rfl
  | literal hc hline _ ih =>
    rw [List.cons_append, List.cons_append, splitFrom_double_backslash, if_neg hline,
      if_neg (by simp [hc]), ih, Option.map_map]
    rfl
  | continued _ ih =>
    rw [List.cons_append, List.cons_append, splitFrom_double_backslash, if_pos rfl, ih]

/-- A part adds its text to the word. -/
theorem splitFrom_part_append (hmode : mode.quotes = some .none) {part : Text} (rest : Text)
    (h : Part part text) (hmark : mode = .bare ∨ comments = false ∨ part.head? ≠ some '#') :
    splitFrom comments mode (part ++ rest) =
      (splitFrom comments .bare rest).map (attachAll text) := by
  cases h with
  | plain h =>
    rw [List.cons_append, List.nil_append, splitFrom_plain hmode h (by simpa using hmark)]
    rfl
  | escaped h =>
    rw [List.cons_append, List.cons_append, List.nil_append, splitFrom_backslash hmode h]
    rfl
  | continued =>
    rw [List.cons_append, List.cons_append, List.nil_append, splitFrom_continued hmode]
    simp
  | single h =>
    rw [List.append_assoc, List.cons_append, splitFrom_quote hmode]
    exact splitFrom_single_append rest h
  | double h =>
    rw [List.append_assoc, List.cons_append, splitFrom_doubleQuote hmode]
    exact splitFrom_double_append rest h

/-- The parts of a word add its text. -/
theorem splitFrom_parts_append {parts : Text} (rest : Text) (h : Parts parts text) :
    splitFrom comments .bare (parts ++ rest) =
      (splitFrom comments .bare rest).map (attachAll text) := by
  induction h with
  | nil => simp
  | cons hpart _ ih =>
    rw [List.append_assoc, splitFrom_part_append rfl _ hpart (.inl rfl), ih, Option.map_map]
    congr 1
    funext words
    exact (attachAll_append _ _ words).symm

/-! ## Nothing else is read -/

theorem exists_of_splitFrom_single (h : splitFrom comments .single line = some words) :
    ∃ text rest more, line = text ++ '\'' :: rest ∧ '\'' ∉ text ∧
      splitFrom comments .bare rest = some more ∧ words = attachAll text more := by
  induction line generalizing words with
  | nil => exact absurd h (by rw [splitFrom_single_nil]; simp)
  | cons c rest ih =>
    by_cases hc : c = '\''
    · subst hc
      rw [splitFrom_single_close] at h
      exact ⟨[], rest, words, rfl, by simp, h, rfl⟩
    · rw [splitFrom_single_cons hc, Option.map_eq_some_iff] at h
      rcases h with ⟨later, hlater, rfl⟩
      rcases ih hlater with ⟨text, behind, more, rfl, htext, hmore, rfl⟩
      exact ⟨c :: text, behind, more, rfl, by simp [htext, Ne.symm hc], hmore, rfl⟩

theorem exists_of_splitFrom_double (h : splitFrom comments .double line = some words) :
    ∃ written text rest more, line = written ++ '"' :: rest ∧ Enclosed written text ∧
      splitFrom comments .bare rest = some more ∧ words = attachAll text more := by
  -- on the length of the line, because a backslash takes the next character with it
  induction hn : line.length using Nat.strongRecOn generalizing line words with
  | _ n ih =>
    cases line with
    | nil => exact absurd h (by rw [splitFrom_double_nil]; simp)
    | cons c rest =>
      by_cases hquote : c = '"'
      · -- the quotes end here
        subst hquote
        rw [splitFrom_double_close] at h
        exact ⟨[], [], rest, words, rfl, .nil, h, rfl⟩
      by_cases hbackslash : c = '\\'
      · subst hbackslash
        cases rest with
        | nil => exact absurd h (by rw [splitFrom_double_lone_backslash]; simp)
        | cons c rest =>
          have hlt : rest.length < n := by
            simp only [List.length_cons] at hn
            omega
          rw [splitFrom_double_backslash] at h
          split at h
          · next hline =>
            subst hline
            rcases ih _ hlt h rfl with ⟨written, text, behind, more, rfl, htext, hmore, rfl⟩
            exact ⟨_, text, behind, more, rfl, .continued htext, hmore, rfl⟩
          · next hline =>
            split at h
            · next hc =>
              rcases Option.map_eq_some_iff.1 h with ⟨later, hlater, rfl⟩
              rcases ih _ hlt hlater rfl with ⟨written, text, behind, more, rfl, htext, hmore, rfl⟩
              exact ⟨_, _, behind, more, rfl, .escaped hc htext, hmore, rfl⟩
            · next hc =>
              rcases Option.map_eq_some_iff.1 h with ⟨later, hlater, rfl⟩
              rcases ih _ hlt hlater rfl with ⟨written, text, behind, more, rfl, htext, hmore, rfl⟩
              exact ⟨_, _, behind, more, rfl, .literal (by simpa using hc) hline htext, hmore, rfl⟩
      · rw [splitFrom_double_cons hquote hbackslash, Option.map_eq_some_iff] at h
        rcases h with ⟨later, hlater, rfl⟩
        obtain ⟨written, text, behind, more, rfl, htext, hmore, rfl⟩ :=
          ih rest.length (by simp [← hn]) hlater rfl
        exact ⟨_, _, behind, more, rfl, .plain hquote hbackslash htext, hmore, rfl⟩

/-- The line begins with the parts of a word, and behind them it ends or goes on behind a
separator. -/
def BeginsWithWord (comments : Bool) (line : Text) (words : List Text) : Prop :=
  ∃ parts word, Parts parts word ∧
    ((line = parts ∧ words = [word]) ∨
      ∃ c rest more, line = parts ++ c :: rest ∧ isSeparator c = true ∧
        splitFrom comments .gap rest = some more ∧ words = word :: more)

/-- A part can be put in front of a word. -/
theorem BeginsWithWord.cons {part : Text} (hpart : Part part text)
    (h : BeginsWithWord comments line words) :
    BeginsWithWord comments (part ++ line) (attachAll text words) := by
  rcases h with ⟨parts, word, hparts, ⟨rfl, rfl⟩ | ⟨c, rest, more, rfl, hc, hmore, rfl⟩⟩
  · exact ⟨_, _, .cons hpart hparts, .inl ⟨rfl, attachAll_cons_word _ _ _⟩⟩
  · refine ⟨_, _, .cons hpart hparts, .inr ⟨c, rest, more, ?_, hc, hmore, ?_⟩⟩
    · rw [List.append_assoc]
    · exact attachAll_cons_word _ _ _

/-- In a word the reader takes off the parts of the word and nothing else. -/
theorem beginsWithWord_of_splitFrom_bare (h : splitFrom comments .bare line = some words) :
    BeginsWithWord comments line words := by
  -- on the length of the line, because a quoted part is taken as a whole
  induction hn : line.length using Nat.strongRecOn generalizing line words with
  | _ n ih =>
    cases line with
    | nil =>
      rw [splitFrom_nil rfl, Option.some_inj] at h
      exact ⟨[], [], .nil, .inl ⟨rfl, h.symm⟩⟩
    | cons c rest =>
      rw [List.length_cons] at hn
      by_cases hsep : isSeparator c = true
      · -- the word ends in front of the separator
        rw [splitFrom_separator rfl hsep, Option.map_eq_some_iff] at h
        rcases h with ⟨more, hmore, rfl⟩
        exact ⟨[], [], .nil, .inr ⟨c, rest, more, rfl, hsep, hmore, rfl⟩⟩
      by_cases hquote : c = '\''
      · -- a text in single quotes
        subst hquote
        rw [splitFrom_quote rfl] at h
        rcases exists_of_splitFrom_single h with ⟨text, behind, more, rfl, htext, hmore, rfl⟩
        have hword := ih behind.length (by simp at hn; omega) hmore rfl
        simpa using hword.cons (.single htext)
      by_cases hdouble : c = '"'
      · -- a text in double quotes
        subst hdouble
        rw [splitFrom_doubleQuote rfl] at h
        obtain ⟨written, text, behind, more, rfl, htext, hmore, rfl⟩ :=
          exists_of_splitFrom_double h
        have hword := ih behind.length (by simp at hn; omega) hmore rfl
        simpa using hword.cons (.double htext)
      by_cases hbackslash : c = '\\'
      · -- a backslash and the character behind it, which must be there
        subst hbackslash
        cases rest with
        | nil =>
          rw [splitFrom_lone_backslash rfl] at h
          exact absurd h (by simp)
        | cons c rest =>
          rw [List.length_cons] at hn
          by_cases hline : c = '\n'
          · subst hline
            rw [splitFrom_continued rfl] at h
            exact (ih rest.length (by omega) h rfl).cons .continued
          · rw [splitFrom_backslash rfl hline, Option.map_eq_some_iff] at h
            rcases h with ⟨more, hmore, rfl⟩
            exact (ih rest.length (by omega) hmore rfl).cons (.escaped hline)
      · -- no other character is special
        have hplain : IsPlain c := ⟨by simpa using hsep, hquote, hdouble, hbackslash⟩
        rw [splitFrom_plain rfl hplain (.inl rfl), Option.map_eq_some_iff] at h
        rcases h with ⟨more, hmore, rfl⟩
        exact (ih rest.length (by omega) hmore rfl).cons (.plain hplain)

end Reading

/-! ## Lines -/

theorem Parts.exists_cons {parts word : Text} (h : Parts parts word) (hne : parts ≠ []) :
    ∃ c rest, parts = c :: rest ∧ isSeparator c = false := by
  cases h with
  | nil => exact absurd rfl hne
  | cons hpart _ =>
    cases hpart with
    | plain h => exact ⟨_, _, rfl, h.1⟩
    | escaped | continued | single | double => exact ⟨_, _, rfl, by decide⟩

/-- Without comments the words of a line are those that the grammar gives it. -/
theorem split_eq_some_iff_reads {line : Text} {words : List Text} :
    split false line = some words ↔ Reads line words := by
  unfold split
  constructor
  · -- the reader takes off a separator or a whole word
    intro h
    induction hn : line.length using Nat.strongRecOn generalizing line words with
    | _ n ih =>
      cases line with
      | nil =>
        rw [splitFrom_nil rfl, Option.some_inj] at h
        rw [← h]
        exact .nil
      | cons c rest =>
        rw [List.length_cons] at hn
        by_cases hsep : isSeparator c = true
        · rw [splitFrom_separator rfl hsep, Option.map_eq_some_iff] at h
          rcases h with ⟨more, hmore, rfl⟩
          exact .gap hsep (ih rest.length (by omega) hmore rfl)
        · rw [splitFrom_gap_eq_bare (by simpa using hsep)] at h
          obtain ⟨parts, word, hparts, ⟨rfl, rfl⟩ | ⟨d, behind, more, hline, hd, hmore, rfl⟩⟩ :=
            beginsWithWord_of_splitFrom_bare h
          · exact .last hparts (by simp)
          · have hne : parts ≠ [] := by
              rintro rfl
              rw [List.nil_append, List.cons.injEq] at hline
              exact hsep (hline.1 ▸ hd)
            have hlen := congrArg List.length hline
            rw [List.length_append, List.length_cons, List.length_cons] at hlen
            rw [hline]
            exact .word hparts hne hd (ih behind.length (by omega) hmore rfl)
  · -- and finds what the grammar has put there
    intro h
    induction h with
    | nil => rfl
    | gap hc _ ih =>
      rw [splitFrom_separator rfl hc, ih]
      rfl
    | @last parts word h hne =>
      rcases h.exists_cons hne with ⟨c, rest, rfl, hc⟩
      have hread : splitFrom false .bare ((c :: rest) ++ []) = _ := splitFrom_parts_append [] h
      rw [List.append_nil, splitFrom_nil rfl, ← splitFrom_gap_eq_bare hc] at hread
      simpa [Mode.close] using hread
    | @word parts word c line words h hne hc _ ih =>
      rcases h.exists_cons hne with ⟨d, rest, rfl, hd⟩
      have hread : splitFrom false .bare ((d :: rest) ++ c :: line) = _ :=
        splitFrom_parts_append (c :: line) h
      rw [splitFrom_separator rfl hc, ih, List.cons_append, ← splitFrom_gap_eq_bare hd] at hread
      simpa [Mode.close] using hread

end Tilewright.Word
