import Mathlib.Data.List.Induction
import Tilewright.Proofs.Marks

/-!
# Bare marks

The backslashes that keep marks from starting comments are put in front of the bare marks and
nowhere else. A mark is bare where no quote is open and no backslash keeps it, and this is decided
by what stands before it.

* `Word.Closed` is the grammar of a text at whose end nothing is open; `Word.InQuotes` and
  `Word.Keeps` are the two ways in which something can be.
* `Word.Ending` goes over a text one character at a time, and `Word.ending_eq_iff` says that it
  tells these apart.
* `Word.escapeMarks_marks_bare`: the escaped line is the line with a backslash before each bare
  mark, and escaping it again changes nothing.
-/

namespace Tilewright.Word

/-! ## What is open at the end of a text -/

/-- What may stand behind a double quote that is still open: a backslash keeps the character behind
it, so that a double quote there closes nothing. -/
inductive Interior : Text → Prop where
  | nil : Interior []
  | plain {inner c} (h : Interior inner) (hquote : c ≠ '"') (hbackslash : c ≠ '\\') :
    Interior (inner ++ [c])
  | kept {inner} (h : Interior inner) (c : Char) : Interior (inner ++ ['\\', c])

/-- A text at whose end nothing is open: each quote is closed, and each backslash outside single
quotes keeps a character. -/
inductive Closed : Text → Prop where
  | nil : Closed []
  | plain {outer c} (h : Closed outer) (hc : c ≠ '\'' ∧ c ≠ '"' ∧ c ≠ '\\') :
    Closed (outer ++ [c])
  | kept {outer} (h : Closed outer) (c : Char) : Closed (outer ++ ['\\', c])
  | single {outer inner} (h : Closed outer) (hinner : '\'' ∉ inner) :
    Closed (outer ++ '\'' :: inner ++ ['\''])
  | double {outer inner} (h : Closed outer) (hinner : Interior inner) :
    Closed (outer ++ '"' :: inner ++ ['"'])

/-- A single quote is open at the end of the text. -/
def InSingle (text : Text) : Prop :=
  ∃ outer inner, Closed outer ∧ '\'' ∉ inner ∧ text = outer ++ '\'' :: inner

/-- A double quote is open at the end of the text. -/
def InDouble (text : Text) : Prop :=
  ∃ outer inner, Closed outer ∧ Interior inner ∧ text = outer ++ '"' :: inner

/-- A double quote is open at the end of the text, and a backslash keeps the next character. -/
def KeepsInDouble (text : Text) : Prop :=
  ∃ outer inner, Closed outer ∧ Interior inner ∧ text = outer ++ '"' :: inner ++ ['\\']

/-- A quote is open at the end of the text. -/
def InQuotes (text : Text) : Prop :=
  InSingle text ∨ InDouble text ∨ KeepsInDouble text

/-- The text ends with a backslash outside quotes, which keeps the next character. -/
def Keeps (text : Text) : Prop :=
  ∃ outer, Closed outer ∧ text = outer ++ ['\\']

/-- A mark behind this text is bare. -/
def BareBehind (before : Text) : Prop :=
  ¬ InQuotes before ∧ ¬ Keeps before

/-! ## One character at a time -/

/-- How a text can end. -/
inductive Ending where
  | closed
  | keeps
  | single
  | double
  | doubleKeeps
deriving DecidableEq, Repr

/-- The ending of a text with one more character. -/
def Ending.next : Ending → Char → Ending
  | .closed, c =>
    if c = '\'' then .single else if c = '"' then .double else if c = '\\' then .keeps else .closed
  | .keeps, _ => .closed
  | .single, c => if c = '\'' then .closed else .single
  | .double, c => if c = '"' then .closed else if c = '\\' then .doubleKeeps else .double
  | .doubleKeeps, _ => .double

/-- How the text ends. -/
def ending (text : Text) : Ending :=
  text.foldl Ending.next .closed

/-- What a text with this ending is made of. -/
def Ending.Of : Ending → Text → Prop
  | .closed => Closed
  | .keeps => Keeps
  | .single => InSingle
  | .double => InDouble
  | .doubleKeeps => KeepsInDouble

theorem ending_append (text more : Text) :
    ending (text ++ more) = more.foldl Ending.next (ending text) :=
  List.foldl_append

/-- One more character leads from one kind of text to the next. -/
theorem Ending.Of.next {e : Ending} {text : Text} (h : e.Of text) (c : Char) :
    (e.next c).Of (text ++ [c]) := by
  cases e with
  | closed =>
    rw [Ending.next]
    by_cases hquote : c = '\''
    · rw [if_pos hquote]
      exact ⟨text, [], h, by simp, by rw [hquote]⟩
    rw [if_neg hquote]
    by_cases hdouble : c = '"'
    · rw [if_pos hdouble]
      exact ⟨text, [], h, .nil, by rw [hdouble]⟩
    rw [if_neg hdouble]
    by_cases hbackslash : c = '\\'
    · rw [if_pos hbackslash]
      exact ⟨text, h, by rw [hbackslash]⟩
    · rw [if_neg hbackslash]
      exact Closed.plain h ⟨hquote, hdouble, hbackslash⟩
  | keeps =>
    rcases h with ⟨outer, houter, rfl⟩
    rw [List.append_assoc]
    exact Closed.kept houter c
  | single =>
    rcases h with ⟨outer, inner, houter, hinner, rfl⟩
    rw [Ending.next]
    by_cases hquote : c = '\''
    · rw [if_pos hquote, hquote]
      exact Closed.single houter hinner
    · rw [if_neg hquote]
      refine ⟨outer, inner ++ [c], houter, ?_, by simp⟩
      simpa [hinner] using Ne.symm hquote
  | double =>
    rcases h with ⟨outer, inner, houter, hinner, rfl⟩
    rw [Ending.next]
    by_cases hdouble : c = '"'
    · rw [if_pos hdouble, hdouble]
      exact Closed.double houter hinner
    rw [if_neg hdouble]
    by_cases hbackslash : c = '\\'
    · rw [if_pos hbackslash, hbackslash]
      exact ⟨outer, inner, houter, hinner, rfl⟩
    · rw [if_neg hbackslash]
      exact ⟨outer, inner ++ [c], houter, .plain hinner hdouble hbackslash, by simp⟩
  | doubleKeeps =>
    rcases h with ⟨outer, inner, houter, hinner, rfl⟩
    exact ⟨outer, inner ++ ['\\', c], houter, .kept hinner c, by simp⟩

/-- Every text is of the kind of its ending. -/
theorem ending_of (text : Text) : (ending text).Of text := by
  induction text using List.reverseRecOn with
  | nil => exact Closed.nil
  | append_singleton text c ih =>
    rw [ending_append]
    exact ih.next c

/-- Single quotes stay open up to the next one. -/
theorem foldl_next_single {inner : Text} (h : '\'' ∉ inner) :
    inner.foldl Ending.next .single = .single := by
  induction inner with
  | nil => rfl
  | cons c inner ih =>
    rw [List.mem_cons, not_or] at h
    rw [List.foldl_cons, Ending.next, if_neg (Ne.symm h.1), ih h.2]

/-- Double quotes stay open over what may stand in them. -/
theorem foldl_next_double {inner : Text} (h : Interior inner) :
    inner.foldl Ending.next .double = .double := by
  induction h with
  | nil => rfl
  | plain h hquote hbackslash ih =>
    rw [List.foldl_append, ih, List.foldl_cons, Ending.next, if_neg hquote, if_neg hbackslash]
    rfl
  | kept h c ih => rw [List.foldl_append, ih]; rfl

/-- The grammar of closed texts leads to the ending of that name. -/
theorem Closed.ending_eq {text : Text} (h : Closed text) : ending text = .closed := by
  induction h with
  | nil => rfl
  | plain h hc ih =>
    rw [ending_append, ih, List.foldl_cons, Ending.next, if_neg hc.1, if_neg hc.2.1,
      if_neg hc.2.2]
    rfl
  | kept h c ih => rw [ending_append, ih]; rfl
  | single h hinner ih =>
    rw [ending_append, ending_append, ih, List.foldl_cons]
    exact congrArg (Ending.next · '\'') (foldl_next_single hinner)
  | double h hinner ih =>
    rw [ending_append, ending_append, ih, List.foldl_cons]
    exact congrArg (Ending.next · '"') (foldl_next_double hinner)

/-- The ending of a text says what it is made of. -/
theorem ending_eq_iff {text : Text} {e : Ending} : ending text = e ↔ e.Of text := by
  constructor
  · rintro rfl
    exact ending_of text
  · intro h
    cases e with
    | closed => exact h.ending_eq
    | keeps =>
      rcases h with ⟨outer, houter, rfl⟩
      rw [ending_append, houter.ending_eq]
      rfl
    | single =>
      rcases h with ⟨outer, inner, houter, hinner, rfl⟩
      rw [ending_append, houter.ending_eq]
      exact foldl_next_single hinner
    | double =>
      rcases h with ⟨outer, inner, houter, hinner, rfl⟩
      rw [ending_append, houter.ending_eq]
      exact foldl_next_double hinner
    | doubleKeeps =>
      rcases h with ⟨outer, inner, houter, hinner, rfl⟩
      rw [ending_append, ending_append, houter.ending_eq]
      exact congrArg (Ending.next · '\\') (foldl_next_double hinner)

/-- A mark is bare exactly where nothing is open. -/
theorem bareBehind_iff {before : Text} : BareBehind before ↔ ending before = .closed := by
  have hsingle : ending before = .single ↔ InSingle before := ending_eq_iff
  have hdouble : ending before = .double ↔ InDouble before := ending_eq_iff
  have hkeepsInDouble : ending before = .doubleKeeps ↔ KeepsInDouble before := ending_eq_iff
  have hkeeps : ending before = .keeps ↔ Keeps before := ending_eq_iff
  rw [BareBehind, InQuotes, ← hsingle, ← hdouble, ← hkeepsInDouble, ← hkeeps]
  cases ending before <;> decide

instance (before : Text) : Decidable (BareBehind before) :=
  decidable_of_iff _ bareBehind_iff.symm

/-! ## Escaping -/

/-- The ending of a text with these quotes open. -/
def Quotes.ending : Quotes → Ending
  | .none => .closed
  | .single => .single
  | .double => .double

/-- Puts a backslash before each mark where nothing is open, one character at a time. -/
def backslashed : Ending → Text → Text
  | _, [] => []
  | e, c :: rest =>
    (if c = '#' ∧ e = .closed then ['\\', c] else [c]) ++ backslashed (e.next c) rest

/-- Escaping takes a backslash and the character that it keeps in one step. -/
theorem escapeMarksFrom_eq_backslashed (quotes : Quotes) (line : Text) :
    escapeMarksFrom quotes line = backslashed quotes.ending line := by
  induction quotes, line using escapeMarksFrom.induct with
  | case1 quotes => simp [escapeMarksFrom, backslashed]
  | case2 rest ih | case3 rest ih | case4 rest ih | case6 rest ih | case7 rest ih =>
    simp [escapeMarksFrom, backslashed, Ending.next, Quotes.ending, ih]
  | case5 c rest ih | case8 c rest ih =>
    simp [escapeMarksFrom, backslashed, Ending.next, Quotes.ending, ih]
  | case9 quotes c rest hmark hquote hdouble hbackslash hsingle hclose hkept ih =>
    -- a backslash counts only if a character is left that it can keep
    have hsame : rest = [] ∨ quotes.ending.next c = quotes.ending := by
      cases quotes with
      | none =>
        by_cases hlone : c = '\\'
        · cases rest with
          | nil => exact .inl rfl
          | cons d rest => exact (hbackslash d rest rfl hlone rfl).elim
        · refine .inr ?_
          rw [Quotes.ending, Ending.next, if_neg (hquote rfl), if_neg (hdouble rfl), if_neg hlone]
      | single => exact .inr (if_neg (hsingle rfl))
      | double =>
        by_cases hlone : c = '\\'
        · cases rest with
          | nil => exact .inl rfl
          | cons d rest => exact (hkept d rest rfl hlone rfl).elim
        · refine .inr ?_
          rw [Quotes.ending, Ending.next, if_neg (hclose rfl), if_neg hlone]
    have hplain : ¬ (c = '#' ∧ quotes.ending = .closed) := by
      rintro ⟨hc, hclosed⟩
      cases quotes with
      | none => exact hmark rfl hc
      | single | double => cases hclosed
    rw [backslashed, if_neg hplain, List.singleton_append]
    rw [escapeMarksFrom, ih] <;> try assumption
    rcases hsame with rfl | hnext
    · rfl
    · rw [hnext]

/-- What stands before a character decides whether it gets a backslash. -/
theorem backslashed_eq_mapIdx (before line : Text) :
    backslashed (ending before) line =
      (line.mapIdx fun place c =>
        if c = '#' ∧ BareBehind (before ++ line.take place) then ['\\', c] else [c]).flatten := by
  induction line generalizing before with
  | nil => rfl
  | cons c rest ih =>
    have hrest := ih (before ++ [c])
    rw [ending_append] at hrest
    rw [List.foldl_cons, List.foldl_nil] at hrest
    rw [backslashed, List.mapIdx_cons, List.flatten_cons, hrest, List.take_zero, List.append_nil]
    simp only [bareBehind_iff, List.take_succ_cons, List.append_assoc, List.singleton_append]

/-- A backslash that was put in keeps its mark, so that the mark gets no other one. -/
theorem backslashed_backslashed (e : Ending) (line : Text) :
    backslashed e (backslashed e line) = backslashed e line := by
  induction line generalizing e with
  | nil => rfl
  | cons c rest ih =>
    by_cases hbare : c = '#' ∧ e = .closed
    · rcases hbare with ⟨rfl, rfl⟩
      -- behind the kept mark nothing is open, as behind the bare one
      have hrest := ih .closed
      simp [backslashed, Ending.next, hrest]
    · rw [backslashed, if_neg hbare, List.singleton_append, backslashed, if_neg hbare, ih,
        List.singleton_append]

/-- **The escaped line is the line with a backslash before each bare mark.** One backslash stands
before each mark outside quotes that no backslash keeps, and every other character stays as it is. A
line without marks is not gone through, which makes no difference. Escaping a line again changes
nothing. -/
theorem escapeMarks_marks_bare (line : Text) :
    escapeMarks line =
        (line.mapIdx fun place c =>
          if c = '#' ∧ BareBehind (line.take place) then ['\\', c] else [c]).flatten ∧
      escapeMarks line = escapeMarksFrom .none line ∧
      escapeMarks (escapeMarks line) = escapeMarks line := by
  have hloop : escapeMarksFrom .none line = backslashed .closed line :=
    escapeMarksFrom_eq_backslashed .none line
  refine ⟨?_, escapeMarks_eq line, ?_⟩
  · rw [escapeMarks_eq, hloop]
    exact backslashed_eq_mapIdx [] line
  · rw [escapeMarks_eq, escapeMarks_eq, escapeMarksFrom_eq_backslashed, hloop]
    exact backslashed_backslashed .closed line

/-- Marks in quotes and behind backslashes are not bare; an open quote hides the last one. -/
example : escapeMarks "a#b '#\\' # \"\\\"#\" \\# '#".toList =
    "a\\#b '#\\' \\# \"\\\"#\" \\# '#".toList := by decide

end Tilewright.Word
