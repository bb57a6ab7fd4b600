import Tilewright.Text.Line

/-!
# Lines that were put together

The rows of a text stand one below the other: a line feed between two of them, and perhaps one
behind the last. Cut into lines, the text gives the rows back.

* `Text.IsCut` says which texts are the lines of a text: each ends in its only line feed, which the
  last may lack. `Text.cutLines_eq_iff`: a text is cut into lines in this one way.
* `Text.IsRow` says which texts can be rows: they are not empty, hold no line feed, and do not end
  in a return, which would be lost with the line feed behind it.
* `Text.ending` is what may stand behind the last row.
* `Text.lines_joinWith`: rows that were put one below the other are found again.
* `Text.drop_lines_header`: a header, which may be any text without a line feed, is one line.
-/

namespace Tilewright.Text

/-! ## Cutting -/

theorem cutLines_append_newline {line : Text} (hline : '\n' ∉ line) (rest : Text) :
    cutLines (line ++ '\n' :: rest) = (line ++ ['\n']) :: cutLines rest := by
  induction line with
  | nil => simp [cutLines]
  | cons c line ih =>
    rw [List.mem_cons, not_or] at hline
    rw [List.cons_append, cutLines, if_neg (Ne.symm hline.1), ih hline.2]
    rfl

theorem cutLines_of_not_mem {line : Text} (hline : '\n' ∉ line) (hne : line ≠ []) :
    cutLines line = [line] := by
  induction line with
  | nil => exact absurd rfl hne
  | cons c line ih =>
    rw [List.mem_cons, not_or] at hline
    rw [cutLines, if_neg (Ne.symm hline.1)]
    cases line with
    | nil => rfl
    | cons d line =>
      rw [ih hline.2 (by simp)]
      rfl

/-! ## Whole lines -/

/-- The texts that end in their only line feed. -/
def IsLine (line : Text) : Prop :=
  ∃ body, '\n' ∉ body ∧ line = body ++ ['\n']

/-- The texts that are lines in front of `rest`: the line feed may be missing if nothing follows. -/
def IsLineBefore (line rest : Text) : Prop :=
  IsLine line ∨ ('\n' ∉ line ∧ line ≠ [] ∧ rest = [])

/-- The pieces that are the lines of one text. -/
inductive IsCut : List Text → Prop where
  | nil : IsCut []
  | cons {line : Text} {lines : List Text} :
    IsLineBefore line lines.flatten → IsCut lines → IsCut (line :: lines)

theorem isLine_iff {line : Text} :
    IsLine line ↔ line.getLast? = some '\n' ∧ '\n' ∉ line.dropLast := by
  constructor
  · rintro ⟨body, hbody, rfl⟩
    simpa using hbody
  · rintro ⟨hlast, hbody⟩
    rcases List.getLast?_eq_some_iff.1 hlast with ⟨body, rfl⟩
    rw [List.dropLast_concat] at hbody
    exact ⟨body, hbody, rfl⟩

instance (line : Text) : Decidable (IsLine line) :=
  decidable_of_iff _ isLine_iff.symm

instance (line rest : Text) : Decidable (IsLineBefore line rest) :=
  inferInstanceAs (Decidable (_ ∨ _))

theorem IsLineBefore.ne_nil {line rest : Text} (h : IsLineBefore line rest) : line ≠ [] := by
  rcases h with ⟨body, -, rfl⟩ | ⟨-, hne, -⟩
  · simp
  · exact hne

theorem IsLineBefore.isLine {line rest : Text} (h : IsLineBefore line rest) (hrest : rest ≠ []) :
    IsLine line := by
  rcases h with hline | ⟨-, -, hnil⟩
  · exact hline
  · exact absurd hnil hrest

/-- A line stays one with another character in front, if that is no line feed. -/
theorem IsLineBefore.cons {c : Char} {line rest : Text} (hc : c ≠ '\n')
    (h : IsLineBefore line rest) : IsLineBefore (c :: line) rest := by
  rcases h with ⟨body, hbody, rfl⟩ | ⟨hline, -, hnil⟩
  · exact .inl ⟨c :: body, List.not_mem_cons_of_ne_of_not_mem (Ne.symm hc) hbody, rfl⟩
  · exact .inr ⟨List.not_mem_cons_of_ne_of_not_mem (Ne.symm hc) hline, by simp, hnil⟩

/-- A line in front of a text is cut off. -/
theorem cutLines_append_of_isLineBefore {line rest : Text} (h : IsLineBefore line rest) :
    cutLines (line ++ rest) = line :: cutLines rest := by
  rcases h with ⟨body, hbody, rfl⟩ | ⟨hline, hne, rfl⟩
  · rw [List.append_assoc, List.singleton_append, cutLines_append_newline hbody]
  · rw [List.append_nil, cutLines_of_not_mem hline hne]
    rfl

theorem isCut_cutLines (text : Text) : IsCut (cutLines text) := by
  induction text with
  | nil => exact .nil
  | cons c rest ih =>
    rw [cutLines]
    split
    · exact .cons (.inl ⟨[], by simp, rfl⟩) ih
    · next hc =>
      -- the character goes to the first line of the rest, or is a line of its own
      cases hlines : cutLines rest with
      | nil => exact .cons (.inr ⟨by simpa using Ne.symm hc, by simp, rfl⟩) .nil
      | cons line lines =>
        rw [hlines] at ih
        cases ih with
        | cons hline hmore => exact .cons (hline.cons hc) hmore

/-- **A text is cut into lines in one way.** The lines are the only pieces that make up the text and
of which each ends in its only line feed, but for the last, which may lack it. -/
theorem cutLines_eq_iff {text : Text} {lines : List Text} :
    cutLines text = lines ↔ IsCut lines ∧ lines.flatten = text := by
  constructor
  · rintro rfl
    exact ⟨isCut_cutLines text, flatten_cutLines text⟩
  · rintro ⟨hcut, rfl⟩
    induction hcut with
    | nil => rfl
    | cons hline _ ih => rw [List.flatten_cons, cutLines_append_of_isLineBefore hline, ih]

/-- Only the last line may lack its line feed. -/
theorem isCut_append_cons {before behind : List Text} {line : Text} :
    IsCut (before ++ line :: behind) ↔
      (∀ other ∈ before, IsLine other) ∧ IsLineBefore line behind.flatten ∧ IsCut behind := by
  induction before with
  | nil =>
    constructor
    · intro h
      cases h with
      | cons hline hbehind => exact ⟨by simp, hline, hbehind⟩
    · rintro ⟨-, hline, hbehind⟩
      exact .cons hline hbehind
  | cons first before ih =>
    rw [List.cons_append, List.forall_mem_cons]
    constructor
    · intro h
      cases h with
      | cons hfirst hmore =>
        have hall := ih.1 hmore
        have hne : (before ++ line :: behind).flatten ≠ [] := by simp [hall.2.1.ne_nil]
        exact ⟨⟨hfirst.isLine hne, hall.1⟩, hall.2⟩
    · rintro ⟨⟨hfirst, hbefore⟩, hrest⟩
      exact .cons (.inl hfirst) (ih.2 ⟨hbefore, hrest⟩)

/-! ## Line ends -/

/-- A line that holds no line feed has no line end. -/
theorem chomp_of_not_mem {line : Text} (hline : '\n' ∉ line) : chomp line = line := by
  have hreverse : '\n' ∉ line.reverse := by simpa using hline
  unfold chomp
  split
  · next h => simp [h] at hreverse
  · next h => simp [h] at hreverse
  · rfl

/-- Only a return before the line feed is lost with it. -/
theorem chomp_append_newline {line : Text} (hreturn : line.getLast? ≠ some '\r') :
    chomp (line ++ ['\n']) = line := by
  have hreverse : (line ++ ['\n']).reverse = '\n' :: line.reverse := by simp
  unfold chomp
  rw [hreverse]
  split
  · next body h =>
    -- the last character of the line would be a return
    rw [List.cons.injEq] at h
    rw [List.getLast?_eq_head?_reverse, h.2] at hreturn
    exact absurd rfl hreturn
  · next h =>
    rw [List.cons.injEq] at h
    rw [← h.2, List.reverse_reverse]
  · next h => exact absurd rfl (h line.reverse)

/-! ## Rows -/

/-- The texts that can be rows. -/
structure IsRow (row : Text) : Prop where
  ne_nil : row ≠ []
  newline : '\n' ∉ row
  return_end : row.getLast? ≠ some '\r'

/-- What may stand behind the last row: a line feed, if there is a row that it can end. -/
def ending (rows : List Text) (final : Bool) : Text :=
  if final && !rows.isEmpty then ['\n'] else []

theorem lines_cons_newline {row : Text} (hrow : IsRow row) (rest : Text) :
    lines (row ++ '\n' :: rest) = row :: lines rest := by
  rw [lines, cutLines_append_newline hrow.newline, List.map_cons,
    chomp_append_newline hrow.return_end]
  rfl

/-- Rows that stand one below the other are the lines of the text. -/
theorem lines_joinWith {rows : List Text} (hrows : ∀ row ∈ rows, IsRow row) (final : Bool) :
    lines (joinWith ['\n'] rows ++ ending rows final) = rows := by
  induction rows with
  | nil => simp [ending, lines, cutLines]
  | cons row rows ih =>
    have hrow : IsRow row := hrows row (by simp)
    cases rows with
    | nil =>
      cases final with
      | false =>
        simp [ending, lines, cutLines_of_not_mem hrow.newline hrow.ne_nil,
          chomp_of_not_mem hrow.newline]
      | true => simpa [ending, lines, cutLines] using lines_cons_newline hrow []
    | cons next rows =>
      have hmore : lines (joinWith ['\n'] (next :: rows) ++ ending (next :: rows) final) =
          next :: rows := ih fun other hother => hrows other (List.mem_cons_of_mem _ hother)
      have hending : ending (row :: next :: rows) final = ending (next :: rows) final := rfl
      rw [joinWith_cons_cons, hending, List.append_assoc, List.append_assoc,
        List.singleton_append, lines_cons_newline hrow, hmore]

/-- A header is one line, whatever it ends in. -/
theorem drop_lines_header {header : Text} (hheader : '\n' ∉ header) (rest : Text) :
    (lines (header ++ '\n' :: rest)).drop 1 = lines rest := by
  rw [lines, cutLines_append_newline hheader]
  rfl

end Tilewright.Text
