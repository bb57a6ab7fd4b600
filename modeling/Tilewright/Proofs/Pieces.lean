import Mathlib.Data.List.Infix
import Tilewright.Proofs.Occurrence
import Tilewright.Substitution

/-!
# The pieces between needles

A needle cuts a text into pieces: what stands between its occurrences, taken from the left without
overlaps. Filling the needle joins the pieces with the replacement.

* `Text.needle_induction` goes through a text as the replacement does: over a needle that stands at
  the beginning as a whole, and otherwise over one character.
* `Text.joinWith_pieces`: the pieces joined with the needle are the text.
* `Text.not_infix_of_mem_pieces`: no piece holds the needle.
* `Text.exists_infix_of_infix_joinWith`: a needle that keeps clear of what stands between the pieces
  is in one of them.
* `Text.standsAcross_of_standsAt_flatten`: where nothing stands between the pieces, a needle that is
  in none of them stands across a cut.
-/

namespace Tilewright

namespace Text

variable {needle text : Text}

/-! ## Going through a text -/

/-- A text is gone through from the left, over a needle as a whole or over one character. -/
@[elab_as_elim]
theorem needle_induction {motive : Text → Prop} (hne : needle ≠ []) (nil : motive [])
    (found : ∀ behind, motive behind → motive (needle ++ behind))
    (kept : ∀ c rest, ¬ needle <+: c :: rest → motive rest → motive (c :: rest)) (text : Text) :
    motive text := by
  induction hn : text.length using Nat.strong_induction_on generalizing text with
  | _ n ih =>
    by_cases hprefix : needle <+: text
    · rcases hprefix with ⟨behind, rfl⟩
      have hpos := List.length_pos_iff.2 hne
      exact found behind (ih behind.length (by rw [← hn, List.length_append]; omega) behind rfl)
    · cases text with
      | nil => exact nil
      | cons c rest => exact kept c rest hprefix (ih rest.length (by simp [← hn]) rest rfl)

/-- While characters belong to an occurrence, they are dropped. -/
theorem piecesFrom_eq_drop (needle : Text) (skip : Nat) (text : Text) :
    piecesFrom needle skip text = pieces needle (text.drop skip) := by
  induction text generalizing skip with
  | nil => simp [piecesFrom, pieces]
  | cons c rest ih =>
    cases skip with
    | zero => rfl
    | succ skip => simpa [piecesFrom] using ih skip

theorem pieces_ne_nil (needle text : Text) : pieces needle text ≠ [] :=
  piecesFrom_ne_nil needle 0 text

theorem pieces_nil (needle : Text) : pieces needle [] = [[]] := rfl

/-- A needle at the beginning ends an empty piece. -/
theorem pieces_needle_append (hne : needle ≠ []) (behind : Text) :
    pieces needle (needle ++ behind) = [] :: pieces needle behind := by
  rcases List.exists_cons_of_ne_nil hne with ⟨c, rest, rfl⟩
  have hprefix : (c :: rest).isPrefixOf (c :: (rest ++ behind)) = true :=
    List.isPrefixOf_iff_prefix.2 (List.prefix_append (c :: rest) behind)
  rw [List.cons_append]
  unfold pieces
  rw [piecesFrom, if_pos hprefix, piecesFrom_eq_drop, List.length_cons, Nat.add_sub_cancel,
    List.drop_left]
  rfl

/-- A character at which no needle stands belongs to the first piece. -/
theorem pieces_cons {c : Char} {rest : Text} (h : ¬ needle <+: c :: rest) :
    pieces needle (c :: rest) = attach c (pieces needle rest) := by
  unfold pieces
  rw [piecesFrom, if_neg fun hprefix => h (List.isPrefixOf_iff_prefix.1 hprefix)]

/-! ## What the pieces are -/

/-- Cutting at a needle loses nothing but the needles. -/
theorem joinWith_pieces (hne : needle ≠ []) (text : Text) :
    joinWith needle (pieces needle text) = text := by
  induction text using needle_induction hne with
  | nil => rfl
  | found behind ih =>
    rw [pieces_needle_append hne, joinWith_nil_cons _ (pieces_ne_nil _ _), ih]
  | kept c rest h ih => rw [pieces_cons h, joinWith_attach _ _ (pieces_ne_nil _ _), ih]

/-- No piece holds the needle. -/
theorem not_infix_of_mem_pieces (hne : needle ≠ []) (text : Text) :
    ∀ piece ∈ pieces needle text, ¬ needle <:+: piece := by
  have hempty : ¬ needle <:+: [] := fun h => hne (List.infix_nil.1 h)
  induction text using needle_induction hne with
  | nil => simpa [pieces_nil] using hempty
  | found behind ih =>
    rw [pieces_needle_append hne]
    exact List.forall_mem_cons.2 ⟨hempty, ih⟩
  | kept c rest h ih =>
    rcases List.exists_cons_of_ne_nil (pieces_ne_nil needle rest) with ⟨first, more, hpieces⟩
    -- the first piece is what the rest begins with
    have hfirst : first <+: rest := by
      have hjoin := joinWith_pieces hne rest
      rw [hpieces, joinWith_cons] at hjoin
      exact ⟨_, hjoin⟩
    rw [hpieces, List.forall_mem_cons] at ih
    rw [pieces_cons h, hpieces, attach, List.forall_mem_cons]
    refine ⟨?_, ih.2⟩
    intro hinfix
    rcases List.infix_cons_iff.1 hinfix with hprefix | hinside
    · exact h (List.IsPrefix.trans hprefix (List.cons_prefix_cons.2 ⟨rfl, hfirst⟩))
    · exact ih.1 hinside

/-- A piece is a part of the joined pieces. -/
theorem infix_joinWith_of_mem {between piece : Text} {pieces : List Text} (h : piece ∈ pieces) :
    piece <:+: joinWith between pieces := by
  rcases List.append_of_mem h with ⟨front, rear, rfl⟩
  induction front with
  | nil =>
    rw [List.nil_append, joinWith_cons]
    exact (List.prefix_append _ _).isInfix
  | cons first front ih =>
    rcases List.exists_cons_of_ne_nil (l := front ++ piece :: rear) (by simp) with
      ⟨next, more, hmore⟩
    have hrest := ih (by simp)
    rw [hmore] at hrest
    rw [List.cons_append, hmore, joinWith_cons_cons]
    exact hrest.trans (List.suffix_append _ _).isInfix

/-- What is in no part of a text is in no piece of it. -/
theorem not_infix_of_mem_pieces_of_not_infix {t : Text} (hne : needle ≠ [])
    (h : ¬ t <:+: text) : ∀ piece ∈ pieces needle text, ¬ t <:+: piece := by
  intro piece hpiece hinfix
  have hpart : piece <:+: joinWith needle (pieces needle text) := infix_joinWith_of_mem hpiece
  rw [joinWith_pieces hne] at hpart
  exact h (List.IsInfix.trans hinfix hpart)

/-- With nothing between them the pieces are put together. -/
theorem joinWith_of_nil (pieces : List Text) : joinWith [] pieces = pieces.flatten := by
  cases pieces with
  | nil => rfl
  | cons piece pieces =>
    rw [joinWith_cons, List.flatten_cons]
    simp [List.flatMap]

/-! ## Needles in joined pieces -/

theorem exists_standsAt_of_infix (h : needle <:+: text) : ∃ place, StandsAt needle text place := by
  rcases h with ⟨before, behind, rfl⟩
  refine ⟨before.length, ?_⟩
  unfold StandsAt
  rw [List.append_assoc, List.drop_left]
  exact List.prefix_append _ _

/-- A needle that keeps clear of what stands between the pieces is in one of the pieces. -/
theorem exists_infix_of_infix_joinWith {written : Text} {pieces : List Text} (hne : needle ≠ [])
    (hapart : Apart written needle) (h : needle <:+: joinWith written pieces) :
    ∃ piece ∈ pieces, needle <:+: piece := by
  induction pieces with
  | nil =>
    rw [joinWith_nil] at h
    exact absurd (List.infix_nil.1 h) hne
  | cons piece pieces ih =>
    cases pieces with
    | nil => exact ⟨piece, List.mem_cons_self, by simpa using h⟩
    | cons next pieces =>
      rw [joinWith_cons_cons] at h
      rcases exists_standsAt_of_infix h with ⟨place, hplace⟩
      rcases hapart _ _ _ hplace with hbefore | hbehind
      · -- the needle ends within the first piece
        rw [List.append_assoc] at hplace
        have hstands := hplace.of_append hbefore
        exact ⟨piece, List.mem_cons_self, hstands.infix⟩
      · -- the needle starts behind what is written
        rw [← List.length_append] at hbehind
        rcases Nat.exists_eq_add_of_le hbehind with ⟨later, rfl⟩
        have hstands := standsAt_append_add.1 hplace
        rcases ih hstands.infix with ⟨other, hother, hinfix⟩
        exact ⟨other, List.mem_cons_of_mem _ hother, hinfix⟩

/-- The needle stands at the place of the flattened pieces across a cut: it starts in front of the
cut and ends behind it. -/
def StandsAcross (pieces : List Text) (needle : Text) (place : Nat) : Prop :=
  ∃ front rear, pieces = front ++ rear ∧ rear ≠ [] ∧ place < front.flatten.length ∧
    front.flatten.length < place + needle.length

/-- A needle that is in none of the pieces stands across a cut between them. -/
theorem standsAcross_of_standsAt_flatten {pieces : List Text} {place : Nat} (hne : needle ≠ [])
    (hpieces : ∀ piece ∈ pieces, ¬ needle <:+: piece) (h : StandsAt needle pieces.flatten place) :
    StandsAcross pieces needle place := by
  have hpos := List.length_pos_iff.2 hne
  induction pieces generalizing place with
  | nil => exact absurd (List.infix_nil.1 h.infix) hne
  | cons piece pieces ih =>
    rw [List.forall_mem_cons] at hpieces
    rw [List.flatten_cons] at h
    by_cases hbehind : piece.length ≤ place
    · -- the needle starts behind the first piece
      rcases Nat.exists_eq_add_of_le hbehind with ⟨later, rfl⟩
      rcases ih hpieces.2 (standsAt_append_add.1 h) with ⟨front, rear, rfl, hrear, hstart, hend⟩
      refine ⟨piece :: front, rear, rfl, hrear, ?_, ?_⟩
      · rw [List.flatten_cons, List.length_append]
        omega
      · rw [List.flatten_cons, List.length_append]
        omega
    · -- the needle starts in the first piece, and does not end there
      have hlong : piece.length < place + needle.length := by
        by_contra hshort
        have hstands := h.of_append (by omega : place + needle.length ≤ piece.length)
        exact hpieces.1 hstands.infix
      have hmore : pieces ≠ [] := by
        rintro rfl
        have hend := List.IsPrefix.length_le h
        simp only [List.flatten_nil, List.append_nil, List.length_drop] at hend
        omega
      refine ⟨[piece], pieces, rfl, hmore, ?_, ?_⟩
      · simpa using hbehind
      · simpa using hlong

end Text

/-! ## Filling -/

/-- A replacement joins the pieces anew. -/
theorem Text.replace_eq_joinWith {needle : Text} (hne : needle ≠ []) (replacement text : Text) :
    Text.replace needle replacement text =
      Text.joinWith replacement (Text.pieces needle text) := by
  unfold Text.replace
  rw [if_neg hne]
  exact Text.replaceFrom_eq_joinWith needle replacement 0 text

/-- The look for the needle in front of the replacement only saves work. -/
theorem Substitution.apply_eq_replace (substitution : Substitution) (text : Text) :
    substitution.apply text =
      Text.replace substitution.needle substitution.replacement text := by
  unfold apply
  split
  · rfl
  · next habsent =>
    -- a needle that is absent is not empty, since the empty one stands in every text
    have hne : substitution.needle ≠ [] := by
      intro hempty
      rw [hempty, Text.occursIn_nil] at habsent
      exact habsent rfl
    rw [Text.replace, if_neg hne,
      Text.replaceFrom_of_not_occursIn _ (by simpa using habsent)]

/-- Filling a needle joins the pieces with the replacement. -/
theorem Substitution.apply_eq_joinWith {substitution : Substitution}
    (hne : substitution.needle ≠ []) (text : Text) :
    substitution.apply text =
      Text.joinWith substitution.replacement (Text.pieces substitution.needle text) := by
  rw [apply_eq_replace, Text.replace_eq_joinWith hne]

end Tilewright
