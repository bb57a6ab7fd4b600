import Tilewright.Proofs.Pieces

/-!
# Leftmost occurrences

A substitution looks for its needle before it fills it. The look only saves work: where the needle
does not occur there is nothing to fill. So substitutions are plain replacements, one after the
other.

A replacement takes the needle from the left and goes on behind it. This counts where a needle
overlaps with itself, as a tag does that begins and ends with the same character.

* `Text.Leftmost` says by their places which occurrences are taken, and `Text.LeftmostCut` is a text
  that is cut at them.
* `Text.leftmostCut_pieces` and `Text.LeftmostCut.eq_pieces`: every text is cut in exactly one way.
* `Substitution.applyAll_eq_foldl_replace`: substitutions are replacements, and a replacement writes
  its text in place of the needles at which the text is cut.
-/

namespace Tilewright

namespace Text

variable {needle text : Text}

/-! ## Places -/

/-- The occurrences of a needle that are taken from a place on, by their places: each is the first
one that starts behind the one before, and behind the last there is none. -/
inductive Leftmost (needle text : Text) : (start : Nat) → List Nat → Prop where
  | done {start} (absent : ∀ place, start ≤ place → ¬ StandsAt needle text place) :
    Leftmost needle text start []
  | found {start place places} (behind : start ≤ place) (stands : StandsAt needle text place)
      (first : ∀ other, start ≤ other → other < place → ¬ StandsAt needle text other)
      (more : Leftmost needle text (place + needle.length) places) :
    Leftmost needle text start (place :: places)

/-- The places of the needles that stand between pieces. The first piece starts at the given
place. -/
def needlePlaces (needle : Text) : (start : Nat) → List Text → List Nat
  | start, piece :: next :: pieces =>
    (start + piece.length) ::
      needlePlaces needle (start + piece.length + needle.length) (next :: pieces)
  | _, _ => []

/-- The text is cut into pieces at the leftmost occurrences of the needle, and no piece holds it. -/
structure LeftmostCut (needle text : Text) (pieces : List Text) : Prop where
  ne_nil : pieces ≠ []
  join : joinWith needle pieces = text
  leftmost : Leftmost needle text 0 (needlePlaces needle 0 pieces)
  clear : ∀ piece ∈ pieces, ¬ needle <:+: piece

/-- There is one way to take a needle from the left. -/
theorem Leftmost.unique {start : Nat} {places others : List Nat}
    (h : Leftmost needle text start places) (hothers : Leftmost needle text start others) :
    places = others := by
  induction h generalizing others with
  | done absent =>
    cases hothers with
    | done _ => rfl
    | found behind stands _ _ => exact absurd stands (absent _ behind)
  | @found start place places behind stands first more ih =>
    cases hothers with
    | done absent => exact absurd stands (absent _ behind)
    | @found _ other _ hbehind hstands hfirst hmore =>
      -- neither of the two first places is in front of the other
      have hplace : place = other := by
        rcases Nat.lt_trichotomy place other with hlt | heq | hlt
        · exact absurd stands (hfirst place behind hlt)
        · exact heq
        · exact absurd hstands (first other hbehind hlt)
      subst hplace
      rw [ih hmore]

/-- A place at which no needle stands can be passed over. -/
theorem Leftmost.of_succ {start : Nat} {places : List Nat}
    (h : Leftmost needle text (start + 1) places) (hstart : ¬ StandsAt needle text start) :
    Leftmost needle text start places := by
  have hpass {place : Nat} (hle : start ≤ place) (hstands : StandsAt needle text place) :
      start + 1 ≤ place := by
    rcases Nat.eq_or_lt_of_le hle with rfl | hlt
    · exact absurd hstands hstart
    · exact hlt
  cases h with
  | done absent => exact .done fun place hle hstands => absent place (hpass hle hstands) hstands
  | found behind stands first more =>
    refine .found (Nat.le_of_succ_le behind) stands ?_ more
    exact fun other hle hlt hstands => first other (hpass hle hstands) hlt hstands

/-! ## Cuts -/

/-- A character in front of the first piece moves every needle behind it. -/
theorem needlePlaces_attach (needle : Text) (start : Nat) (c : Char) {pieces : List Text}
    (h : pieces ≠ []) :
    needlePlaces needle start (attach c pieces) = needlePlaces needle (start + 1) pieces := by
  match pieces, h with
  | [_], _ => rfl
  | piece :: next :: more, _ =>
    have hlength : start + (c :: piece).length = start + 1 + piece.length := by
      rw [List.length_cons]
      omega
    rw [attach, needlePlaces, needlePlaces, hlength]

/-- The pieces of a text end where the needle is taken. This holds wherever the text stands. -/
theorem leftmost_pieces (hne : needle ≠ []) (before text : Text) :
    Leftmost needle (before ++ text) before.length
      (needlePlaces needle before.length (pieces needle text)) := by
  induction text using needle_induction hne generalizing before with
  | nil =>
    refine .done fun place hle hstands => ?_
    have hlt := hstands.lt_length hne
    rw [List.append_nil] at hlt
    omega
  | found behind ih =>
    rcases List.exists_cons_of_ne_nil (pieces_ne_nil needle behind) with ⟨first, more, hpieces⟩
    have hbehind := ih (before ++ needle)
    rw [List.length_append, hpieces, List.append_assoc] at hbehind
    rw [pieces_needle_append hne, hpieces, needlePlaces, List.length_nil, Nat.add_zero]
    refine .found (Nat.le_refl _) ?_ (fun other hle hlt => absurd hlt (Nat.not_lt.2 hle)) hbehind
    exact standsAt_append_add.2 (standsAt_zero.2 (List.prefix_append needle behind))
  | kept c rest h ih =>
    have hrest := ih (before ++ [c])
    rw [List.length_append, List.append_assoc] at hrest
    rw [pieces_cons h, needlePlaces_attach _ _ _ (pieces_ne_nil _ _)]
    refine Leftmost.of_succ hrest fun hstands => h ?_
    exact standsAt_zero.1 (standsAt_append_add.1 hstands)

/-- The pieces of a text are what it is cut into. -/
theorem leftmostCut_pieces (hne : needle ≠ []) (text : Text) :
    LeftmostCut needle text (pieces needle text) where
  ne_nil := pieces_ne_nil needle text
  join := joinWith_pieces hne text
  leftmost := leftmost_pieces hne [] text
  clear := not_infix_of_mem_pieces hne text

/-- Pieces are known from the text that they give and from the places between them. -/
theorem eq_of_joinWith_eq {start : Nat} {pieces others : List Text} (hpieces : pieces ≠ [])
    (hothers : others ≠ []) (hjoin : joinWith needle pieces = joinWith needle others)
    (hplaces : needlePlaces needle start pieces = needlePlaces needle start others) :
    pieces = others := by
  induction pieces generalizing start others with
  | nil => exact absurd rfl hpieces
  | cons piece more ih =>
    rcases List.exists_cons_of_ne_nil hothers with ⟨other, moreOthers, rfl⟩
    match more, moreOthers with
    | [], [] => simpa using hjoin
    | [], _ :: _ => simp [needlePlaces] at hplaces
    | _ :: _, [] => simp [needlePlaces] at hplaces
    | next :: more, nextOther :: moreOthers =>
      rw [needlePlaces, needlePlaces, List.cons.injEq] at hplaces
      have hlength : piece.length = other.length := Nat.add_left_cancel hplaces.1
      rw [joinWith_cons_cons, joinWith_cons_cons, List.append_assoc, List.append_assoc] at hjoin
      rcases List.append_inj hjoin hlength with ⟨rfl, hbehind⟩
      rw [ih (by simp) (by simp) (List.append_cancel_left hbehind) hplaces.2]

/-- A text is cut in one way only. -/
theorem LeftmostCut.eq_pieces {cut : List Text} (hne : needle ≠ [])
    (h : LeftmostCut needle text cut) : cut = pieces needle text := by
  have hpieces := leftmostCut_pieces hne text
  exact eq_of_joinWith_eq h.ne_nil hpieces.ne_nil (h.join.trans hpieces.join.symm)
    (h.leftmost.unique hpieces.leftmost)

/-! ## Replacements -/

/-- The empty needle stands around every character. -/
theorem replace_nil_eq_joinWith (replacement text : Text) :
    replace [] replacement text =
      joinWith replacement ([] :: text.map (fun c => [c]) ++ [[]]) := by
  have hshift : replacement ++ text.flatMap (fun c => c :: replacement) =
      (text.flatMap fun c => replacement ++ [c]) ++ replacement := by
    induction text with
    | nil => simp
    | cons c rest ih => simp [← ih]
  rw [replace, if_pos rfl, hshift, List.cons_append, joinWith_cons]
  simp [List.flatMap_map]

end Text

namespace Substitution

/-- **Substitutions are replacements, one after the other.** Whether a needle occurs need not be
asked before, whatever the needles are. For a needle that is not empty there is exactly one way to
cut a text at its leftmost occurrences, which do not overlap, and a replacement joins these pieces
anew. The empty needle stands in front of every character and at the end. -/
theorem applyAll_eq_foldl_replace (substitutions : List Substitution) (text : Text) :
    applyAll substitutions text =
        substitutions.foldl (fun text s => Text.replace s.needle s.replacement text) text ∧
      (∀ needle : Text, needle ≠ [] → ∀ text : Text,
        ∃ pieces, Text.LeftmostCut needle text pieces ∧
          (∀ other, Text.LeftmostCut needle text other → other = pieces) ∧
          ∀ replacement, Text.replace needle replacement text =
            Text.joinWith replacement pieces) ∧
      ∀ replacement text : Text, Text.replace [] replacement text =
        Text.joinWith replacement ([] :: text.map (fun c => [c]) ++ [[]]) := by
  refine ⟨?_, ?_, Text.replace_nil_eq_joinWith⟩
  · unfold applyAll
    congr 1
    funext text substitution
    exact substitution.apply_eq_replace text
  · intro needle hne text
    refine ⟨Text.pieces needle text, Text.leftmostCut_pieces hne text, ?_, ?_⟩
    · exact fun other hother => hother.eq_pieces hne
    · exact fun replacement => Text.replace_eq_joinWith hne replacement text

/-- The needle stands at two places that overlap, and only the first of them is filled. What is
written there makes the needle stand once more, for the next substitution. -/
theorem applyAll_overlapping :
    let needle := "/a/".toList
    let text := "x/a/a/b".toList
    needle ≠ [] ∧ Text.StandsAt needle text 1 ∧ Text.StandsAt needle text 3 ∧
      Text.LeftmostCut needle text ["x".toList, "a/b".toList] ∧
      Text.replace needle "/".toList text = "x/a/b".toList ∧
      applyAll [⟨needle, "/".toList⟩, ⟨needle, "#".toList⟩, ⟨[], ".".toList⟩] text =
        ".x.#.b.".toList := by
  intro needle text
  have hne : needle ≠ [] := by decide
  rcases applyAll_eq_foldl_replace
    [⟨needle, "/".toList⟩, ⟨needle, "#".toList⟩, ⟨[], ".".toList⟩] text with ⟨hfold, hcuts, -⟩
  rcases hcuts needle hne text with ⟨pieces, hcut, hunique, hreplace⟩
  have hpieces : pieces = ["x".toList, "a/b".toList] := by
    rw [← hunique _ (Text.leftmostCut_pieces hne text)]
    decide
  rw [hfold, hreplace, ← hpieces]
  refine ⟨hne, by decide, by decide, hcut, ?_, by decide⟩
  rw [hpieces]
  decide

end Substitution

end Tilewright
