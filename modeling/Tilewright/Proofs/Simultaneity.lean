import Mathlib.Data.List.Find
import Mathlib.Data.Nat.Find
import Tilewright.Proofs.Occurrence
import Tilewright.Substitution.Simultaneous

/-!
# One pass and many

`Substitution.applyAll` goes over a text once for each substitution and may see what it has written
before; `Substitution.applyAtOnce` goes over it a single time. The two agree when

* no two needles overlap in the text, and
* no replacement can become a part of a needle that is filled later (`applyAll_eq_applyAtOnce`).

The step of the proof takes the first substitution out of the single pass
(`applyAtOnce_cons_eq_applyAtOnce_apply`). It rests on one fact about the text that the first
substitution leaves: a later needle stands at its beginning exactly when it stood there before
(`prefix_apply_iff`).

The single pass itself never looks across a place over which no needle reaches
(`applyAtOnce_append`). So it writes each replacement, and each part of the text that no needle
touches, between what it makes of the text on both sides.
-/

namespace Tilewright.Substitution

variable {first s : Substitution} {substitutions more : List Substitution}
  {text : Text}

/-! ## The single pass -/

/-- The pass finds the same needle at the beginning of two texts that begin with the same ones. -/
theorem find?_congr_prefix {text other : Text}
    (h : ∀ s ∈ substitutions, s.needle <+: text ↔ s.needle <+: other) :
    substitutions.find? (fun s => s.needle.isPrefixOf text) =
      substitutions.find? (fun s => s.needle.isPrefixOf other) := by
  refine List.find?_congr ?_
  intro s hs
  rw [Bool.eq_iff_iff, List.isPrefixOf_iff_prefix, List.isPrefixOf_iff_prefix]
  exact h s hs

theorem prefix_of_find?_eq_some
    (h : substitutions.find? (fun s => s.needle.isPrefixOf text) = some s) : s.needle <+: text := by
  have hp := List.find?_some h
  exact List.isPrefixOf_iff_prefix.1 hp

/-- While characters belong to an occurrence, they are dropped. -/
theorem atOnceFrom_eq_drop (substitutions : List Substitution) (skip : Nat) (text : Text) :
    atOnceFrom substitutions skip text = applyAtOnce substitutions (text.drop skip) := by
  induction text generalizing skip with
  | nil => simp [atOnceFrom, applyAtOnce]
  | cons c rest ih =>
    cases skip with
    | zero => rfl
    | succ skip => simpa [atOnceFrom] using ih skip

/-- Where no needle stands, the character is kept. -/
theorem applyAtOnce_cons_of_find?_eq_none {c : Char} {rest : Text}
    (h : substitutions.find? (fun s => s.needle.isPrefixOf (c :: rest)) = none) :
    applyAtOnce substitutions (c :: rest) = c :: applyAtOnce substitutions rest := by
  unfold applyAtOnce
  rw [atOnceFrom, h]

/-- Where a needle stands, its replacement is written. -/
theorem applyAtOnce_of_find?_eq_some (hne : s.needle ≠ [])
    (h : substitutions.find? (fun s => s.needle.isPrefixOf text) = some s) :
    applyAtOnce substitutions text =
      s.replacement ++ applyAtOnce substitutions (text.drop s.needle.length) := by
  cases text with
  | nil =>
    have hprefix := List.find?_some h
    simp [hne] at hprefix
  | cons c rest =>
    have hpos := List.length_pos_iff.2 hne
    have hdrop : (c :: rest).drop s.needle.length = rest.drop (s.needle.length - 1) := by
      rw [← Nat.sub_add_cancel hpos, List.drop_succ_cons, Nat.add_sub_cancel]
    rw [hdrop, ← atOnceFrom_eq_drop]
    unfold applyAtOnce
    rw [atOnceFrom, h]

/-- The single pass can be cut where no needle reaches over the cut. -/
theorem applyAtOnce_append {before : Text} (behind : Text)
    (hne : ∀ s ∈ substitutions, s.needle ≠ [])
    (h : ∀ s ∈ substitutions, ∀ i < before.length, Text.StandsAt s.needle (before ++ behind) i →
      i + s.needle.length ≤ before.length) :
    applyAtOnce substitutions (before ++ behind) =
      applyAtOnce substitutions before ++ applyAtOnce substitutions behind := by
  -- on the length of the first text, because the pass takes a needle as a whole
  induction hn : before.length using Nat.strong_induction_on generalizing before with
  | _ n ih =>
    cases before with
    | nil => rfl
    | cons c rest =>
      -- at the beginning the pass finds the same needle, with and without `behind`
      have hsame : substitutions.find? (fun s => s.needle.isPrefixOf (c :: rest ++ behind)) =
          substitutions.find? (fun s => s.needle.isPrefixOf (c :: rest)) := by
        refine find?_congr_prefix ?_
        intro s hs
        constructor
        · intro hp
          have hle := h s hs 0 (by simp) (Text.standsAt_zero.2 hp)
          exact List.prefix_of_prefix_length_le hp (List.prefix_append _ _) (by simpa using hle)
        · intro hp
          exact hp.trans (List.prefix_append _ _)
      cases hfind : substitutions.find? (fun s => s.needle.isPrefixOf (c :: rest)) with
      | none =>
        -- the character is kept on both sides
        rw [hfind] at hsame
        have hrest := @ih rest.length (by simp [← hn]) rest
          (fun s hs i hi hsi => by
            have hle := h s hs (i + 1) (by simpa using hi) (Text.standsAt_cons_succ.2 hsi)
            simp only [List.length_cons] at hle
            omega) rfl
        rw [applyAtOnce_cons_of_find?_eq_none hfind]
        exact (applyAtOnce_cons_of_find?_eq_none hsame).trans (congrArg (c :: ·) hrest)
      | some s =>
        -- the needle ends in front of the cut
        rw [hfind] at hsame
        have hs := List.mem_of_find?_eq_some hfind
        have hpos := List.length_pos_iff.2 (hne s hs)
        have hp := prefix_of_find?_eq_some hfind
        have hdrop : (c :: rest ++ behind).drop s.needle.length =
            (c :: rest).drop s.needle.length ++ behind :=
          List.drop_append_of_le_length hp.length_le
        have hrest := @ih ((c :: rest).drop s.needle.length).length
          (by rw [List.length_drop, ← hn, List.length_cons]; omega)
          ((c :: rest).drop s.needle.length)
          (fun t ht i hi hti => by
            rw [← hdrop, Text.standsAt_drop] at hti
            rw [List.length_drop] at hi ⊢
            have hle := h t ht _ (by omega) hti
            omega) rfl
        rw [applyAtOnce_of_find?_eq_some (hne s hs) hfind,
          applyAtOnce_of_find?_eq_some (hne s hs) hsame, hdrop, hrest, List.append_assoc]

/-- A text in which no needle stands is kept. -/
theorem applyAtOnce_eq_self (h : ∀ s ∈ substitutions, ∀ i, ¬ Text.StandsAt s.needle text i) :
    applyAtOnce substitutions text = text := by
  induction text with
  | nil => rfl
  | cons c rest ih =>
    have hnone : substitutions.find? (fun s => s.needle.isPrefixOf (c :: rest)) = none := by
      rw [List.find?_eq_none]
      intro s hs hp
      exact h s hs 0 (Text.standsAt_zero.2 (List.isPrefixOf_iff_prefix.1 hp))
    rw [applyAtOnce_cons_of_find?_eq_none hnone]
    exact congrArg (c :: ·) (ih fun s hs i hi => h s hs (i + 1) (Text.standsAt_cons_succ.2 hi))

/-- In front of the first needle the text is kept. -/
theorem applyAtOnce_append_of_clear {kept behind : Text}
    (hne : ∀ s ∈ substitutions, s.needle ≠ [])
    (h : ∀ s ∈ substitutions, ∀ i < kept.length, ¬ Text.StandsAt s.needle (kept ++ behind) i) :
    applyAtOnce substitutions (kept ++ behind) = kept ++ applyAtOnce substitutions behind := by
  rw [applyAtOnce_append behind hne fun s hs i hi hsi => absurd hsi (h s hs i hi),
    applyAtOnce_eq_self fun s hs i hi => h s hs i (hi.lt_length (hne s hs)) (hi.append behind)]

/-- What no needle touches is kept, between what the pass makes of the text on both sides. -/
theorem applyAtOnce_append_untouched {before kept behind : Text}
    (hne : ∀ s ∈ substitutions, s.needle ≠ [])
    (h : Text.Untouched (substitutions.map needle) (before ++ kept ++ behind) before.length
      (before ++ kept).length) :
    applyAtOnce substitutions (before ++ kept ++ behind) =
      applyAtOnce substitutions before ++ kept ++ applyAtOnce substitutions behind := by
  have hside : ∀ s ∈ substitutions, ∀ i, Text.StandsAt s.needle (before ++ kept ++ behind) i →
      i + s.needle.length ≤ before.length ∨ (before ++ kept).length ≤ i :=
    fun s hs i hi => h s.needle (List.mem_map_of_mem hs) i hi
  rw [List.length_append] at hside
  rw [List.append_assoc] at hside ⊢
  rw [applyAtOnce_append (kept ++ behind) hne, applyAtOnce_append_of_clear hne, List.append_assoc]
  · intro s hs i hi hsi
    have hcase := hside s hs (before.length + i) (Text.standsAt_append_add.2 hsi)
    have hpos := List.length_pos_iff.2 (hne s hs)
    omega
  · intro s hs i hi hsi
    have hcase := hside s hs i hsi
    omega

/-- A needle in an overlap-free text is replaced, between what the pass makes of the text on both
sides. -/
theorem applyAtOnce_append_needle {before behind : Text}
    (hne : ∀ s ∈ substitutions, s.needle ≠ [])
    (hnodup : (substitutions.map needle).Nodup) (hs : s ∈ substitutions)
    (h : Text.OverlapFree (substitutions.map needle) (before ++ s.needle ++ behind)) :
    applyAtOnce substitutions (before ++ s.needle ++ behind) =
      applyAtOnce substitutions before ++ s.replacement ++ applyAtOnce substitutions behind := by
  have hnes : ∀ t ∈ substitutions.map needle, t ≠ [] := by
    simpa using hne
  have hmem : ∀ t ∈ substitutions, t.needle ∈ substitutions.map needle :=
    fun t ht => List.mem_map_of_mem ht
  have hhere : Text.StandsAt s.needle (before ++ s.needle ++ behind) before.length := by
    unfold Text.StandsAt
    rw [List.append_assoc, List.drop_left]
    exact List.prefix_append _ _
  -- no other needle stands at the beginning of the needle
  have hfind :
      substitutions.find? (fun t => t.needle.isPrefixOf (s.needle ++ behind)) = some s := by
    have hbegin : Text.OverlapFree (substitutions.map needle) (s.needle ++ behind) := by
      have hdrop := h.drop before.length
      rwa [List.append_assoc, List.drop_left] at hdrop
    rw [List.find?_eq_some_iff_append]
    refine ⟨List.isPrefixOf_iff_prefix.2 (List.prefix_append _ _), ?_⟩
    rcases List.append_of_mem hs with ⟨front, rear, hsplit⟩
    refine ⟨front, rear, hsplit, fun t ht => ?_⟩
    rw [Bool.not_eq_true', Bool.eq_false_iff]
    intro hp
    have htm : t ∈ substitutions := by
      rw [hsplit]
      exact List.mem_append_left _ ht
    have heq := hbegin.eq hnes (hmem t htm) (hmem s hs)
      (Text.standsAt_zero.2 (List.isPrefixOf_iff_prefix.1 hp))
      (Text.standsAt_zero.2 (List.prefix_append _ _))
    rw [hsplit, List.map_append, List.map_cons, List.nodup_append] at hnodup
    exact hnodup.2.2 _ (List.mem_map_of_mem ht) _ List.mem_cons_self heq
  rw [List.append_assoc] at h hhere ⊢
  rw [applyAtOnce_append (s.needle ++ behind) hne,
    applyAtOnce_of_find?_eq_some (hne s hs) hfind, List.drop_left, List.append_assoc]
  exact fun t ht i hi hti => h.le hnes (hmem t ht) (hmem s hs) hti hhere hi

/-! ## Filling one needle -/

/-- Either the needle does not stand in the text, or there is a first place at which it does. -/
theorem not_standsAt_or_exists_first (needle text : Text) :
    (∀ i, ¬ Text.StandsAt needle text i) ∨
      ∃ before behind, text = before ++ needle ++ behind ∧
        ∀ i < before.length, ¬ Text.StandsAt needle text i := by
  by_cases hex : ∃ i, Text.StandsAt needle text i
  · right
    have hfirst := Nat.find_spec hex
    have hlen : (text.take (Nat.find hex)).length ≤ Nat.find hex := by
      rw [List.length_take]
      exact Nat.min_le_left _ _
    exact ⟨_, _, hfirst.eq_append, fun i hi => Nat.find_min hex (by omega)⟩
  · left
    exact fun i hi => hex ⟨i, hi⟩

/-- Filling a needle keeps what is in front of its first place. -/
theorem apply_append {kept behind : Text} (hne : first.needle ≠ [])
    (h : ∀ i < kept.length, ¬ Text.StandsAt first.needle (kept ++ behind) i) :
    first.apply (kept ++ behind) = kept ++ first.apply behind := by
  rw [← applyAtOnce_singleton hne, ← applyAtOnce_singleton hne]
  refine applyAtOnce_append_of_clear (by simpa using hne) ?_
  intro s hs
  rw [List.mem_singleton.1 hs]
  exact h

/-- Filling a needle keeps a character at which it does not stand. -/
theorem apply_cons {c : Char} {rest : Text} (hne : first.needle ≠ [])
    (h : ¬ first.needle <+: c :: rest) : first.apply (c :: rest) = c :: first.apply rest := by
  have hsingle : first.apply ([c] ++ rest) = [c] ++ first.apply rest := by
    refine apply_append hne ?_
    intro k hk
    rw [Nat.lt_one_iff.1 hk]
    exact fun hstands => h (Text.standsAt_zero.1 hstands)
  exact hsingle

@[simp] theorem apply_nil (hne : first.needle ≠ []) : first.apply [] = [] := by
  rw [← applyAtOnce_singleton hne]
  rfl

/-- Filling a needle at the beginning of the text writes its replacement. -/
theorem apply_needle_append (hne : first.needle ≠ []) (behind : Text) :
    first.apply (first.needle ++ behind) = first.replacement ++ first.apply behind := by
  rw [← applyAtOnce_singleton hne, ← applyAtOnce_singleton hne,
    applyAtOnce_of_find?_eq_some hne (List.find?_cons_of_pos ?_), List.drop_left]
  exact List.isPrefixOf_iff_prefix.2 (List.prefix_append _ _)

/-- Filling a needle brings no other needle to a place in front of the first place of its own. -/
theorem standsAt_of_standsAt_apply {needle : Text} {place : Nat} (hne : first.needle ≠ [])
    (hapart : Text.Apart first.replacement needle)
    (hclear : ∀ k ≤ place, ¬ Text.StandsAt first.needle text k)
    (h : Text.StandsAt needle (first.apply text) place) : Text.StandsAt needle text place := by
  rcases not_standsAt_or_exists_first first.needle text with hnone | ⟨before, behind, rfl, hfirst⟩
  · -- nothing was filled
    have hkeep : first.apply text = text := by
      rw [← applyAtOnce_singleton hne]
      refine applyAtOnce_eq_self ?_
      intro s hs
      rw [List.mem_singleton.1 hs]
      exact hnone
    rwa [hkeep] at h
  · have hlater : place < before.length := by
      by_contra hle
      refine hclear before.length (by omega) ?_
      unfold Text.StandsAt
      rw [List.append_assoc, List.drop_left]
      exact List.prefix_append _ _
    rw [List.append_assoc] at hfirst h ⊢
    rw [apply_append hne hfirst, apply_needle_append hne, ← List.append_assoc] at h
    -- the place is in front of the replacement, so the needle ends in front of it
    rcases hapart _ _ _ h with hle | hle
    · rw [List.append_assoc] at h
      exact (h.of_append hle).append _
    · omega

section OverlapFree

variable (hne : ∀ s ∈ first :: more, s.needle ≠ [])
  (hapart : ∀ s ∈ more, Text.Apart first.replacement s.needle)
  (hfree : Text.OverlapFree ((first :: more).map needle) text)
include hne hfree

/-- A later needle at the beginning is still there, in front of the filled rest. -/
theorem apply_eq_needle_append (hs : s ∈ more) (hclear : ¬ first.needle <+: text)
    (hp : s.needle <+: text) :
    first.apply text = s.needle ++ first.apply (text.drop s.needle.length) := by
  rcases hp with ⟨behind, rfl⟩
  rw [List.drop_left]
  refine apply_append (hne first List.mem_cons_self) ?_
  intro i hi hfirst
  have hnes : ∀ t ∈ (first :: more).map needle, t ≠ [] := by
    simpa using hne
  rcases Nat.eq_zero_or_pos i with rfl | hpos
  · exact hclear (Text.standsAt_zero.1 hfirst)
  · have hle := hfree.le hnes (List.mem_map_of_mem (List.mem_cons_of_mem _ hs))
      (List.mem_map_of_mem List.mem_cons_self) (Text.standsAt_zero.2 (List.prefix_append _ _))
      hfirst hpos
    omega

include hapart

/-- A later needle stands at the beginning of the text exactly when it does so after the filling. -/
theorem prefix_apply_iff (hs : s ∈ more) (hclear : ¬ first.needle <+: text) :
    s.needle <+: first.apply text ↔ s.needle <+: text := by
  constructor
  · intro hp
    refine Text.standsAt_zero.1 (standsAt_of_standsAt_apply (hne first List.mem_cons_self)
      (hapart s hs) ?_ (Text.standsAt_zero.2 hp))
    intro k hk
    rw [Nat.le_zero.1 hk]
    exact fun h => hclear (Text.standsAt_zero.1 h)
  · intro hp
    rw [apply_eq_needle_append hne hfree hs hclear hp]
    exact List.prefix_append _ _

end OverlapFree

/-- Filling the first needle leaves the later ones overlap-free. -/
theorem overlapFree_apply (hne : ∀ s ∈ first :: more, s.needle ≠ [])
    (hapart : ∀ s ∈ more, Text.Apart first.replacement s.needle)
    (hfree : Text.OverlapFree ((first :: more).map needle) text) :
    Text.OverlapFree (more.map needle) (first.apply text) := by
  refine Text.overlapFree_of_le ?_
  intro i j hij x hx y hy hi hj
  rcases List.mem_map.1 hx with ⟨s, hs, rfl⟩
  rcases List.mem_map.1 hy with ⟨t, ht, rfl⟩
  have hnes : ∀ t ∈ (first :: more).map needle, t ≠ [] := by
    simpa using hne
  have hnef := hne first List.mem_cons_self
  -- on the length of the text, whose beginning is taken off together with what it is filled with
  induction hn : text.length using Nat.strong_induction_on generalizing text i j with
  | _ n ih =>
    by_cases hp : first.needle <+: text
    · -- both places are behind the first replacement
      rcases hp with ⟨behind, rfl⟩
      have hpos := List.length_pos_iff.2 hnef
      have hspos := List.length_pos_iff.2 (hne s (List.mem_cons_of_mem _ hs))
      rw [apply_needle_append hnef] at hi hj
      have hile : first.replacement.length ≤ i := by
        have hcase := hapart s hs [] (first.apply behind) i hi
        simp only [List.length_nil] at hcase
        omega
      rcases Nat.exists_eq_add_of_le hile with ⟨i', rfl⟩
      rcases Nat.exists_eq_add_of_le (Nat.le_trans hile hij) with ⟨j', rfl⟩
      have hfreeb := hfree.drop first.needle.length
      rw [List.drop_left] at hfreeb
      rcases ih behind.length (by rw [← hn, List.length_append]; omega) hfreeb i' j' (by omega)
        (Text.standsAt_append_add.1 hi) (Text.standsAt_append_add.1 hj) rfl with ⟨heq, hst⟩ | hle
      · exact .inl ⟨by omega, hst⟩
      · exact .inr (by omega)
    · cases text with
      | nil =>
        rw [apply_nil hnef] at hi
        have hlt := hi.lt_length (hne s (List.mem_cons_of_mem _ hs))
        simp at hlt
      | cons c rest =>
        have hstep := apply_cons hnef hp
        cases i with
        | succ i =>
          -- both places are behind the first character, which is kept
          rcases Nat.exists_eq_succ_of_ne_zero (show j ≠ 0 by omega) with ⟨j, rfl⟩
          rw [hstep] at hi hj
          rcases ih rest.length (by simp [← hn]) (hfree.drop 1) i j (by omega)
            (Text.standsAt_cons_succ.1 hi) (Text.standsAt_cons_succ.1 hj) rfl with ⟨heq, hst⟩ | hle
          · exact .inl ⟨by omega, hst⟩
          · exact .inr (by omega)
        | zero =>
          -- the needle at the beginning stood there before the filling
          have hsp := (prefix_apply_iff hne hapart hfree hs hp).1 (Text.standsAt_zero.1 hi)
          by_cases hlt : j < s.needle.length
          · -- no first needle starts within the later one, so `t` stood here before
            have hclear : ∀ k ≤ j, ¬ Text.StandsAt first.needle (c :: rest) k := by
              intro k hk hfirst
              rcases Nat.eq_zero_or_pos k with rfl | hkpos
              · exact hp (Text.standsAt_zero.1 hfirst)
              · have hle := hfree.le hnes (List.mem_map_of_mem (List.mem_cons_of_mem _ hs))
                  (List.mem_map_of_mem List.mem_cons_self) (Text.standsAt_zero.2 hsp) hfirst hkpos
                omega
            have htj := standsAt_of_standsAt_apply hnef (hapart t ht) hclear hj
            rcases Nat.eq_zero_or_pos j with rfl | hjpos
            · exact .inl ⟨rfl, hfree.eq hnes (List.mem_map_of_mem (List.mem_cons_of_mem _ hs))
                (List.mem_map_of_mem (List.mem_cons_of_mem _ ht)) (Text.standsAt_zero.2 hsp) htj⟩
            · exact .inr (hfree.le hnes (List.mem_map_of_mem (List.mem_cons_of_mem _ hs))
                (List.mem_map_of_mem (List.mem_cons_of_mem _ ht)) (Text.standsAt_zero.2 hsp) htj
                hjpos)
          · exact .inr (by omega)

/-! ## One pass for many -/

/-- The first substitution can be taken out of the single pass and made before it. -/
theorem applyAtOnce_cons_eq_applyAtOnce_apply (hne : ∀ s ∈ first :: more, s.needle ≠ [])
    (hapart : ∀ s ∈ more, Text.Apart first.replacement s.needle)
    (hfree : Text.OverlapFree ((first :: more).map needle) text) :
    applyAtOnce (first :: more) text = applyAtOnce more (first.apply text) := by
  have hnef := hne first List.mem_cons_self
  have hnem : ∀ s ∈ more, s.needle ≠ [] := fun s hs => hne s (List.mem_cons_of_mem _ hs)
  induction hn : text.length using Nat.strong_induction_on generalizing text with
  | _ n ih =>
    by_cases hp : first.needle <+: text
    · -- both write the first replacement, and no later needle reaches into it
      rcases hp with ⟨behind, rfl⟩
      have hpos := List.length_pos_iff.2 hnef
      have hfreeb := hfree.drop first.needle.length
      rw [List.drop_left] at hfreeb
      have hrest := ih behind.length (by rw [← hn, List.length_append]; omega) hfreeb rfl
      have hclear : ∀ s ∈ more, ∀ i < first.replacement.length,
          ¬ Text.StandsAt s.needle (first.replacement ++ first.apply behind) i := by
        intro s hs i hi h
        have hcase := hapart s hs [] (first.apply behind) i h
        have hspos := List.length_pos_iff.2 (hnem s hs)
        simp only [List.length_nil] at hcase
        omega
      rw [applyAtOnce_of_find?_eq_some hnef (List.find?_cons_of_pos
          (List.isPrefixOf_iff_prefix.2 (List.prefix_append _ _))), List.drop_left,
        apply_needle_append hnef, applyAtOnce_append_of_clear hnem hclear, hrest]
    · have hskip : (first :: more).find? (fun s => s.needle.isPrefixOf text) =
          more.find? (fun s => s.needle.isPrefixOf text) :=
        List.find?_cons_of_neg fun h => hp (List.isPrefixOf_iff_prefix.1 h)
      have hsame : more.find? (fun s => s.needle.isPrefixOf (first.apply text)) =
          more.find? (fun s => s.needle.isPrefixOf text) :=
        find?_congr_prefix fun s hs => prefix_apply_iff hne hapart hfree hs hp
      cases hfind : more.find? (fun s => s.needle.isPrefixOf text) with
      | some s =>
        -- both find the same later needle
        have hs := List.mem_of_find?_eq_some hfind
        have hpos := List.length_pos_iff.2 (hnem s hs)
        have hsp := prefix_of_find?_eq_some hfind
        have hlen := hsp.length_le
        have hrest := ih (text.drop s.needle.length).length
          (by rw [List.length_drop]; omega) (hfree.drop _) rfl
        rw [applyAtOnce_of_find?_eq_some (hnem s hs) (hskip.trans hfind),
          applyAtOnce_of_find?_eq_some (hnem s hs) (hsame.trans hfind), hrest,
          apply_eq_needle_append hne hfree hs hp hsp, List.drop_left]
      | none =>
        cases text with
        | nil =>
          rw [apply_nil hnef]
          rfl
        | cons c rest =>
          -- both keep the character
          have hstep := apply_cons hnef hp
          have hnone := hsame.trans hfind
          rw [hstep] at hnone ⊢
          have hrest := ih rest.length (by simp [← hn]) (hfree.drop 1) rfl
          rw [List.drop_one, List.tail_cons] at hrest
          rw [applyAtOnce_cons_of_find?_eq_none (hskip.trans hfind),
            applyAtOnce_cons_of_find?_eq_none hnone, hrest]

/-- **Many passes are one**: substitutions that are made one after the other fill every needle of an
overlap-free text at once, if no replacement can become a part of a later needle. -/
theorem applyAll_eq_applyAtOnce (hne : ∀ s ∈ substitutions, s.needle ≠ [])
    (hapart : substitutions.Pairwise fun s t => Text.Apart s.replacement t.needle)
    (hfree : Text.OverlapFree (substitutions.map needle) text) :
    applyAll substitutions text = applyAtOnce substitutions text := by
  induction substitutions generalizing text with
  | nil => simp
  | cons first more ih =>
    rw [List.pairwise_cons] at hapart
    rw [applyAll_cons, applyAtOnce_cons_eq_applyAtOnce_apply hne hapart.1 hfree]
    exact ih (fun s hs => hne s (List.mem_cons_of_mem _ hs)) hapart.2
      (overlapFree_apply hne hapart.1 hfree)

end Tilewright.Substitution
