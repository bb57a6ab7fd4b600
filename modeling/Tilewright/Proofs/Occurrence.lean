import Mathlib.Tactic.Common
import Tilewright.Text.Basic

/-!
# Where needles stand

A needle stands at a place of a text when the text goes on with it from there. Two needles that
stand in one text may overlap, as two tags that share a slash do.

* `Text.OverlapFree` holds for a text in which no two of some needles overlap. It passes on to what
  is left when something is dropped in front (`OverlapFree.drop`), and a needle that keeps clear of
  the others and of itself can be added (`overlapFree_cons`).
* `Text.Apart written needle` says that the needle never stands in part on `written`, whatever is
  around it. It holds when a mark at both ends of the needle is not in `written` and the needle does
  not enclose it (`apart_of_not_infix`), and when `written` stands between marks that are not in the
  needle and does not enclose it (`apart_of_enclosed`).
-/

namespace Tilewright.Text

/-- The needle stands in the text from this place on. -/
def StandsAt (needle text : Text) (place : Nat) : Prop :=
  needle <+: text.drop place

instance (needle text : Text) (place : Nat) : Decidable (StandsAt needle text place) :=
  inferInstanceAs (Decidable (needle <+: text.drop place))

/-- No two of the needles overlap in the text. -/
def OverlapFree (needles : List Text) (text : Text) : Prop :=
  ∀ i < text.length, ∀ s ∈ needles, StandsAt s text i →
    ∀ j < text.length, ∀ t ∈ needles, StandsAt t text j →
      (i = j ∧ s = t) ∨ i + s.length ≤ j ∨ j + t.length ≤ i

instance (needles : List Text) (text : Text) : Decidable (OverlapFree needles text) :=
  @Nat.decidableBallLT text.length _ fun i _ =>
    @List.decidableBAll _ _ (fun s => @instDecidableForall (StandsAt s text i) _ _
      (@Nat.decidableBallLT text.length _ fun j _ =>
        @List.decidableBAll _ _ (fun t => @instDecidableForall (StandsAt t text j)
          ((i = j ∧ s = t) ∨ i + s.length ≤ j ∨ j + t.length ≤ i) _ _) needles)) needles

/-- No needle stands in part between the two places of the text. -/
def Untouched (needles : List Text) (text : Text) (start stop : Nat) : Prop :=
  ∀ s ∈ needles, ∀ i, StandsAt s text i → i + s.length ≤ start ∨ stop ≤ i

/-- Wherever `written` is put, the needle never stands on a part of it. -/
def Apart (written needle : Text) : Prop :=
  ∀ before behind place, StandsAt needle (before ++ written ++ behind) place →
    place + needle.length ≤ before.length ∨ before.length + written.length ≤ place

/-! ## Places -/

theorem standsAt_iff_getElem? {needle text : Text} {place : Nat} :
    StandsAt needle text place ↔ ∀ k < needle.length, text[place + k]? = needle[k]? := by
  unfold StandsAt
  rw [List.prefix_iff_getElem?]
  constructor
  · intro h k hk
    rw [← List.getElem?_drop, h k hk, List.getElem?_eq_getElem hk]
  · intro h k hk
    rw [List.getElem?_drop, h k hk, List.getElem?_eq_getElem hk]

theorem standsAt_zero {needle text : Text} : StandsAt needle text 0 ↔ needle <+: text := by
  simp [StandsAt]

theorem standsAt_drop {needle text : Text} {k place : Nat} :
    StandsAt needle (text.drop k) place ↔ StandsAt needle text (k + place) := by
  simp [StandsAt, List.drop_drop]

theorem standsAt_append_add {needle before text : Text} {place : Nat} :
    StandsAt needle (before ++ text) (before.length + place) ↔ StandsAt needle text place := by
  rw [← standsAt_drop, List.drop_left]

theorem standsAt_cons_succ {needle text : Text} {c : Char} {place : Nat} :
    StandsAt needle (c :: text) (place + 1) ↔ StandsAt needle text place := Iff.rfl

/-- A needle that stands in the first of two texts stands in both of them together. -/
theorem StandsAt.append {needle text : Text} {place : Nat} (h : StandsAt needle text place)
    (behind : Text) : StandsAt needle (text ++ behind) place := by
  unfold StandsAt at h ⊢
  rw [List.drop_append]
  exact h.trans (List.prefix_append _ _)

/-- A needle that ends within the first of two texts stands in that one. -/
theorem StandsAt.of_append {needle text behind : Text} {place : Nat}
    (h : StandsAt needle (text ++ behind) place) (hle : place + needle.length ≤ text.length) :
    StandsAt needle text place := by
  rw [standsAt_iff_getElem?] at h ⊢
  intro k hk
  rw [← h k hk, List.getElem?_append_left (by omega)]

theorem StandsAt.lt_length {needle text : Text} {place : Nat} (h : StandsAt needle text place)
    (hne : needle ≠ []) : place < text.length := by
  have hlen := List.IsPrefix.length_le h
  have hpos := List.length_pos_iff.2 hne
  rw [List.length_drop] at hlen
  omega

theorem StandsAt.infix {needle text : Text} {place : Nat} (h : StandsAt needle text place) :
    needle <:+: text :=
  List.IsInfix.trans (List.IsPrefix.isInfix h) (List.drop_suffix place text).isInfix

/-- The text is cut around a needle that stands in it. -/
theorem StandsAt.eq_append {needle text : Text} {place : Nat} (h : StandsAt needle text place) :
    text = text.take place ++ needle ++ text.drop (place + needle.length) := by
  rcases h with ⟨behind, hb⟩
  have hcut : text = text.take place ++ (needle ++ behind) := by
    rw [hb, List.take_append_drop]
  have hdrop : text.drop (place + needle.length) = behind := by
    rw [← List.drop_drop, ← hb, List.drop_left]
  rw [hdrop, List.append_assoc, ← hcut]

/-! ## Overlaps -/

/-- Two places are compared in one order only. -/
theorem overlapFree_of_le {needles : List Text} {text : Text}
    (h : ∀ i j, i ≤ j → ∀ s ∈ needles, ∀ t ∈ needles, StandsAt s text i → StandsAt t text j →
      (i = j ∧ s = t) ∨ i + s.length ≤ j) : OverlapFree needles text := by
  intro i _ s hs hi j _ t ht hj
  rcases Nat.le_total i j with hij | hji
  · rcases h i j hij s hs t ht hi hj with heq | hle
    · exact .inl heq
    · exact .inr (.inl hle)
  · rcases h j i hji t ht s hs hj hi with ⟨heq, hst⟩ | hle
    · exact .inl ⟨heq.symm, hst.symm⟩
    · exact .inr (.inr hle)

/-- Of two needles in an overlap-free text, the one that starts later starts behind the other. -/
theorem OverlapFree.le {needles : List Text} {text : Text} (h : OverlapFree needles text)
    (hne : ∀ s ∈ needles, s ≠ []) {s t : Text} (hs : s ∈ needles) (ht : t ∈ needles) {i j : Nat}
    (hi : StandsAt s text i) (hj : StandsAt t text j) (hij : i < j) : i + s.length ≤ j := by
  rcases h i (hi.lt_length (hne s hs)) s hs hi j (hj.lt_length (hne t ht)) t ht hj with
    ⟨heq, -⟩ | hle | hle
  · omega
  · exact hle
  · omega

/-- At one place of an overlap-free text stands one needle at most. -/
theorem OverlapFree.eq {needles : List Text} {text : Text} (h : OverlapFree needles text)
    (hne : ∀ s ∈ needles, s ≠ []) {s t : Text} (hs : s ∈ needles) (ht : t ∈ needles) {i : Nat}
    (hi : StandsAt s text i) (hj : StandsAt t text i) : s = t := by
  have hspos := List.length_pos_iff.2 (hne s hs)
  have htpos := List.length_pos_iff.2 (hne t ht)
  rcases h i (hi.lt_length (hne s hs)) s hs hi i (hj.lt_length (hne t ht)) t ht hj with
    ⟨-, heq⟩ | hle | hle
  · exact heq
  · omega
  · omega

theorem OverlapFree.drop {needles : List Text} {text : Text} (h : OverlapFree needles text)
    (k : Nat) : OverlapFree needles (text.drop k) := by
  intro i hi s hs hsi j hj t ht htj
  rw [List.length_drop] at hi hj
  rcases h (k + i) (by omega) s hs (standsAt_drop.1 hsi) (k + j) (by omega) t ht
    (standsAt_drop.1 htj) with ⟨heq, hst⟩ | hle | hle
  · exact .inl ⟨by omega, hst⟩
  · exact .inr (.inl (by omega))
  · exact .inr (.inr (by omega))

/-- A needle whose first character does not come back never overlaps itself. -/
theorem StandsAt.le_of_not_mem_tail {c : Char} {rest text : Text} {i j : Nat} (hc : c ∉ rest)
    (hi : StandsAt (c :: rest) text i) (hj : StandsAt (c :: rest) text j) (hij : i < j) :
    i + (c :: rest).length ≤ j := by
  rw [standsAt_iff_getElem?] at hi hj
  by_contra hlt
  have hfirst : text[j]? = some c := by simpa using hj 0 (by simp)
  have hinside := hi (j - i) (by omega)
  rw [Nat.add_sub_cancel' (by omega), hfirst, List.getElem?_cons, if_neg (by omega)] at hinside
  exact hc (List.mem_of_getElem? hinside.symm)

/-- A needle can be added that keeps clear of itself and of the others. -/
theorem overlapFree_cons {needle : Text} {needles : List Text} {text : Text}
    (hself : ∀ i j, StandsAt needle text i → StandsAt needle text j → i < j →
      i + needle.length ≤ j)
    (hapart : ∀ t ∈ needles, Apart needle t) (h : OverlapFree needles text) :
    OverlapFree (needle :: needles) text := by
  -- the new needle and one of the others
  have hmixed : ∀ t ∈ needles, ∀ i j, i ≤ text.length → StandsAt needle text i →
      StandsAt t text j → j + t.length ≤ i ∨ i + needle.length ≤ j := by
    intro t ht i j hi hni htj
    rw [hni.eq_append] at htj
    simpa [Nat.min_eq_left hi] using hapart t ht _ _ j htj
  intro i hi s hs hsi j hj t ht htj
  rcases List.mem_cons.1 hs with hsn | hso <;> rcases List.mem_cons.1 ht with htn | hto
  · -- two places of the new needle
    subst hsn htn
    rcases Nat.lt_trichotomy i j with hlt | heq | hgt
    · exact .inr (.inl (hself i j hsi htj hlt))
    · exact .inl ⟨heq, rfl⟩
    · exact .inr (.inr (hself j i htj hsi hgt))
  · subst hsn
    have hside := hmixed t hto i j (Nat.le_of_lt hi) hsi htj
    omega
  · subst htn
    have hside := hmixed s hso j i (Nat.le_of_lt hj) htj hsi
    omega
  · exact h i hi s hso hsi j hj t hto htj

/-! ## Keeping clear -/

/-- A needle with a mark at both ends keeps clear of a text that lacks the mark and is not a part of
the needle. -/
theorem apart_of_not_infix {written middle : Text} {mark : Char} (hmark : mark ∉ written)
    (hpart : ¬ written <:+: mark :: middle ++ [mark]) :
    Apart written (mark :: middle ++ [mark]) := by
  intro before behind place h
  rw [standsAt_iff_getElem?] at h
  by_contra hclear
  have hlen : (mark :: middle ++ [mark]).length = middle.length + 2 := by simp
  rw [hlen] at h hclear
  -- no place of `written` holds the mark
  have hnot : ∀ k, before.length ≤ k → k < before.length + written.length →
      (before ++ written ++ behind)[k]? ≠ some mark := by
    intro k hlo hhi hk
    rw [List.getElem?_append_left (by simp; omega), List.getElem?_append_right hlo] at hk
    exact hmark (List.mem_of_getElem? hk)
  have hfirst : (before ++ written ++ behind)[place]? = some mark := by
    simpa using h 0 (by omega)
  have hlast : (before ++ written ++ behind)[place + (middle.length + 1)]? = some mark := by
    rw [h (middle.length + 1) (by omega), List.getElem?_append_right (by simp)]
    simp
  have hbefore : place < before.length := by
    by_contra hge
    exact hnot place (by omega) (by omega) hfirst
  have hbehind : before.length + written.length ≤ place + (middle.length + 1) := by
    by_contra hlt
    exact hnot _ (by omega) (by omega) hlast
  -- so the needle encloses `written`
  have hstands : StandsAt written (mark :: middle ++ [mark]) (before.length - place) := by
    rw [standsAt_iff_getElem?]
    intro k hk
    rw [← h _ (by omega), List.getElem?_append_left (by simp; omega),
      List.getElem?_append_right (by omega)]
    congr 1
    omega
  exact hpart hstands.infix

/-- A needle keeps clear of a text between two marks that it lacks, if it is not in that text. -/
theorem apart_of_enclosed {middle needle : Text} {mark : Char} (hmark : mark ∉ needle)
    (hpart : ¬ needle <:+: middle) : Apart (mark :: middle ++ [mark]) needle := by
  intro before behind place h
  rw [standsAt_iff_getElem?] at h
  by_contra hclear
  have hlen : (mark :: middle ++ [mark]).length = middle.length + 2 := by simp
  rw [hlen] at hclear
  -- the needle holds no place at which a mark stands
  have hnot : ∀ k, place ≤ k → k < place + needle.length →
      (before ++ (mark :: middle ++ [mark]) ++ behind)[k]? ≠ some mark := by
    intro k hlo hhi hk
    have hat := h (k - place) (by omega)
    rw [Nat.add_sub_cancel' hlo, hk] at hat
    exact hmark (List.mem_of_getElem? hat.symm)
  have hopening : before.length < place := by
    by_contra hle
    refine hnot before.length (by omega) (by omega) ?_
    simp
  have hclosing : place + needle.length ≤ before.length + (middle.length + 1) := by
    by_contra hlt
    refine hnot (before.length + (middle.length + 1)) (by omega) (by omega) ?_
    rw [List.append_assoc, List.getElem?_append_right (by omega)]
    simp
  -- so the needle is in the middle
  have hstands : StandsAt needle middle (place - (before.length + 1)) := by
    rw [standsAt_iff_getElem?]
    intro k hk
    rw [← h k hk, List.append_assoc, List.getElem?_append_right (by omega),
      List.append_assoc, List.cons_append, List.getElem?_cons, if_neg (by omega),
      List.getElem?_append_left (by omega)]
    congr 1
    omega
  exact hpart hstands.infix

end Tilewright.Text
