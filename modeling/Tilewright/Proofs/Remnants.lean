import Tilewright.Proofs.Hygiene
import Tilewright.Proofs.Pieces

/-!
# What remains of the placeholders

The placeholders of a terrain are filled one after the other. Once a tag has been filled it is not
in the text, and it must not come back: neither out of what is written for a later tag, nor out of
the text on both sides of it.

* `Substitution.not_infix_apply`: a needle that is absent stays absent, as long as it keeps clear of
  what is written.
* `Substitution.not_infix_applyAll_of_mem`: so no needle is left when all have been filled.
* `Terrain.OpensNoTag` holds for a terrain whose texts cannot begin a tag, and then every tag keeps
  clear of everything that is written (`Terrain.OpensNoTag.apart`).
* `Host.no_tag_survives`: no tag is left in the expansion, except across the places where a value
  was left out. Nothing is written there, so that the text on both sides of it meets.
-/

namespace Tilewright

/-! ## Needles that are gone -/

namespace Substitution

variable {substitutions : List Substitution} {text t : Text}

/-- Filling another needle does not bring a needle back that keeps clear of what is written. -/
theorem not_infix_apply {s : Substitution} (hne : s.needle ≠ []) (ht : t ≠ [])
    (hapart : Text.Apart s.replacement t) (habsent : ¬ t <:+: text) : ¬ t <:+: s.apply text := by
  intro hinfix
  rw [apply_eq_joinWith hne] at hinfix
  rcases Text.exists_infix_of_infix_joinWith ht hapart hinfix with ⟨piece, hpiece, hpart⟩
  exact Text.not_infix_of_mem_pieces_of_not_infix hne habsent piece hpiece hpart

/-- A needle that has been filled is gone, if it keeps clear of what is written for it. -/
theorem needle_not_infix_apply {s : Substitution} (hne : s.needle ≠ [])
    (hapart : Text.Apart s.replacement s.needle) (text : Text) :
    ¬ s.needle <:+: s.apply text := by
  intro hinfix
  rw [apply_eq_joinWith hne] at hinfix
  rcases Text.exists_infix_of_infix_joinWith hne hapart hinfix with ⟨piece, hpiece, hpart⟩
  exact Text.not_infix_of_mem_pieces hne text piece hpiece hpart

/-- A needle that is gone does not come back in any number of steps. -/
theorem not_infix_applyAll (hne : ∀ s ∈ substitutions, s.needle ≠ []) (ht : t ≠ [])
    (hapart : ∀ s ∈ substitutions, Text.Apart s.replacement t) (habsent : ¬ t <:+: text) :
    ¬ t <:+: applyAll substitutions text := by
  induction substitutions generalizing text with
  | nil => exact habsent
  | cons first more ih =>
    rw [List.forall_mem_cons] at hne hapart
    have hstep := not_infix_apply hne.1 ht hapart.1 habsent
    exact ih hne.2 hapart.2 hstep

/-- No needle is left once all have been filled. -/
theorem not_infix_applyAll_of_mem {s : Substitution} (hs : s ∈ substitutions)
    (hne : ∀ s ∈ substitutions, s.needle ≠ [])
    (hapart : ∀ other ∈ substitutions, Text.Apart other.replacement s.needle) (text : Text) :
    ¬ s.needle <:+: applyAll substitutions text := by
  -- it goes when it is filled itself, and the later ones do not bring it back
  rcases List.append_of_mem hs with ⟨front, rear, rfl⟩
  rw [List.forall_mem_append, List.forall_mem_cons] at hne hapart
  rw [applyAll_append, applyAll_cons]
  have hgone := needle_not_infix_apply hne.2.1 hapart.2.1 (applyAll front text)
  exact not_infix_applyAll hne.2.2 hne.2.1 hapart.2.2 hgone

end Substitution

open Placeholder

/-! ## Terrains that open no tag -/

/-- None of the texts of the terrain can begin a tag. The class name may: it is written before any
tag is filled. -/
structure Terrain.OpensNoTag (terrain : Terrain) : Prop where
  name : ¬ "/*".toList <:+: terrain.name
  shortName : ¬ "/*".toList <:+: terrain.shortName
  description : ¬ "/*".toList <:+: terrain.description

instance (terrain : Terrain) : Decidable terrain.OpensNoTag :=
  decidable_of_iff
    (Text.occursIn "/*".toList terrain.name = false ∧
      Text.occursIn "/*".toList terrain.shortName = false ∧
      Text.occursIn "/*".toList terrain.description = false) (by
    simp only [← Bool.not_eq_true, Text.occursIn_iff]
    exact ⟨fun ⟨name, shortName, description⟩ => ⟨name, shortName, description⟩,
      fun ⟨name, shortName, description⟩ => ⟨name, shortName, description⟩⟩)

theorem prefix_tag (name : Text) : "/*".toList <+: tag name := by
  unfold tag
  rw [List.append_assoc]
  exact List.prefix_append _ _

/-- A text that holds a tag holds its beginning. -/
theorem not_infix_of_mem_tags {t text : Text} (ht : t ∈ tags) (h : ¬ "/*".toList <:+: text) :
    ¬ t <:+: text := by
  have hprefix : "/*".toList <+: t := by
    simp only [tags, List.mem_append, List.mem_map] at ht
    rcases ht with (⟨name, -, rfl⟩ | ⟨m, -, rfl⟩) | ⟨name, -, rfl⟩
    · exact prefix_tag _
    · exact prefix_tag _
    · exact prefix_tag _
  intro hinfix
  exact h (List.IsInfix.trans hprefix.isInfix hinfix)

theorem apart_valueMembers {t : Text} (ht : t ∈ tags) : Text.Apart valueMembers t := by
  have hdigit : '/' ∉ valueMembers ∧ '9' ∈ valueMembers ∧ '9'.isDigit = true := by
    decide +kernel
  exact apart_of_isDigit ht hdigit.1 ⟨'9', hdigit.2⟩

/-- The tag of the value is filled last. -/
theorem Terrain.substitutions_eq_append (terrain : Terrain) (serial : Nat) :
    terrain.substitutions serial = (terrain.substitutions serial).dropLast ++
      [fill "value" (if terrain.holdsValue then valueMembers else [])] := rfl

/-- Between the class word and the value all the other tags are filled. -/
theorem Terrain.exists_dropLast_eq (terrain : Terrain) (serial : Nat) :
    ∃ middle, (terrain.substitutions serial).dropLast = ⟨classWord, terrain.className⟩ :: middle ∧
      middle.map Substitution.needle = tags.dropLast :=
  ⟨_, rfl, rfl⟩

theorem tags_eq_append : tags = tags.dropLast ++ [tag "value".toList] := rfl

theorem mem_dropLast_tags {t : Text} (ht : t ∈ tags) (hne : t ≠ tag "value".toList) :
    t ∈ tags.dropLast := by
  rw [tags_eq_append, List.mem_append, List.mem_singleton] at ht
  rcases ht with hearlier | hlast
  · exact hearlier
  · exact absurd hlast hne

/-- The class word and the tag of the value are none of the other tags. -/
theorem not_mem_dropLast_tags :
    classWord ∉ tags.dropLast ∧ tag "value".toList ∉ tags.dropLast := by
  have hnodup := nodup_needles
  rw [tags_eq_append, List.nodup_cons, List.nodup_append] at hnodup
  rcases hnodup with ⟨hword, -, -, hdisjoint⟩
  constructor
  · exact fun h => hword (List.mem_append_left _ h)
  · exact fun h => hdisjoint _ h _ (List.mem_singleton_self _) rfl

/-- Every tag keeps clear of what is written for a tag before the value. -/
theorem Terrain.OpensNoTag.apart {terrain : Terrain} (h : terrain.OpensNoTag) {serial : Nat}
    {s : Substitution} (hs : s ∈ terrain.substitutions serial)
    (hneedle : s.needle ∈ tags.dropLast) {t : Text} (ht : t ∈ tags) :
    Text.Apart s.replacement t := by
  refine apart_of_mem_substitutions hs ht ?_ ?_ ?_ ?_ ?_
  · intro hclass
    rw [hclass] at hneedle
    exact absurd hneedle not_mem_dropLast_tags.1
  · intro _
    exact not_infix_of_mem_tags ht h.name
  · intro _
    exact not_infix_of_mem_tags ht h.shortName
  · intro _
    exact not_infix_of_mem_tags ht h.description
  · intro hvalue
    rw [hvalue] at hneedle
    exact absurd hneedle not_mem_dropLast_tags.2

/-- When the value is filled no other tag is left. -/
theorem Terrain.OpensNoTag.not_infix_filled {terrain : Terrain} (h : terrain.OpensNoTag)
    (serial : Nat) (region : Text) {t : Text} (ht : t ∈ tags) (hne : t ≠ tag "value".toList) :
    ¬ t <:+: Substitution.applyAll (terrain.substitutions serial).dropLast region := by
  rcases terrain.exists_dropLast_eq serial with ⟨middle, hdrop, hneedles⟩
  rw [hdrop, Substitution.applyAll_cons]
  have hmiddle : ∀ s ∈ middle, s ∈ terrain.substitutions serial ∧ s.needle ∈ tags.dropLast := by
    intro s hs
    constructor
    · apply List.dropLast_subset
      rw [hdrop]
      exact List.mem_cons_of_mem _ hs
    · rw [← hneedles]
      exact List.mem_map_of_mem hs
  have hmem : t ∈ middle.map Substitution.needle := by
    rw [hneedles]
    exact mem_dropLast_tags ht hne
  rcases List.mem_map.1 hmem with ⟨s, hs, rfl⟩
  apply Substitution.not_infix_applyAll_of_mem hs
  · intro other hother
    have htag := List.dropLast_subset tags (hmiddle other hother).2
    exact ne_nil_of_mem_needles _ (List.mem_cons_of_mem _ htag)
  · intro other hother
    exact h.apart (hmiddle other hother).1 (hmiddle other hother).2 ht

theorem Host.expand_eq_apply_value (host : Host) (terrain : Terrain) (serial : Nat) :
    host.expand terrain serial =
      (fill "value" (if terrain.holdsValue then valueMembers else [])).apply
        (Substitution.applyAll (terrain.substitutions serial).dropLast host.region) := by
  rw [expand]
  conv_lhs => rw [terrain.substitutions_eq_append serial]
  rw [Substitution.applyAll_append, Substitution.applyAll_cons, Substitution.applyAll_nil]

/-- **No tag survives the expansion.** The value is filled last, and in the text that it is filled in
no other tag is left, however tags overlap in the region and whatever the class name completes. So
where the terrain holds a value no tag at all is left. Where it holds none the pieces between the
tags of the value are put together, and a tag can only stand across a cut between two of them. -/
theorem Host.no_tag_survives (host : Host) {terrain : Terrain} (serial : Nat)
    (h : terrain.OpensNoTag) :
    let last := fill "value" (if terrain.holdsValue then valueMembers else [])
    let filled := Substitution.applyAll (terrain.substitutions serial).dropLast host.region
    let pieces := Text.pieces last.needle filled
    terrain.substitutions serial = (terrain.substitutions serial).dropLast ++ [last] ∧
      (∀ t ∈ tags, t ≠ last.needle → ¬ t <:+: filled) ∧
      (terrain.holdsValue = true → ∀ t ∈ tags, ¬ t <:+: host.expand terrain serial) ∧
      (terrain.holdsValue = false →
        Text.joinWith last.needle pieces = filled ∧
        host.expand terrain serial = pieces.flatten ∧
        ∀ t ∈ tags, ∀ place, Text.StandsAt t (host.expand terrain serial) place →
          Text.StandsAcross pieces t place) := by
  intro last filled pieces
  have hneedle : last.needle ≠ [] := by
    show tag "value".toList ≠ []
    decide
  have hfilled : ∀ t ∈ tags, t ≠ last.needle → ¬ t <:+: filled :=
    fun t ht hne => h.not_infix_filled serial host.region ht hne
  have hlast : host.expand terrain serial = last.apply filled :=
    host.expand_eq_apply_value terrain serial
  refine ⟨terrain.substitutions_eq_append serial, hfilled, ?_, ?_⟩
  · intro hvalue t ht
    have hreplacement : last.replacement = valueMembers := if_pos hvalue
    have hapart : Text.Apart last.replacement t := by
      rw [hreplacement]
      exact apart_valueMembers ht
    rw [hlast]
    by_cases hself : t = last.needle
    · subst hself
      exact Substitution.needle_not_infix_apply hneedle hapart filled
    · have hne : t ≠ [] := ne_nil_of_mem_needles t (List.mem_cons_of_mem _ ht)
      exact Substitution.not_infix_apply hneedle hne hapart (hfilled t ht hself)
  · intro hvalue
    have hreplacement : last.replacement = [] := by
      show (if terrain.holdsValue then valueMembers else []) = []
      rw [hvalue, if_neg Bool.false_ne_true]
    have hflatten : host.expand terrain serial = pieces.flatten := by
      rw [hlast, Substitution.apply_eq_joinWith hneedle, hreplacement, Text.joinWith_of_nil]
    refine ⟨Text.joinWith_pieces hneedle filled, hflatten, ?_⟩
    intro t ht place hplace
    rw [hflatten] at hplace
    have hne : t ≠ [] := ne_nil_of_mem_needles t (List.mem_cons_of_mem _ ht)
    refine Text.standsAcross_of_standsAt_flatten hne ?_ hplace
    -- a piece holds neither the tag of the value nor any other
    intro piece hpiece
    by_cases hself : t = last.needle
    · subst hself
      exact Text.not_infix_of_mem_pieces hneedle filled piece hpiece
    · exact Text.not_infix_of_mem_pieces_of_not_infix hneedle (hfilled t ht hself) piece hpiece

/-- A tag that is split by a tag of the value, and one that the class name completes. -/
def Host.splitTag : Host :=
  ⟨[], "/*na/*value*/me*/ Template*/".toList⟩

/-- Where no value is held the split tag comes together, across the cut and after its turn. -/
theorem Host.expand_splitTag :
    let reef : Terrain := { name := "/ *inf".toList, moveCosts := { infantry := 1 } }
    let city : Terrain := { reef with holdsValue := true }
    reef.OpensNoTag ∧ city.OpensNoTag ∧
      splitTag.expand reef 0 = "/*name*/ 1".toList ∧
      Text.StandsAt (tag "name".toList) (splitTag.expand reef 0) 0 ∧
      Text.StandsAcross ["/*na".toList, "me*/ 1".toList] (tag "name".toList) 0 ∧
      ∀ t ∈ tags, ¬ t <:+: splitTag.expand city 0 := by
  intro reef city
  have hreef : reef.OpensNoTag := by decide
  have hcity : city.OpensNoTag := by decide
  have hexpand : splitTag.expand reef 0 = "/*name*/ 1".toList := by decide +kernel
  have hstands : Text.StandsAt (tag "name".toList) (splitTag.expand reef 0) 0 := by
    rw [hexpand]
    decide
  have hpieces : Text.pieces (tag "value".toList)
      (Substitution.applyAll (reef.substitutions 0).dropLast splitTag.region) =
      ["/*na".toList, "me*/ 1".toList] := by decide +kernel
  refine ⟨hreef, hcity, hexpand, hstands, ?_, ?_⟩
  · rcases splitTag.no_tag_survives 0 hreef with ⟨-, -, -, hcut⟩
    have hacross := (hcut rfl).2.2 (tag "name".toList) (by decide) 0 hstands
    rw [← hpieces]
    exact hacross
  · exact (splitTag.no_tag_survives 0 hcity).2.2.1 rfl

end Tilewright
