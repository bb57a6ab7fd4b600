import Tilewright.Proofs.Remnants

/-!
# Placeholders that are not used

The placeholders that a region does not use are reported once, as the first terrain would have them
filled. What is reported does not depend on that terrain, and holds for all of them: filling the
other placeholders never makes one that was reported.

* `Substitution.applyAll_filter`: substitutions whose needles are absent can be left out, as long as
  nothing that is written becomes a part of a needle that is filled later.
* `Host.unused_eq`: what a region does not use is the same for every terrain.
* `Host.unused_sound`: exactly the absent placeholders are reported, and a hygienic terrain is
  written in the same way without any of them.
-/

namespace Tilewright

/-! ## Leaving out -/

namespace Substitution

variable {substitutions : List Substitution} {keep : Substitution → Bool} {text : Text}

/-- Substitutions whose needles are absent can be left out, as long as nothing that is written
becomes a part of a needle that is filled later. -/
theorem applyAll_filter (hne : ∀ s ∈ substitutions, s.needle ≠ [])
    (hapart : substitutions.Pairwise fun s t => Text.Apart s.replacement t.needle)
    (habsent : ∀ s ∈ substitutions, keep s = false → ¬ s.needle <:+: text) :
    applyAll (substitutions.filter keep) text = applyAll substitutions text := by
  induction substitutions generalizing text with
  | nil => rfl
  | cons first more ih =>
    rw [List.forall_mem_cons] at hne habsent
    rw [List.pairwise_cons] at hapart
    cases hkeep : keep first with
    | false =>
      -- the first needle is not there
      rw [List.filter_cons_of_neg (by simp [hkeep]), applyAll_cons,
        apply_of_not_infix (habsent.1 hkeep)]
      exact ih hne.2 hapart.2 habsent.2
    | true =>
      -- the first replacement brings none of the absent needles back
      rw [List.filter_cons_of_pos hkeep, applyAll_cons, applyAll_cons]
      apply ih hne.2 hapart.2
      intro s hs hdropped
      exact not_infix_apply hne.1 (hne.2 s hs) (hapart.1 s hs) (habsent.2 s hs hdropped)

end Substitution

open Placeholder

instance (terrain : Terrain) : Decidable terrain.Hygienic :=
  decidable_of_iff
    ('/' ∉ terrain.className ∧ (∀ t ∈ tags, Text.occursIn terrain.className t = false) ∧
      (∀ t ∈ tagsBehind "short name", Text.occursIn t terrain.shortName = false) ∧
      ∀ t ∈ tagsBehind "desc", Text.occursIn t terrain.description = false) (by
    simp only [← Bool.not_eq_true, Text.occursIn_iff]
    exact ⟨fun ⟨slash, part, shortName, description⟩ => ⟨slash, part, shortName, description⟩,
      fun ⟨slash, part, shortName, description⟩ => ⟨slash, part, shortName, description⟩⟩)

/-! ## Reports -/

/-- The placeholders that are reported as not used, in the order of the reports. -/
def Journal.unusedPlaceholders (journal : Journal) : List Text :=
  journal.filterMap fun
    | .placeholderUnused needle => some needle
    | _ => none

namespace Host

variable {host : Host} {terrain : Terrain}

/-- What a region does not use is the same for every terrain. -/
theorem unused_eq (host : Host) (terrain : Terrain) :
    host.unused terrain =
      (classWord :: tags).filter fun needle => !Text.occursIn needle host.region := by
  rw [unused, needles_substitutions_eq]

/-- A class that is stamped is no report of a placeholder. -/
theorem unusedPlaceholders_stampedFrom (serial : Nat) (terrains : List Terrain) :
    Journal.unusedPlaceholders (stampedFrom serial terrains) = [] := by
  induction terrains generalizing serial with
  | nil => rfl
  | cons terrain terrains ih => exact ih (serial + 1)

theorem unusedPlaceholders_map (needles : List Text) :
    Journal.unusedPlaceholders (needles.map .placeholderUnused) = needles := by
  simp [Journal.unusedPlaceholders, List.filterMap_map]

theorem unusedPlaceholders_stampEvents (host : Host) {terrains : List Terrain}
    (h : terrains ≠ []) :
    (host.stampEvents terrains).unusedPlaceholders =
      (classWord :: tags).filter fun needle => !Text.occursIn needle host.region := by
  cases terrains with
  | nil => exact absurd rfl h
  | cons first more =>
    have hreports := unusedPlaceholders_map (host.unused first)
    have hclasses := unusedPlaceholders_stampedFrom 0 (first :: more)
    rw [← unused_eq host first]
    unfold Journal.unusedPlaceholders at hreports hclasses ⊢
    unfold stampEvents
    rw [List.filterMap_append, hclasses, List.append_nil]
    exact hreports

/-- Exactly the needles that do not stand in the region are reported. -/
theorem mem_unusedPlaceholders_iff {terrains : List Terrain} (h : terrains ≠ []) (needle : Text) :
    needle ∈ (host.stampEvents terrains).unusedPlaceholders ↔
      needle ∈ classWord :: tags ∧ ¬ needle <:+: host.region := by
  rw [unusedPlaceholders_stampEvents host h, List.mem_filter, ← Text.occursIn_iff, Bool.not_eq_true,
    Bool.not_eq_true']

/-- A hygienic terrain is written in the same way without needles that are not in the region. -/
theorem applyAll_filter_of_absent (hygienic : terrain.Hygienic) (serial : Nat)
    {dropped : Text → Bool}
    (habsent : ∀ needle, dropped needle = true → ¬ needle <:+: host.region) :
    Substitution.applyAll ((terrain.substitutions serial).filter fun s => !dropped s.needle)
      host.region = host.expand terrain serial := by
  apply Substitution.applyAll_filter
  · intro s hs
    apply ne_nil_of_mem_needles
    rw [← needles_substitutions_eq terrain serial]
    exact List.mem_map_of_mem hs
  · exact hygienic.pairwise_apart serial
  · intro s _ hdropped
    exact habsent s.needle (by simpa using hdropped)

/-- **The reports of placeholders that are not used are sound.** The needles are the same for every
terrain. Those that do not stand in the region are reported, each in its turn, whichever terrains
there are and in whatever order. A hygienic terrain is written in the same way when any of the
reported placeholders are left out, also where tags overlap in the region. -/
theorem unused_sound (host : Host) {terrains : List Terrain} (hterrains : terrains ≠ []) :
    let reported := (host.stampEvents terrains).unusedPlaceholders
    ((classWord :: tags).length = 22 ∧ (classWord :: tags).Nodup ∧
        ∀ (terrain : Terrain) (serial : Nat),
          (terrain.substitutions serial).map Substitution.needle = classWord :: tags) ∧
      (reported.Sublist (classWord :: tags) ∧
        ∀ needle, needle ∈ reported ↔ needle ∈ classWord :: tags ∧ ¬ needle <:+: host.region) ∧
      (∀ others : List Terrain, others ≠ [] →
        (host.stampEvents others).unusedPlaceholders = reported) ∧
      ∀ terrain ∈ terrains, terrain.Hygienic → ∀ (serial : Nat) (dropped : Text → Bool),
        (∀ needle, dropped needle = true → needle ∈ reported) →
        Substitution.applyAll ((terrain.substitutions serial).filter fun s => !dropped s.needle)
          host.region = host.expand terrain serial := by
  intro reported
  have hreported := unusedPlaceholders_stampEvents host hterrains
  refine ⟨⟨rfl, nodup_needles, needles_substitutions_eq⟩, ⟨?_, ?_⟩, ?_, ?_⟩
  · show (host.stampEvents terrains).unusedPlaceholders.Sublist _
    rw [hreported]
    exact List.filter_sublist
  · exact mem_unusedPlaceholders_iff hterrains
  · intro others hothers
    exact (unusedPlaceholders_stampEvents host hothers).trans hreported.symm
  · intro terrain _ hygienic serial dropped hdropped
    apply applyAll_filter_of_absent hygienic
    intro needle hneedle
    exact ((mem_unusedPlaceholders_iff hterrains needle).1 (hdropped needle hneedle)).2

/-- Two tags overlap in this region, so that only one of them can be filled. -/
def crowded : Host :=
  ⟨[], "Template: /*land*/*name*/".toList⟩

/-- The description may hold a tag that was filled before it, and goes with all that is reported. -/
theorem unused_crowded :
    let reef : Terrain := { name := "Reef".toList, description := "/*land*/".toList }
    let reported := (crowded.stampEvents [reef]).unusedPlaceholders
    [reef] ≠ [] ∧ reef.Hygienic ∧ reported.length = 19 ∧
      (tag "desc".toList ∈ reported ↔
        tag "desc".toList ∈ classWord :: tags ∧ ¬ tag "desc".toList <:+: crowded.region) ∧
      Substitution.applyAll ((reef.substitutions 0).filter fun s => !reported.contains s.needle)
        crowded.region = "Reef: false*name*/".toList := by
  intro reef reported
  have hygienic : reef.Hygienic := by decide
  have hterrains : [reef] ≠ [] := by simp
  rcases crowded.unused_sound hterrains with ⟨-, ⟨-, hmem⟩, -, hleft⟩
  refine ⟨hterrains, hygienic, by decide, hmem _, ?_⟩
  have hdropped : ∀ needle, reported.contains needle = true → needle ∈ reported :=
    fun needle h => List.contains_iff_mem.1 h
  rw [hleft reef (by simp) hygienic 0 reported.contains hdropped]
  decide +kernel

end Host

end Tilewright
