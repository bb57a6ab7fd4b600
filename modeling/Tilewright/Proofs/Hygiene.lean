import Tilewright.Host
import Tilewright.Proofs.Simultaneity

/-!
# Hygienic terrains

The placeholders of a terrain are filled one after the other, so that a later one could be found in
what an earlier one left. A terrain is hygienic (`Terrain.Hygienic`) when this cannot happen: its
class name completes no tag, and its texts hold no tag that is filled after them.

Every other replacement keeps clear of the tags by itself. It holds no slash, so it can neither
begin nor end a tag, and it has a character that no tag has, so no tag encloses it.

* `Terrain.Hygienic.pairwise_apart`: no replacement becomes a part of a later needle.
* `Host.expand_eq_applyAtOnce`: a host whose tags do not overlap is expanded as if all placeholders
  were filled at once.
-/

namespace Tilewright

namespace Placeholder

/-! ## Tags -/

/-- The tags in the order in which they are filled. -/
def tags : List Text :=
  ["serial", "land", "shallow", "name", "short name", "defense", "income", "repair", "hideaway",
    "vision", "desc"].map (fun name => tag name.toList) ++
  MoveType.all.map (fun m => tag m.tagName) ++
  ["move costs", "value"].map fun name => tag name.toList

/-- The needles of a list behind one of them. -/
def behind (needle : Text) (needles : List Text) : List Text :=
  (needles.dropWhile (· ≠ needle)).drop 1

/-- The tags that are filled after the tag of a name. -/
def tagsBehind (name : String) : List Text :=
  behind (tag name.toList) tags

theorem needles_substitutions_eq (terrain : Terrain) (serial : Nat) :
    (terrain.substitutions serial).map Substitution.needle = classWord :: tags := rfl

theorem nodup_needles : (classWord :: tags).Nodup := by
  decide

theorem ne_nil_of_mem_needles : ∀ needle ∈ classWord :: tags, needle ≠ [] := by
  decide

/-- A tag stands between two slashes. -/
theorem tag_eq (name : Text) : tag name = '/' :: ('*' :: name ++ ['*']) ++ ['/'] := by
  simp [tag]

theorem exists_eq_of_mem_tags {t : Text} (h : t ∈ tags) :
    ∃ middle, t = '/' :: middle ++ ['/'] := by
  simp only [tags, List.mem_append, List.mem_map] at h
  rcases h with (⟨name, -, rfl⟩ | ⟨m, -, rfl⟩) | ⟨name, -, rfl⟩
  · exact ⟨_, tag_eq _⟩
  · exact ⟨_, tag_eq _⟩
  · exact ⟨_, tag_eq _⟩

theorem classWord_ne_tag (name : Text) : classWord ≠ tag name := by
  intro h
  have hword : classWord = 'T' :: "emplate".toList := by
    decide
  rw [hword, tag_eq, List.cons_append] at h
  exact absurd (List.cons.inj h).1 (by decide)

/-- Tags hold no quote, no point, no digit and no first letter of the class word. -/
theorem ne_of_mem_of_mem_tags :
    ∀ t ∈ tags, ∀ c ∈ t, c ≠ '"' ∧ c ≠ '.' ∧ c ≠ 'T' ∧ c.isDigit = false := by
  have hall : tags.all (fun t => t.all fun c =>
      c ≠ '"' ∧ c ≠ '.' ∧ c ≠ 'T' ∧ c.isDigit = false) = true := by
    decide
  intro t ht c hc
  exact of_decide_eq_true (List.all_eq_true.1 (List.all_eq_true.1 hall t ht) c hc)

theorem behind_cons_self (needle : Text) (needles : List Text) :
    behind needle (needle :: needles) = needles := by
  simp [behind]

theorem behind_cons_of_ne {needle other : Text} (h : other ≠ needle) (needles : List Text) :
    behind needle (other :: needles) = behind needle needles := by
  simp [behind, h]

theorem mem_of_mem_behind_cons {needle other t : Text} {needles : List Text}
    (h : t ∈ behind needle (other :: needles)) : t ∈ needles := by
  by_cases heq : other = needle
  · subst heq
    rwa [behind_cons_self] at h
  · rw [behind_cons_of_ne heq] at h
    exact List.dropWhile_subset _ (List.mem_of_mem_drop h)

theorem mem_tagsBehind {name : String} {t : Text}
    (h : t ∈ behind (tag name.toList) (classWord :: tags)) : t ∈ tagsBehind name := by
  rwa [behind_cons_of_ne (classWord_ne_tag _)] at h

/-- In a list without repeated needles, what comes later is behind. -/
theorem pairwise_of_forall_behind {substitutions : List Substitution}
    (hnodup : (substitutions.map Substitution.needle).Nodup)
    (h : ∀ s ∈ substitutions, ∀ t ∈ behind s.needle (substitutions.map Substitution.needle),
      Text.Apart s.replacement t) :
    substitutions.Pairwise fun s t => Text.Apart s.replacement t.needle := by
  induction substitutions with
  | nil => exact .nil
  | cons first more ih =>
    rw [List.map_cons, List.nodup_cons] at hnodup
    rw [List.pairwise_cons]
    constructor
    · intro t ht
      refine h first List.mem_cons_self t.needle ?_
      rw [List.map_cons, behind_cons_self]
      exact List.mem_map_of_mem ht
    · refine ih hnodup.2 fun s hs t ht => h s (List.mem_cons_of_mem _ hs) t ?_
      have hne : first.needle ≠ s.needle :=
        fun heq => hnodup.1 (heq ▸ List.mem_map_of_mem hs)
      rw [List.map_cons, behind_cons_of_ne hne]
      exact ht

/-! ## Replacements that keep clear -/

/-- A tag keeps clear of a text without a slash that is not a part of it. -/
theorem apart_of_mem_tags {written t : Text} (ht : t ∈ tags) (hslash : '/' ∉ written)
    (hpart : ¬ written <:+: t) : Text.Apart written t := by
  rcases exists_eq_of_mem_tags ht with ⟨middle, rfl⟩
  exact Text.apart_of_not_infix hslash hpart

/-- A tag keeps clear of a text with a digit and without a slash. -/
theorem apart_of_isDigit {written t : Text} (ht : t ∈ tags) (hslash : '/' ∉ written)
    (hdigit : ∃ c ∈ written, c.isDigit = true) : Text.Apart written t := by
  refine apart_of_mem_tags ht hslash ?_
  intro hpart
  rcases hdigit with ⟨c, hc, hisDigit⟩
  have hnone := (ne_of_mem_of_mem_tags t ht c (hpart.subset hc)).2.2.2
  rw [hisDigit] at hnone
  exact Bool.noConfusion hnone

theorem apart_ofNat (n : Nat) {t : Text} (ht : t ∈ tags) : Text.Apart (Decimal.ofNat n) t :=
  apart_of_isDigit ht (Decimal.not_mem_ofNat (by decide) n) (Decimal.exists_isDigit_mem_ofNat n)

theorem apart_ofInt (i : Int) {t : Text} (ht : t ∈ tags) : Text.Apart (Decimal.ofInt i) t :=
  apart_of_isDigit ht (Decimal.not_mem_ofInt (by decide) (by decide) i)
    (Decimal.exists_isDigit_mem_ofInt i)

theorem apart_boolLiteral (value : Bool) {t : Text} (ht : t ∈ tags) :
    Text.Apart (boolLiteral value) t := by
  have hslash : '/' ∉ boolLiteral value := by
    cases value <;> decide
  have hoccurs : ∀ t ∈ tags, Text.occursIn (boolLiteral value) t = false := by
    cases value <;> decide
  refine apart_of_mem_tags ht hslash ?_
  intro hpart
  have hfalse := hoccurs t ht
  rw [Text.occursIn_iff.2 hpart] at hfalse
  exact Bool.noConfusion hfalse

theorem apart_repairLiteral (repair : Repair) {t : Text} (ht : t ∈ tags) :
    Text.Apart (repairLiteral repair) t := by
  have hpoint : '/' ∉ repairLiteral repair ∧ '.' ∈ repairLiteral repair := by
    cases repair <;> decide
  exact apart_of_mem_tags ht hpoint.1 fun hpart =>
    (ne_of_mem_of_mem_tags t ht _ (hpart.subset hpoint.2)).2.1 rfl

/-- A tag keeps clear of a string that does not hold it. -/
theorem apart_stringLiteral {text t : Text} (ht : t ∈ tags) (h : ¬ t <:+: text) :
    Text.Apart (stringLiteral text) t :=
  Text.apart_of_enclosed (fun hquote => (ne_of_mem_of_mem_tags t ht _ hquote).1 rfl) h

/-- A tag keeps clear of the list of all move costs. -/
theorem apart_costs (costs : MoveCosts) {t : Text} (ht : t ∈ tags) :
    Text.Apart (Text.joinWith ", ".toList
      (costs.toList.map fun (_, cost) => Decimal.ofNat cost.toNat)) t := by
  refine apart_of_isDigit ht ?_ ?_
  · intro hslash
    rcases Text.mem_joinWith hslash with hbetween | ⟨piece, hpiece, hc⟩
    · exact absurd hbetween (by decide)
    · rcases List.mem_map.1 hpiece with ⟨⟨m, cost⟩, -, rfl⟩
      exact Decimal.not_mem_ofNat (by decide) _ hc
  · rcases Decimal.exists_isDigit_mem_ofNat costs.infantry.toNat with ⟨c, hc, hdigit⟩
    refine ⟨c, ?_, hdigit⟩
    rw [MoveCosts.toList, MoveType.all, List.map_cons, List.map_cons, List.map_cons, List.map_cons,
      Text.joinWith_cons_cons]
    exact List.mem_append_left _ (List.mem_append_left _ hc)

end Placeholder

open Placeholder

/-- A tag keeps clear of whatever is written for a terrain, as long as it keeps clear of the class
name and of the members of the class, and none of the texts holds it. -/
theorem Terrain.apart_of_mem_substitutions {terrain : Terrain} {serial : Nat} {s : Substitution}
    {t : Text} (hs : s ∈ terrain.substitutions serial) (ht : t ∈ tags)
    (hclass : s.needle = classWord → Text.Apart terrain.className t)
    (hname : s.needle = tag "name".toList → ¬ t <:+: terrain.name)
    (hshortName : s.needle = tag "short name".toList → ¬ t <:+: terrain.shortName)
    (hdescription : s.needle = tag "desc".toList → ¬ t <:+: terrain.description)
    (hvalue : s.needle = tag "value".toList → Text.Apart s.replacement t) :
    Text.Apart s.replacement t := by
  simp only [substitutions, List.mem_append, List.mem_cons, List.mem_map, List.not_mem_nil,
    or_false] at hs
  rcases hs with ((rfl | rfl | rfl | rfl | rfl | rfl | rfl | rfl | rfl | rfl | rfl | rfl) |
    ⟨m, -, rfl⟩) | rfl | rfl
  · exact hclass rfl
  · exact apart_ofNat serial ht
  · -- words and numbers need no condition
    exact apart_boolLiteral terrain.isLand ht
  · exact apart_boolLiteral terrain.isShallowWater ht
  · exact apart_stringLiteral ht (hname rfl)
  · exact apart_stringLiteral ht (hshortName rfl)
  · exact apart_ofInt terrain.defense.toInt ht
  · exact apart_boolLiteral terrain.generatesIncome ht
  · exact apart_repairLiteral terrain.repair ht
  · exact apart_boolLiteral terrain.hidesUnits ht
  · exact apart_ofInt terrain.vision.toInt ht
  · exact apart_stringLiteral ht (hdescription rfl)
  · exact apart_ofNat (terrain.moveCosts.cost m).toNat ht
  · exact apart_costs terrain.moveCosts ht
  · exact hvalue rfl

/-! ## Hygiene -/

/-- What makes sure that filling a terrain's placeholders never makes a new one. The name needs no
condition of its own: the class name is the name without its spaces, and a tag has a slash. -/
structure Terrain.Hygienic (terrain : Terrain) : Prop where
  /-- The class name can neither begin nor end a tag. -/
  slash : '/' ∉ terrain.className
  /-- No tag encloses the class name. -/
  part : ∀ t ∈ tags, ¬ terrain.className <:+: t
  /-- The short name holds no tag that is filled after it. -/
  shortName : ∀ t ∈ tagsBehind "short name", ¬ t <:+: terrain.shortName
  /-- The description holds no tag that is filled after it. -/
  description : ∀ t ∈ tagsBehind "desc", ¬ t <:+: terrain.description

namespace Terrain.Hygienic

variable {terrain : Terrain}

/-- The name of a hygienic terrain holds no tag. -/
theorem name (h : terrain.Hygienic) {t : Text} (ht : t ∈ tags) : ¬ t <:+: terrain.name := by
  intro hname
  rcases exists_eq_of_mem_tags ht with ⟨middle, rfl⟩
  have hslash : '/' ∈ terrain.name := hname.subset (by simp)
  exact h.slash (List.mem_filter.2 ⟨hslash, by decide⟩)

/-- No replacement of a hygienic terrain becomes a part of a needle that is filled later. -/
theorem pairwise_apart (h : terrain.Hygienic) (serial : Nat) :
    (terrain.substitutions serial).Pairwise fun s t => Text.Apart s.replacement t.needle := by
  refine pairwise_of_forall_behind
    ((needles_substitutions_eq terrain serial).symm ▸ nodup_needles) fun s hs t hbehind => ?_
  rw [needles_substitutions_eq] at hbehind
  have ht := mem_of_mem_behind_cons hbehind
  refine apart_of_mem_substitutions hs ht ?_ ?_ ?_ ?_ ?_
  · -- the class name
    intro _
    exact apart_of_mem_tags ht h.slash (h.part t ht)
  · intro _
    exact h.name ht
  · -- the short name may hold a tag that has been filled before
    intro hneedle
    rw [hneedle] at hbehind
    exact h.shortName t (mem_tagsBehind hbehind)
  · intro hneedle
    rw [hneedle] at hbehind
    exact h.description t (mem_tagsBehind hbehind)
  · -- nothing is filled after the value
    intro hneedle
    have hlast : behind (tag "value".toList) (classWord :: tags) = [] := by
      decide
    rw [hneedle, hlast] at hbehind
    exact absurd hbehind List.not_mem_nil

end Terrain.Hygienic

/-! ## Expansion -/

/-- The class word overlaps neither a tag nor itself. -/
theorem overlapFree_needles {text : Text} (h : Text.OverlapFree tags text) :
    Text.OverlapFree (classWord :: tags) text := by
  refine Text.overlapFree_cons ?_ ?_ h
  · intro i j hi hj hij
    exact hi.le_of_not_mem_tail (by decide) hj hij
  · intro t ht
    have hword : '/' ∉ classWord ∧ 'T' ∈ classWord := by
      decide
    exact apart_of_mem_tags ht hword.1 fun hpart =>
      (ne_of_mem_of_mem_tags t ht _ (hpart.subset hword.2)).2.2.1 rfl

/-- **Expansion fills all placeholders at once.** The region of a host in which no two tags overlap
is written for a hygienic terrain in a single pass that never looks at what it has written. Every
needle is replaced by its own replacement, unaltered, and what no needle touches is copied. -/
theorem Host.expand_eq_applyAtOnce (host : Host) (terrain : Terrain) (serial : Nat)
    (hygienic : terrain.Hygienic) (hfree : Text.OverlapFree tags host.region) :
    host.expand terrain serial =
        Substitution.applyAtOnce (terrain.substitutions serial) host.region ∧
      (∀ s ∈ terrain.substitutions serial, ∀ before after,
        host.region = before ++ s.needle ++ after →
        host.expand terrain serial =
          Substitution.applyAtOnce (terrain.substitutions serial) before ++ s.replacement ++
            Substitution.applyAtOnce (terrain.substitutions serial) after) ∧
      (∀ before kept after, host.region = before ++ kept ++ after →
        Text.Untouched (classWord :: tags) host.region before.length (before ++ kept).length →
        host.expand terrain serial =
          Substitution.applyAtOnce (terrain.substitutions serial) before ++ kept ++
            Substitution.applyAtOnce (terrain.substitutions serial) after) := by
  have hneedles := needles_substitutions_eq terrain serial
  have hne : ∀ s ∈ terrain.substitutions serial, s.needle ≠ [] := fun s hs =>
    ne_nil_of_mem_needles s.needle (hneedles ▸ List.mem_map_of_mem hs)
  have hall := overlapFree_needles hfree
  rw [← hneedles] at hall ⊢
  have honce : host.expand terrain serial =
      Substitution.applyAtOnce (terrain.substitutions serial) host.region :=
    Substitution.applyAll_eq_applyAtOnce hne (hygienic.pairwise_apart serial) hall
  refine ⟨honce, ?_, ?_⟩
  · intro s hs before after hregion
    rw [hregion] at hall
    rw [honce, hregion]
    exact Substitution.applyAtOnce_append_needle hne (hneedles ▸ nodup_needles) hs hall
  · intro before kept after hregion huntouched
    rw [hregion] at huntouched
    rw [honce, hregion]
    exact Substitution.applyAtOnce_append_untouched hne huntouched

/-- A short name may hold a tag that is filled before it, and an unknown tag may stand anywhere. -/
theorem Host.expand_seaPort :
    let host : Host := ⟨[], "Template: /*short name*/, /*graphic*/ /*value*/".toList⟩
    let terrain : Terrain := { name := "Sea Port".toList, shortName := "/*name*/".toList }
    terrain.Hygienic ∧ Text.OverlapFree tags host.region ∧
      host.expand terrain 4 = "SeaPort: \"/*name*/\", /*graphic*/ ".toList := by
  intro host terrain
  have hpart : ∀ t ∈ tags, Text.occursIn terrain.className t = false := by decide
  have hshort : ∀ t ∈ tagsBehind "short name", Text.occursIn t terrain.shortName = false := by
    decide
  have hdesc : ∀ t ∈ tagsBehind "desc", Text.occursIn t terrain.description = false := by
    decide
  have hygienic : terrain.Hygienic := {
    slash := by decide
    part := fun t ht h => absurd (Text.occursIn_iff.2 h) (by simp [hpart t ht])
    shortName := fun t ht h => absurd (Text.occursIn_iff.2 h) (by simp [hshort t ht])
    description := fun t ht h => absurd (Text.occursIn_iff.2 h) (by simp [hdesc t ht]) }
  have hfree : Text.OverlapFree tags host.region := by decide +kernel
  refine ⟨hygienic, hfree, ?_⟩
  rw [(host.expand_eq_applyAtOnce terrain 4 hygienic hfree).1]
  decide +kernel

end Tilewright
