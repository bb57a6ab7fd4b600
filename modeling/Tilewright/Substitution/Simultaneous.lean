import Tilewright.Substitution

/-!
# Substituting all at once

`Substitution.applyAll` goes over the text once for each substitution, so that a later one also sees
what an earlier one wrote. `Substitution.applyAtOnce` goes over the text a single time: where a
needle stands it writes the replacement, and what it has written it never looks at again.
-/

namespace Tilewright.Substitution

/-- Replaces needles that are not empty, all in one pass. The counter is the number of characters
that still belong to the last occurrence. Of two needles that stand at one place the first in the
list counts. -/
def atOnceFrom (substitutions : List Substitution) : Nat → Text → Text
  | _, [] => []
  | skip + 1, _ :: rest => atOnceFrom substitutions skip rest
  | 0, c :: rest =>
    match substitutions.find? fun substitution => substitution.needle.isPrefixOf (c :: rest) with
    | some substitution =>
      substitution.replacement ++
        atOnceFrom substitutions (substitution.needle.length - 1) rest
    | none => c :: atOnceFrom substitutions 0 rest

/-- Applies substitutions in a single pass from left to right. -/
def applyAtOnce (substitutions : List Substitution) (text : Text) : Text :=
  atOnceFrom substitutions 0 text

/-- Without substitutions the text stays as it is. -/
@[simp] theorem applyAtOnce_nil (text : Text) : applyAtOnce [] text = text := by
  unfold applyAtOnce
  induction text with
  | nil => rfl
  | cons c rest ih => simp [atOnceFrom, ih]

/-- A single substitution is the same in both ways, if its needle is not empty. -/
theorem applyAtOnce_singleton {substitution : Substitution} (h : substitution.needle ≠ [])
    (text : Text) : applyAtOnce [substitution] text = substitution.apply text := by
  have pass : ∀ (skip : Nat) (text : Text), atOnceFrom [substitution] skip text =
      Text.replaceFrom substitution.needle substitution.replacement skip text := by
    intro skip text
    induction text generalizing skip with
    | nil => rfl
    | cons c rest ih =>
      cases skip with
      | succ skip => exact ih skip
      | zero =>
        by_cases here : substitution.needle.isPrefixOf (c :: rest)
        · simp [atOnceFrom, Text.replaceFrom, here, ih]
        · simp [atOnceFrom, Text.replaceFrom, here, ih]
  unfold applyAtOnce apply
  rw [pass]
  split
  · simp [Text.replace, h]
  · next absent =>
    exact Text.replaceFrom_of_not_occursIn _ (by simpa using absent)

end Tilewright.Substitution
