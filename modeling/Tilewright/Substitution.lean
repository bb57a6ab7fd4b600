import Tilewright.Text.Replace

/-!
# Substitutions

A substitution is a needle and what is written for it. A list of them is applied in order, each to
the text that the ones before it left. A needle that does not occur leaves the text as it is.
-/

namespace Tilewright

/-- A needle and what is written for it. -/
structure Substitution where
  needle : Text
  replacement : Text
deriving DecidableEq, Repr

namespace Substitution

/-- Writes the replacement for every occurrence of the needle. -/
def apply (substitution : Substitution) (text : Text) : Text :=
  if Text.occursIn substitution.needle text then
    Text.replace substitution.needle substitution.replacement text
  else text

/-- A needle that does not occur is not filled. -/
theorem apply_of_not_infix {substitution : Substitution} {text : Text}
    (h : ¬ substitution.needle <:+: text) : substitution.apply text = text := by
  rw [apply, if_neg fun hoccurs => h (Text.occursIn_iff.1 hoccurs)]

/-- Applies substitutions one after the other. -/
def applyAll (substitutions : List Substitution) (text : Text) : Text :=
  substitutions.foldl (fun text substitution => substitution.apply text) text

@[simp] theorem applyAll_nil (text : Text) : applyAll [] text = text := rfl

@[simp] theorem applyAll_cons (first : Substitution) (more : List Substitution) (text : Text) :
    applyAll (first :: more) text = applyAll more (first.apply text) := rfl

theorem applyAll_append (first second : List Substitution) (text : Text) :
    applyAll (first ++ second) text = applyAll second (applyAll first text) :=
  List.foldl_append

end Substitution

end Tilewright
