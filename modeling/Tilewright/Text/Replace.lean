import Tilewright.Text.Basic

/-!
# Replacement

`Text.replace` writes a replacement for every occurrence of a needle. Occurrences are taken from
the left, and the search goes on behind each one, so that no two overlap and replaced text is not
looked at again. The empty needle stands before each character and at the end.

`Text.pieces` is the text between the occurrences.
-/

namespace Tilewright.Text

/-- Replaces the occurrences of a needle that is not empty. The counter is the number of
characters that still belong to the last occurrence. -/
def replaceFrom (needle replacement : Text) : Nat → Text → Text
  | _, [] => []
  | skip + 1, _ :: rest => replaceFrom needle replacement skip rest
  | 0, c :: rest =>
    if needle.isPrefixOf (c :: rest) then
      replacement ++ replaceFrom needle replacement (needle.length - 1) rest
    else c :: replaceFrom needle replacement 0 rest

/-- Writes `replacement` for every occurrence of `needle`. -/
def replace (needle replacement text : Text) : Text :=
  if needle = [] then replacement ++ text.flatMap (fun c => c :: replacement)
  else replaceFrom needle replacement 0 text

/-- The pieces of the text between the occurrences of a needle that is not empty. The counter is
as in `replaceFrom`. -/
def piecesFrom (needle : Text) : Nat → Text → List Text
  | _, [] => [[]]
  | skip + 1, _ :: rest => piecesFrom needle skip rest
  | 0, c :: rest =>
    if needle.isPrefixOf (c :: rest) then [] :: piecesFrom needle (needle.length - 1) rest
    else attach c (piecesFrom needle 0 rest)

/-- The pieces of the text between the leftmost occurrences of a needle that is not empty. -/
def pieces (needle text : Text) : List Text :=
  piecesFrom needle 0 text

/-- A needle that does not occur leaves the text as it is. -/
theorem replaceFrom_of_not_occursIn {needle text : Text} (replacement : Text)
    (h : occursIn needle text = false) : replaceFrom needle replacement 0 text = text := by
  induction text with
  | nil => rfl
  | cons c rest ih =>
    simp only [occursIn, Bool.or_eq_false_iff] at h
    simp [replaceFrom, h.1, ih h.2]

/-! ## Pieces -/

theorem piecesFrom_ne_nil (needle : Text) (skip : Nat) (text : Text) :
    piecesFrom needle skip text ≠ [] := by
  induction text generalizing skip with
  | nil => simp [piecesFrom]
  | cons c rest ih =>
    cases skip with
    | succ skip => exact ih skip
    | zero =>
      rw [piecesFrom]
      split <;> simp

/-- A character in front of the first piece stands in front of the joined pieces. -/
theorem joinWith_attach (between : Text) (c : Char) {pieces : List Text} (h : pieces ≠ []) :
    joinWith between (attach c pieces) = c :: joinWith between pieces := by
  match pieces, h with
  | [piece], _ => simp [attach, joinWith]
  | piece :: next :: more, _ => simp [attach, joinWith]

/-- An empty first piece leaves what stands between it and the next. -/
theorem joinWith_nil_cons (between : Text) {pieces : List Text} (h : pieces ≠ []) :
    joinWith between ([] :: pieces) = between ++ joinWith between pieces := by
  match pieces, h with
  | piece :: more, _ => simp [joinWith]

/-- Replacing is joining the pieces with the replacement. -/
theorem replaceFrom_eq_joinWith (needle replacement : Text) (skip : Nat) (text : Text) :
    replaceFrom needle replacement skip text =
      joinWith replacement (piecesFrom needle skip text) := by
  induction text generalizing skip with
  | nil => simp [replaceFrom, piecesFrom, joinWith]
  | cons c rest ih =>
    cases skip with
    | succ skip => exact ih skip
    | zero =>
      rw [replaceFrom, piecesFrom]
      split
      · rw [ih, joinWith_nil_cons _ (piecesFrom_ne_nil _ _ _)]
      · rw [ih, joinWith_attach _ _ (piecesFrom_ne_nil _ _ _)]

end Tilewright.Text
