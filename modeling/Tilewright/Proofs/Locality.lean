import Tilewright.Host
import Tilewright.Proofs.Simultaneity

/-!
# Substitution is local to lines

A needle cannot reach over a character that it does not hold. So a character that no needle holds
cuts a text in two, and each part is filled as if the other one were not there. What is written for
a needle may hold that character, because it is not looked at again by the same substitution, and
the substitutions behind it do not look across the character either.

* `Substitution.applyAll_append_cons`: a text is filled on both sides of such a character.
* `Substitution.applyAll_joinWith`: pieces with such a character between them are filled one by one.
* `Host.expand_line_by_line`: a region is expanded line by line.
-/

namespace Tilewright

/-- A needle that starts in front of a character that it does not hold also ends in front of it. -/
theorem Text.StandsAt.le_of_not_mem {needle before behind : Text} {c : Char} {place : Nat}
    (hc : c ∉ needle) (h : StandsAt needle (before ++ c :: behind) place)
    (hplace : place < before.length) : place + needle.length ≤ before.length := by
  by_contra hlong
  rw [standsAt_iff_getElem?] at h
  -- otherwise the needle holds what stands at the place of the character
  have hat := h (before.length - place) (by omega)
  rw [Nat.add_sub_cancel' (Nat.le_of_lt hplace), List.getElem?_append_right (Nat.le_refl _),
    Nat.sub_self, List.getElem?_cons_zero] at hat
  exact hc (List.mem_of_getElem? hat.symm)

namespace Substitution

variable {substitutions : List Substitution} {c : Char}

/-! ## Around one character -/

/-- The empty needle stands before each character and at the end, so on both sides of any
character. -/
theorem apply_append_cons_of_nil {substitution : Substitution} (h : substitution.needle = [])
    (before behind : Text) :
    substitution.apply (before ++ c :: behind) =
      substitution.apply before ++ c :: substitution.apply behind := by
  have hfill (text : Text) : substitution.apply text =
      substitution.replacement ++ text.flatMap fun c => c :: substitution.replacement := by
    unfold apply Text.replace
    rw [h, Text.occursIn_nil, if_pos rfl, if_pos rfl]
  rw [hfill, hfill, hfill, List.flatMap_append, List.flatMap_cons]
  simp only [List.cons_append, List.append_assoc]

/-- A needle that does not hold a character is filled on both sides of it. -/
theorem apply_append_cons {substitution : Substitution} (h : c ∉ substitution.needle)
    (before behind : Text) :
    substitution.apply (before ++ c :: behind) =
      substitution.apply before ++ c :: substitution.apply behind := by
  by_cases hempty : substitution.needle = []
  · exact apply_append_cons_of_nil hempty before behind
  · -- the pass over the text can be cut in front of the character, and keeps the character
    have hcut : substitution.apply (before ++ c :: behind) =
        substitution.apply before ++ substitution.apply (c :: behind) := by
      rw [← applyAtOnce_singleton hempty, ← applyAtOnce_singleton hempty,
        ← applyAtOnce_singleton hempty]
      apply applyAtOnce_append
      · simpa using hempty
      · intro s hs i hi hstands
        rw [List.mem_singleton.1 hs] at hstands ⊢
        exact hstands.le_of_not_mem h hi
    have hkeep : substitution.apply (c :: behind) = c :: substitution.apply behind := by
      apply apply_cons hempty
      intro hprefix
      rcases List.prefix_cons_iff.1 hprefix with hnil | ⟨rest, hneedle, -⟩
      · exact hempty hnil
      · exact h (hneedle ▸ List.mem_cons_self)
    rw [hcut, hkeep]

/-- A text is filled on both sides of a character that no needle holds. -/
theorem applyAll_append_cons (h : ∀ s ∈ substitutions, c ∉ s.needle) (before behind : Text) :
    applyAll substitutions (before ++ c :: behind) =
      applyAll substitutions before ++ c :: applyAll substitutions behind := by
  -- each substitution leaves a text that is cut by the same character
  induction substitutions generalizing before behind with
  | nil => rfl
  | cons first more ih =>
    rw [List.forall_mem_cons] at h
    rw [applyAll_cons, applyAll_cons, applyAll_cons, apply_append_cons h.1]
    exact ih h.2 _ _

/-! ## Pieces and lines -/

/-- If a text is filled on both sides of what stands between pieces, the pieces are filled one by
one. -/
theorem applyAll_joinWith_of_append {between : Text}
    (hcut : ∀ before behind, applyAll substitutions (before ++ between ++ behind) =
      applyAll substitutions before ++ between ++ applyAll substitutions behind)
    {pieces : List Text} (hne : pieces ≠ []) :
    applyAll substitutions (Text.joinWith between pieces) =
      Text.joinWith between (pieces.map (applyAll substitutions)) := by
  induction pieces with
  | nil => exact absurd rfl hne
  | cons piece pieces ih =>
    cases pieces with
    | nil => simp
    | cons next pieces =>
      have hrest := ih (List.cons_ne_nil next pieces)
      rw [List.map_cons, List.map_cons, Text.joinWith_cons_cons, Text.joinWith_cons_cons, hcut,
        hrest, List.map_cons]

/-- Pieces between which a character stands that no needle holds are filled one by one. -/
theorem applyAll_joinWith (h : ∀ s ∈ substitutions, c ∉ s.needle) {pieces : List Text}
    (hne : pieces ≠ []) :
    applyAll substitutions (Text.joinWith [c] pieces) =
      Text.joinWith [c] (pieces.map (applyAll substitutions)) := by
  refine applyAll_joinWith_of_append ?_ hne
  intro before behind
  rw [List.append_assoc, List.append_assoc, List.singleton_append, List.singleton_append]
  exact applyAll_append_cons h before behind

/-- A text in which no needle occurs is kept. -/
theorem applyAll_of_not_infix {text : Text} (h : ∀ s ∈ substitutions, ¬ s.needle <:+: text) :
    applyAll substitutions text = text := by
  induction substitutions with
  | nil => rfl
  | cons first more ih =>
    rw [List.forall_mem_cons] at h
    rw [applyAll_cons, apply_of_not_infix h.1]
    exact ih h.2

end Substitution

/-- The needles are the same for all terrains, so that one terrain tells which characters they do not
hold. -/
theorem Terrain.not_mem_needle {c : Char}
    (hall : ((({} : Terrain).substitutions 0).map Substitution.needle).all
      (fun needle => !needle.contains c) = true) (terrain : Terrain) (serial : Nat) :
    ∀ s ∈ terrain.substitutions serial, c ∉ s.needle := by
  intro s hs
  have hneedle : s.needle ∈ (({} : Terrain).substitutions 0).map Substitution.needle := by
    rw [Terrain.needles_substitutions {} terrain 0 serial]
    exact List.mem_map_of_mem hs
  simpa using List.all_eq_true.1 hall s.needle hneedle

/-- No needle of a terrain reaches over the end of a line. -/
theorem Terrain.newline_not_mem_needle (terrain : Terrain) (serial : Nat) :
    ∀ s ∈ terrain.substitutions serial, '\n' ∉ s.needle :=
  not_mem_needle (by decide) terrain serial

/-- **Substitution is local to lines.** A character that no needle holds cuts a text in two parts,
each of which is filled by itself; the empty needle is no exception. So the region of a host is
expanded line by line, whatever the texts of the terrain are, and a line in which no needle occurs
is copied. -/
theorem Host.expand_line_by_line :
    (∀ (substitutions : List Substitution) (c : Char), (∀ s ∈ substitutions, c ∉ s.needle) →
      ∀ before behind : Text,
        Substitution.applyAll substitutions (before ++ [c] ++ behind) =
          Substitution.applyAll substitutions before ++ [c] ++
            Substitution.applyAll substitutions behind) ∧
    ∀ (host : Host) (terrain : Terrain) (serial : Nat),
      let expandLine (line : Text) := expand { host with region := line } terrain serial
      host.expand terrain serial =
          Text.joinWith ['\n'] ((host.region.splitOn '\n').map expandLine) ∧
        ∀ before line behind, host.region.splitOn '\n' = before ++ line :: behind →
          (∀ s ∈ terrain.substitutions serial, ¬ s.needle <:+: line) →
          host.expand terrain serial =
            Text.joinWith ['\n'] (before.map expandLine ++ line :: behind.map expandLine) := by
  constructor
  · intro substitutions c h before behind
    rw [List.append_assoc, List.append_assoc, List.singleton_append, List.singleton_append]
    exact Substitution.applyAll_append_cons h before behind
  · intro host terrain serial expandLine
    have hlines : host.expand terrain serial =
        Text.joinWith ['\n'] ((host.region.splitOn '\n').map expandLine) := by
      have hjoin : Text.joinWith ['\n'] (host.region.splitOn '\n') = host.region :=
        List.intercalate_splitOn '\n'
      have hfill := Substitution.applyAll_joinWith (terrain.newline_not_mem_needle serial)
        (List.splitOn_ne_nil '\n' host.region)
      rw [hjoin] at hfill
      exact hfill
    refine ⟨hlines, ?_⟩
    intro before line behind hsplit hclear
    have hkept : expandLine line = line := Substitution.applyAll_of_not_infix hclear
    rw [hlines, hsplit, List.map_append, List.map_cons, hkept]

/-- A line between two that are filled, with a return that belongs to it. -/
def Host.keptLine : Host :=
  ⟨[], "Template\n// kept\r\n/*name*/".toList⟩

/-- The empty needle is filled in front of each character and at the end of both parts, and a name
may hold a line feed. -/
theorem Host.expand_keptLine :
    let substitutions : List Substitution := [⟨"ab".toList, "c\n".toList⟩, ⟨[], "-".toList⟩]
    let sea : Terrain := { name := "Sea\nPort".toList }
    (∀ s ∈ substitutions, '\n' ∉ s.needle) ∧
      Substitution.applyAll substitutions "ab\nb".toList = "-c-\n-\n-b-".toList ∧
      keptLine.region.splitOn '\n' =
        ["Template".toList] ++ "// kept\r".toList :: ["/*name*/".toList] ∧
      (∀ s ∈ sea.substitutions 3, ¬ s.needle <:+: "// kept\r".toList) ∧
      keptLine.expand sea 3 = "Sea\nPort\n// kept\r\n\"Sea\nPort\"".toList := by
  intro substitutions sea
  have hneedles : ∀ s ∈ substitutions, '\n' ∉ s.needle := by decide
  have hsplit : keptLine.region.splitOn '\n' =
      ["Template".toList] ++ "// kept\r".toList :: ["/*name*/".toList] := rfl
  have hclear : ∀ s ∈ sea.substitutions 3, ¬ s.needle <:+: "// kept\r".toList := by
    have hoccurs : ∀ s ∈ sea.substitutions 3,
        Text.occursIn s.needle "// kept\r".toList = false := by decide
    intro s hs hinfix
    rw [← Text.occursIn_iff, hoccurs s hs] at hinfix
    exact Bool.noConfusion hinfix
  rcases expand_line_by_line with ⟨hcut, hlines⟩
  refine ⟨hneedles, ?_, hsplit, hclear, ?_⟩
  · exact hcut substitutions '\n' hneedles "ab".toList "b".toList
  · rw [(hlines keptLine sea 3).2 _ _ _ hsplit hclear]
    decide

end Tilewright
