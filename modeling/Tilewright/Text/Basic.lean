/-!
# Text

Text is a list of characters. Every rule of this library reads text from left to right, so the
list is the shape in which each rule is one recursion.

* `Text.occursIn` looks for one text inside another; `Text.occursIn_iff` says that it finds it
  exactly when it is there.
* `Text.attach` puts a character in front of the first of several pieces. The cutters of lines
  and words are built from it, and `Text.flatten_attach` says that it loses nothing.
-/

namespace Tilewright

/-- A text, as its characters in order. -/
abbrev Text := List Char

namespace Text

/-! ## Occurrence -/

/-- Tells whether `needle` stands somewhere in the text. -/
def occursIn (needle : Text) : Text → Bool
  | [] => needle.isEmpty
  | c :: rest => needle.isPrefixOf (c :: rest) || occursIn needle rest

theorem occursIn_iff {needle text : Text} : occursIn needle text = true ↔ needle <:+: text := by
  induction text with
  | nil => simp [occursIn]
  | cons c rest ih => simp [occursIn, ih, List.infix_cons_iff]

@[simp] theorem occursIn_nil (text : Text) : occursIn [] text = true := by
  cases text <;> simp [occursIn]

/-! ## Pieces -/

/-- Puts a character in front of the first piece; without a piece it makes one. -/
def attach (c : Char) : List Text → List Text
  | [] => [[c]]
  | piece :: pieces => (c :: piece) :: pieces

@[simp] theorem flatten_attach (c : Char) (pieces : List Text) :
    (attach c pieces).flatten = c :: pieces.flatten := by
  cases pieces <;> simp [attach]

@[simp] theorem attach_ne_nil (c : Char) (pieces : List Text) : attach c pieces ≠ [] := by
  cases pieces <;> simp [attach]

/-- Puts the pieces after one another, with `between` standing between two neighbours. -/
def joinWith (between : Text) (pieces : List Text) : Text :=
  List.intercalate between pieces

@[simp] theorem joinWith_nil (between : Text) : joinWith between [] = [] := rfl

@[simp] theorem joinWith_singleton (between piece : Text) : joinWith between [piece] = piece := by
  simp [joinWith]

theorem joinWith_cons_cons (between piece next : Text) (pieces : List Text) :
    joinWith between (piece :: next :: pieces) =
      piece ++ between ++ joinWith between (next :: pieces) := by
  simp [joinWith]

/-- Every piece but the first stands behind the text between two pieces. -/
theorem joinWith_cons (between piece : Text) (pieces : List Text) :
    joinWith between (piece :: pieces) =
      piece ++ pieces.flatMap fun next => between ++ next := by
  induction pieces generalizing piece with
  | nil => simp
  | cons next pieces ih =>
    rw [joinWith_cons_cons, ih, List.flatMap_cons, List.append_assoc, List.append_assoc]

/-- What stands in joined pieces comes from a piece or from between two of them. -/
theorem mem_joinWith {c : Char} {between : Text} {pieces : List Text}
    (h : c ∈ joinWith between pieces) : c ∈ between ∨ ∃ piece ∈ pieces, c ∈ piece := by
  induction pieces with
  | nil => simp at h
  | cons piece pieces ih =>
    cases pieces with
    | nil => exact .inr ⟨piece, by simp, by simpa using h⟩
    | cons next pieces =>
      rw [joinWith_cons_cons, List.mem_append, List.mem_append] at h
      rcases h with (h | h) | h
      · exact .inr ⟨piece, by simp, h⟩
      · exact .inl h
      · rcases ih h with hbetween | ⟨other, hother, hc⟩
        · exact .inl hbetween
        · exact .inr ⟨other, by simp [hother], hc⟩

end Text

end Tilewright
