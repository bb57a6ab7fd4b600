import Tilewright.Text.Basic

/-!
# Lines

A line ends with its line feed; only the last line of a text may lack one, and no line is empty.
`Text.cutLines` cuts a text into its lines and keeps every character (`Text.flatten_cutLines`).
`Text.lines` is the same cut without the line ends, where a return belongs to the line end if
and only if a line feed follows it.
-/

namespace Tilewright.Text

/-- The lines of the text, each with its line end. -/
def cutLines : Text → List Text
  | [] => []
  | c :: rest => if c = '\n' then ['\n'] :: cutLines rest else attach c (cutLines rest)

/-- The line without its line end: a line feed, and one return before it. -/
def chomp (line : Text) : Text :=
  match line.reverse with
  | '\n' :: '\r' :: body => body.reverse
  | '\n' :: body => body.reverse
  | _ => line

/-- The lines of the text without their line ends. -/
def lines (text : Text) : List Text :=
  (cutLines text).map chomp

/-- Cutting into lines loses nothing. -/
@[simp] theorem flatten_cutLines (text : Text) : (cutLines text).flatten = text := by
  induction text with
  | nil => rfl
  | cons c rest ih =>
    rw [cutLines]
    split
    · simp_all
    · simp [ih]

end Tilewright.Text
