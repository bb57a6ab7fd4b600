import Tilewright.Text.Quoted

/-!
# Text for terminals

A terminal does not print some control characters but obeys them: the bell, the backspace, the form
feed, the escape, the delete, and the controls from 0x80 to 0x9F. Where text from outside is shown,
`Terminal.defuse` writes each of them out. Line ends, tabs and all other characters stay.
-/

namespace Tilewright.Terminal

/-- The character as it is shown: a control that a terminal obeys by its number, any other as it
is. -/
def escape (c : Char) : Text :=
  if c = '\x07' then "\\x07".toList
  else if c = '\x08' then "\\x08".toList
  else if c = '\x0c' then "\\x0c".toList
  else if c = '\x1b' then "\\x1b".toList
  else if c = '\x7f' then "\\x7f".toList
  else if 0x80 ≤ c.toNat ∧ c.toNat ≤ 0x9F then Quoted.codePoint c
  else [c]

/-- The text with nothing in it that a terminal obeys. -/
def defuse (text : Text) : Text :=
  text.flatMap escape

end Tilewright.Terminal
