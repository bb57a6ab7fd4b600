import Tilewright.Text.Visible

/-!
# Quoted text

A quoted text stands between double quotes. Inside, the double quote, the backslash, the tab, the
line ends and the null character are written with a backslash, and a character that does not show
in print is written by its code point, as in `\u{1b}`. Single quotes stand as they are.
-/

namespace Tilewright.Quoted

/-- A character written by its code point, in base sixteen and lower case. -/
def codePoint (c : Char) : Text :=
  "\\u\x7b".toList ++ Nat.toDigits 16 c.toNat ++ "\x7d".toList

/-- The character as it stands between the quotes. -/
def escape (c : Char) : Text :=
  if c = '"' then "\\\"".toList
  else if c = '\\' then "\\\\".toList
  else if c = '\n' then "\\n".toList
  else if c = '\r' then "\\r".toList
  else if c = '\t' then "\\t".toList
  else if c = '\x00' then "\\0".toList
  else if Text.isVisible c then [c]
  else codePoint c

/-- The text between double quotes, with what does not show in print written out. -/
def quote (text : Text) : Text :=
  '"' :: text.flatMap escape ++ ['"']

end Tilewright.Quoted
