import Tilewright.Text.Basic

/-!
# Blanks

A character is blank when it has the Unicode property White_Space. `Text.trim` takes the blanks
off both ends. The zero-width characters U+200B and U+FEFF are not blank, and neither are the
separators U+001C to U+001F.
-/

namespace Tilewright.Text

/-- Holds for the characters with the property White_Space. -/
def isBlank (c : Char) : Bool :=
  let n := c.toNat
  (0x09 ≤ n && n ≤ 0x0D) || n == 0x20 || n == 0x85 || n == 0xA0 || n == 0x1680
    || (0x2000 ≤ n && n ≤ 0x200A) || n == 0x2028 || n == 0x2029 || n == 0x202F || n == 0x205F
    || n == 0x3000

/-- Drops the blanks in front. -/
def trimStart (text : Text) : Text :=
  text.dropWhile isBlank

/-- Drops the blanks at the end. -/
def trimEnd (text : Text) : Text :=
  (text.reverse.dropWhile isBlank).reverse

/-- Drops the blanks at both ends. -/
def trim (text : Text) : Text :=
  trimEnd (trimStart text)

@[simp] theorem trim_nil : trim [] = [] := rfl

end Tilewright.Text
