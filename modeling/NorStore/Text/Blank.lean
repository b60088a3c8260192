/-
# Blank characters

The characters with the White_Space property, and the removal of blanks from
both ends of a text.
-/

namespace NorStore.Text

/-- Whether a character is white space. -/
def isBlank (character : Char) : Bool :=
  let code := character.toNat
  (9 ≤ code && code ≤ 13) || code == 0x20 || code == 0x85 || code == 0xa0 || code == 0x1680 ||
    (0x2000 ≤ code && code ≤ 0x200a) || code == 0x2028 || code == 0x2029 || code == 0x202f ||
    code == 0x205f || code == 0x3000

/-- A text without the blanks at its ends. -/
def trim (text : List Char) : List Char :=
  ((text.dropWhile isBlank).reverse.dropWhile isBlank).reverse

example : trim "\t 7\n".toList = "7".toList := by decide
example : trim "\u3000 a b".toList = "a b".toList := by decide
example : trim "  ".toList = [] := by decide

end NorStore.Text
