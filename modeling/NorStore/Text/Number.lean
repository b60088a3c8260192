/-
# Numbers and columns in text

Decimal numbers are written without separators, offsets and signatures in lower
case hexadecimal behind `0x`. Columns are filled with blanks and never cut.
-/

namespace NorStore.Text

/-- The lower case hexadecimal digits of a number, without leading zeros. -/
def hexDigits (value : Nat) : List Char := Nat.toDigits 16 value

/-- A number in hexadecimal behind `0x`. -/
def hex (value : Nat) : String := "0x" ++ String.ofList (hexDigits value)

/-- A number in hexadecimal behind `0x`, with at least the given count of digits. -/
def hexWide (digits value : Nat) : String :=
  "0x" ++ String.ofList ((hexDigits value).leftpad digits '0')

/-- A text at the left of a column. -/
def alignLeft (width : Nat) (text : String) : String :=
  text ++ String.ofList (List.replicate (width - text.length) ' ')

/-- A text at the right of a column. -/
def alignRight (width : Nat) (text : String) : String :=
  String.ofList (List.replicate (width - text.length) ' ') ++ text

example : hex 0 = "0x0" := by decide
example : hex 4096 = "0x1000" := by decide
example : hexWide 8 66 = "0x00000042" := by decide
example : hexWide 2 0x1ff = "0x1ff" := by decide
example : alignLeft 4 "ab" = "ab  " := by decide
example : alignRight 4 "abcde" = "abcde" := by decide

end NorStore.Text
