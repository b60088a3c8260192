/-
# Reading whole numbers

A whole number is an optional plus sign and at least one digit. Reading stops
at the first defect from the left: a character that is no digit is reported
before a number that has grown too large.
-/

namespace NorStore.Text

/-- Why a text is not a whole number below the bound. -/
inductive NumberFault where
  | nothing
  | strayCharacter
  | tooLarge
deriving DecidableEq, Repr

/-- The wording of a fault. -/
def NumberFault.message : NumberFault → String
  | nothing => "cannot parse integer from empty string"
  | strayCharacter => "invalid digit found in string"
  | tooLarge => "number too large to fit in target type"

/-- The value of a digit in either case, if it is one in this radix. -/
def digitValue? (radix : Nat) (character : Char) : Option Nat :=
  let code := character.toNat
  let value :=
    if 48 ≤ code ∧ code ≤ 57 then code - 48
    else if 65 ≤ code ∧ code ≤ 90 then code - 55
    else if 97 ≤ code ∧ code ≤ 122 then code - 87
    else radix
  if value < radix then some value else none

/-- Read digits onto the value of those already read. -/
def readDigits (radix bound value : Nat) : List Char → Except NumberFault Nat
  | [] => .ok value
  | character :: rest =>
    match digitValue? radix character with
    | none => .error .strayCharacter
    | some digit =>
      if value * radix + digit < bound then readDigits radix bound (value * radix + digit) rest
      else .error .tooLarge

/-- Read a whole number below a bound. -/
def readWhole (radix bound : Nat) : List Char → Except NumberFault Nat
  | [] => .error .nothing
  | ['+'] => .error .strayCharacter
  | '+' :: digits => readDigits radix bound 0 digits
  | digits => readDigits radix bound 0 digits

example : readWhole 10 100 "+07".toList = .ok 7 := rfl
example : readWhole 10 100 "100".toList = .error .tooLarge := rfl
example : readWhole 10 100 "100x".toList = .error .tooLarge := rfl
example : readWhole 10 100 "x100".toList = .error .strayCharacter := rfl
example : readWhole 10 100 "-".toList = .error .strayCharacter := rfl
example : readWhole 16 256 "fF".toList = .ok 255 := rfl

end NorStore.Text
