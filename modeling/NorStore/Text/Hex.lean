/-
# Bytes as hexadecimal text

A byte is written as two lower case digits. Reading takes digits of either case and
refuses a text with an odd number of them.
-/

import NorStore.Bytes
import NorStore.Text.Whole

namespace NorStore.Text

/-- The two digits of a byte. -/
def byteDigits (byte : UInt8) : List Char :=
  [Nat.digitChar (byte.toNat / 16), Nat.digitChar (byte.toNat % 16)]

/-- The digits of a byte string. -/
def writeHex (bytes : Bytes) : List Char := bytes.flatMap byteDigits

/-- The byte string of a text of digits. -/
def readHex? : List Char → Option Bytes
  | [] => some []
  | [_] => none
  | high :: low :: rest =>
    match digitValue? 16 high, digitValue? 16 low, readHex? rest with
    | some upper, some lower, some bytes => some (UInt8.ofNat (16 * upper + lower) :: bytes)
    | _, _, _ => none

/-- Each of the sixteen digits reads as its own value. -/
private theorem digitValue?_digitChar :
    ∀ value < 16, digitValue? 16 (Nat.digitChar value) = some value := by
  decide

theorem readHex?_writeHex (bytes : Bytes) : readHex? (writeHex bytes) = some bytes := by
  induction bytes with
  | nil => rfl
  | cons byte rest ih =>
    have below := byte.toNat_lt
    have upper := digitValue?_digitChar (byte.toNat / 16) (by omega)
    have lower := digitValue?_digitChar (byte.toNat % 16) (by omega)
    have joined : 16 * (byte.toNat / 16) + byte.toNat % 16 = byte.toNat := by omega
    change readHex? (Nat.digitChar (byte.toNat / 16) :: Nat.digitChar (byte.toNat % 16) ::
      writeHex rest) = _
    rw [readHex?, upper, lower, ih]
    simp [joined]

end NorStore.Text
