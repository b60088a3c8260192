/-
# Byte strings and little-endian words

Payloads and records are lists of bytes. A word is written with its low byte
first; reading and writing are inverse to each other, so a record made of words
and the bytes it occupies determine one another.
-/

namespace NorStore

/-- A string of bytes, in the order of their offsets. -/
abbrev Bytes := List UInt8

namespace Bytes

/-- The two bytes of a word, low byte first. -/
def ofWord16 (word : UInt16) : Bytes :=
  [word.toUInt8, (word >>> 8).toUInt8]

/-- The four bytes of a word, low byte first. -/
def ofWord32 (word : UInt32) : Bytes :=
  [word.toUInt8, (word >>> 8).toUInt8, (word >>> 16).toUInt8, (word >>> 24).toUInt8]

/-- The word whose bytes are given, low byte first. -/
def joinWord16 (low high : UInt8) : UInt16 :=
  low.toUInt16 ||| high.toUInt16 <<< 8

/-- The word whose bytes are given, low byte first. -/
def joinWord32 (first second third fourth : UInt8) : UInt32 :=
  first.toUInt32 ||| second.toUInt32 <<< 8 ||| third.toUInt32 <<< 16 ||| fourth.toUInt32 <<< 24

/-- The byte at an index. A byte past the end reads as zero. -/
def byteAt (bytes : Bytes) (index : Nat) : UInt8 := bytes.getD index 0

/-- The word at an index. -/
def word16At (bytes : Bytes) (index : Nat) : UInt16 :=
  joinWord16 (bytes.byteAt index) (bytes.byteAt (index + 1))

/-- The word at an index. -/
def word32At (bytes : Bytes) (index : Nat) : UInt32 :=
  joinWord32 (bytes.byteAt index) (bytes.byteAt (index + 1)) (bytes.byteAt (index + 2))
    (bytes.byteAt (index + 3))

@[simp] theorem length_ofWord16 (word : UInt16) : (ofWord16 word).length = 2 := rfl

@[simp] theorem length_ofWord32 (word : UInt32) : (ofWord32 word).length = 4 := rfl

/-- Joining the bytes of a word gives the word back. -/
theorem joinWord16_bytes (word : UInt16) :
    joinWord16 word.toUInt8 (word >>> 8).toUInt8 = word := by
  apply UInt16.eq_of_toBitVec_eq
  simp only [joinWord16, UInt16.toBitVec_or, UInt16.toBitVec_shiftLeft, UInt8.toBitVec_toUInt16,
    UInt16.toBitVec_toUInt8, UInt16.toBitVec_shiftRight]
  ext index inside
  by_cases low : index < 8
  · simp [low, BitVec.getLsbD_eq_getElem inside]
  · simp [show index - 8 < 8 by omega, show 8 + (index - 8) = index by omega, low,
      BitVec.getLsbD_eq_getElem inside]

/-- Joining the bytes of a word gives the word back. -/
theorem joinWord32_bytes (word : UInt32) :
    joinWord32 word.toUInt8 (word >>> 8).toUInt8 (word >>> 16).toUInt8 (word >>> 24).toUInt8 =
      word := by
  apply UInt32.eq_of_toBitVec_eq
  simp only [joinWord32, UInt32.toBitVec_or, UInt32.toBitVec_shiftLeft, UInt8.toBitVec_toUInt32,
    UInt32.toBitVec_toUInt8, UInt32.toBitVec_shiftRight]
  ext index inside
  have cases : index < 8 ∨ 8 ≤ index ∧ index < 16 ∨ 16 ≤ index ∧ index < 24 ∨ 24 ≤ index := by
    omega
  rcases cases with low | ⟨atLeast, below⟩ | ⟨atLeast, below⟩ | atLeast
  · simp [low, BitVec.getLsbD_eq_getElem inside,
      show index < 16 by omega, show index < 24 by omega]
  · simp [BitVec.getLsbD_eq_getElem inside, show ¬ index < 8 by omega, below,
      show index < 24 by omega, show index - 8 < 8 by omega, show 8 + (index - 8) = index by omega]
  · simp [BitVec.getLsbD_eq_getElem inside, show ¬ index < 8 by omega,
      show ¬ index < 16 by omega, below, show ¬ index - 8 < 8 by omega,
      show index - 16 < 8 by omega, show 16 + (index - 16) = index by omega]
  · simp [BitVec.getLsbD_eq_getElem inside, show ¬ index < 8 by omega,
      show ¬ index < 16 by omega, show ¬ index < 24 by omega, show ¬ index - 8 < 8 by omega,
      show ¬ index - 16 < 8 by omega, show index - 24 < 8 by omega,
      show 24 + (index - 24) = index by omega]

/-- A byte has no bit past its eighth. -/
private theorem getLsbD_past (byte : UInt8) {index : Nat} (past : 8 ≤ index) :
    byte.toBitVec.getLsbD index = false := BitVec.getLsbD_of_ge _ _ past

/-- The bytes of a joined word are the ones joined. -/
theorem ofWord16_joinWord16 (low high : UInt8) : ofWord16 (joinWord16 low high) = [low, high] := by
  simp only [ofWord16, joinWord16, List.cons.injEq, and_true]
  constructor <;> apply UInt8.eq_of_toBitVec_eq <;>
    simp only [UInt16.toBitVec_or, UInt16.toBitVec_shiftLeft, UInt8.toBitVec_toUInt16,
      UInt16.toBitVec_toUInt8, UInt16.toBitVec_shiftRight] <;>
    ext index inside
  · simp
  · simp [show ¬ 8 + index < 8 by omega, show 8 + index < 16 by omega,
      BitVec.getLsbD_eq_getElem inside]

/-- The bytes of a joined word are the ones joined. -/
theorem ofWord32_joinWord32 (first second third fourth : UInt8) :
    ofWord32 (joinWord32 first second third fourth) = [first, second, third, fourth] := by
  simp only [ofWord32, joinWord32, List.cons.injEq, and_true]
  refine ⟨?_, ?_, ?_, ?_⟩ <;> apply UInt8.eq_of_toBitVec_eq <;>
    simp only [UInt32.toBitVec_or, UInt32.toBitVec_shiftLeft, UInt8.toBitVec_toUInt32,
      UInt32.toBitVec_toUInt8, UInt32.toBitVec_shiftRight] <;>
    ext index inside
  · simp
  · simp [show 8 + index < 32 by omega, show 8 + index < 16 by omega, show 8 + index < 24 by omega,
      show ¬ 8 + index < 8 by omega, BitVec.getLsbD_eq_getElem inside]
  · simp [show 16 + index < 32 by omega, show ¬ 16 + index < 16 by omega,
      show 16 + index < 24 by omega, show ¬ 16 + index < 8 by omega,
      BitVec.getLsbD_eq_getElem inside, getLsbD_past first (show 8 ≤ 16 + index by omega),
      getLsbD_past second (show 8 ≤ 16 + index - 8 by omega)]
  · simp [show 24 + index < 32 by omega, show ¬ 24 + index < 16 by omega,
      show ¬ 24 + index < 24 by omega, show ¬ 24 + index < 8 by omega,
      BitVec.getLsbD_eq_getElem inside, getLsbD_past first (show 8 ≤ 24 + index by omega),
      getLsbD_past second (show 8 ≤ 24 + index - 8 by omega),
      getLsbD_past third (show 8 ≤ 24 + index - 16 by omega)]

end Bytes

end NorStore
