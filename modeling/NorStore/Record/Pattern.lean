/-
# Payloads told in parts

A payload that repeats itself can be told by its parts. Its length, the sum of its bytes and its
last byte follow from those of the parts, and its header from these three. So a payload need not
be spelled out to get its header, however long it is.
-/

import NorStore.Record.Header

namespace NorStore

/-- A byte string that is told in parts. -/
inductive Pattern where
  | spelled (bytes : Bytes)
  | joined (front back : Pattern)
  | repeated (part : Pattern) (count : Nat)

namespace Pattern

/-- The bytes, spelled out. -/
def toBytes : Pattern → Bytes
  | spelled bytes => bytes
  | joined front back => front.toBytes ++ back.toBytes
  | repeated part count => (List.replicate count part.toBytes).flatten

/-- How many bytes there are. -/
def length : Pattern → Nat
  | spelled bytes => bytes.length
  | joined front back => front.length + back.length
  | repeated part count => count * part.length

/-- What the bytes add up to, modulo 256. -/
def sum : Pattern → UInt8
  | spelled bytes => bytes.foldl (· + ·) 0
  | joined front back => front.sum + back.sum
  | repeated part count => UInt8.ofNat count * part.sum

/-- The last byte, if there is one. -/
def last? : Pattern → Option UInt8
  | spelled bytes => bytes.getLast?
  | joined front back => back.last?.or front.last?
  | repeated part count => if count = 0 then none else part.last?

/-- The checksum of the bytes. -/
def checksum (pattern : Pattern) : ChecksumSpan → UInt8
  | .full => UInt8.ofNat pattern.length + pattern.sum
  | .excludeLast => UInt8.ofNat pattern.length + (pattern.sum - pattern.last?.getD 0)

/-- The header of the bytes. -/
def header (pattern : Pattern) (appSignature : UInt32) (span : ChecksumSpan) : Header where
  length := UInt32.ofNat pattern.length
  signature := Header.formatSignature
  appSignature := appSignature
  version := Header.currentVersion
  checksum := (pattern.checksum span).toUInt16

/-! ## The parts tell the whole -/

private theorem foldl_add (bytes : Bytes) (start : UInt8) :
    bytes.foldl (· + ·) start = start + bytes.foldl (· + ·) 0 := by
  induction bytes generalizing start with
  | nil => simp
  | cons byte rest ih =>
      rw [List.foldl_cons, ih, List.foldl_cons, ih (0 + byte), UInt8.zero_add, UInt8.add_assoc]

theorem length_toBytes (pattern : Pattern) : pattern.toBytes.length = pattern.length := by
  induction pattern with
  | spelled bytes => rfl
  | joined front back first second => rw [toBytes, List.length_append, first, second, length]
  | repeated part count ih => simp [toBytes, length, ih]

theorem sum_toBytes (pattern : Pattern) : pattern.toBytes.foldl (· + ·) 0 = pattern.sum := by
  induction pattern with
  | spelled bytes => rfl
  | joined front back first second =>
      rw [toBytes, List.foldl_append, foldl_add, first, second, sum]
  | repeated part count ih =>
      rw [toBytes, sum]
      induction count with
      | zero => simp
      | succ count further =>
          rw [List.replicate_succ, List.flatten_cons, List.foldl_append, foldl_add, further, ih,
            UInt8.ofNat_add, UInt8.add_mul, UInt8.add_comm, UInt8.ofNat_one, UInt8.one_mul]

theorem last?_toBytes (pattern : Pattern) : pattern.toBytes.getLast? = pattern.last? := by
  induction pattern with
  | spelled bytes => rfl
  | joined front back first second => rw [toBytes, List.getLast?_append, first, second, last?]
  | repeated part count ih =>
      rw [toBytes, last?, ← ih]
      cases count with
      | zero => rfl
      | succ count =>
          rw [if_neg (Nat.succ_ne_zero count), List.replicate_succ', List.flatten_append,
            List.getLast?_append, List.flatten_singleton]
          rcases List.eq_nil_or_concat part.toBytes with empty | ⟨front, last, ends⟩
          · rw [empty, List.flatten_replicate_nil]
            rfl
          · rw [ends, List.concat_eq_append, List.getLast?_concat]
            rfl

/-- The checksum is that of the bytes. -/
theorem checksum_eq (pattern : Pattern) (span : ChecksumSpan) :
    pattern.checksum span = NorStore.checksum pattern.toBytes span := by
  rw [NorStore.checksum, length_toBytes, foldl_add]
  cases span with
  | full => rw [checksum, ← sum_toBytes, ChecksumSpan.covered]
  | excludeLast =>
      rw [checksum, ← sum_toBytes, ← last?_toBytes, ChecksumSpan.covered]
      rcases List.eq_nil_or_concat pattern.toBytes with empty | ⟨front, last, ends⟩
      · rw [empty]
        rfl
      · rw [ends, List.concat_eq_append, List.getLast?_concat, List.dropLast_concat,
          List.foldl_append, List.foldl_cons, List.foldl_nil, Option.getD_some,
          UInt8.add_sub_cancel]

/-- The header is that of the bytes. -/
theorem header_eq (pattern : Pattern) (appSignature : UInt32) (span : ChecksumSpan) :
    pattern.header appSignature span = .forPayload pattern.toBytes appSignature span := by
  rw [header, Header.forPayload, checksum_eq, length_toBytes]

end Pattern

end NorStore
