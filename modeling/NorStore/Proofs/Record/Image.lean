/-
# The format on flash

What the bytes of a range mean, told without the words, headers and checks that the store
is made of: fields are numbers at fixed places, low byte first, and the checks are
comparisons of numbers, in the order in which they decide. Restoring is compared with this
reading. It is defined for every string of bytes, as flash may hold any.
-/

import NorStore.Codec
import NorStore.Proofs.Record.Ledger

namespace NorStore

/-- The number that bytes stand for, low byte first. -/
def littleEndian : Bytes → Nat
  | [] => 0
  | byte :: rest => byte.toNat + 256 * littleEndian rest

/-- A number as so many bytes, low byte first. -/
def digits : Nat → Nat → Bytes
  | 0, _ => []
  | width + 1, number => UInt8.ofNat number :: digits width (number / 256)

/-- What bytes add up to. -/
def total : Bytes → Nat
  | [] => 0
  | byte :: rest => byte.toNat + total rest

namespace Image

/-- The number that stands in a part of a range. -/
def field (range : Bytes) (offset length : Nat) : Nat :=
  littleEndian ((range.drop offset).take length)

/-- The eight bytes that commit a range. -/
def commitMark : Bytes := [0x47, 0x44, 0x45, 0x4c, 0xa5, 0xa5, 0x5a, 0x5a]

/-- The number that marks the format. -/
def formatMark : Nat := 0x5453504c

/-- What the checksum of a payload has to be: the covered bytes and the low byte of the
length, added up in one byte. -/
def expectedSum (payload : Bytes) (span : ChecksumSpan) : Nat :=
  (total (span.covered payload) + payload.length % 256) % 256

/-- What a segment with a payload looks like from its start: the mark that commits it, the
length, the mark of the format, the application, version 1, the checksum, and the payload. -/
def written (appSignature : UInt32) (span : ChecksumSpan) (payload : Bytes) : Bytes :=
  commitMark ++ digits 4 payload.length ++ [0x4c, 0x50, 0x53, 0x54] ++
    digits 4 appSignature.toNat ++ digits 2 1 ++ digits 2 (expectedSum payload span) ++ payload

/-- The payload that a range holds in this format, or what is wrong with it first. -/
def payload (appSignature : UInt32) (maxVersion : UInt16) (span : ChecksumSpan) (range : Bytes) :
    Except LossReason Bytes :=
  let length := field range 8 4
  let format := field range 12 4
  let application := field range 16 4
  let version := field range 20 2
  let sum := field range 22 2
  let payload := (range.drop 24).take length
  if range.take 8 ≠ commitMark then
    .error .noPersistence
  else if format ≠ formatMark then
    .error (.signatureMismatch .format (.ofNat formatMark) (.ofNat format))
  else if application ≠ appSignature.toNat then
    .error (.signatureMismatch .application appSignature (.ofNat application))
  else if maxVersion.toNat < version then
    .error (.versionNotSupported (.ofNat version) maxVersion)
  else if range.length - 24 < length then
    .error (.corruption (.lengthExceedsCapacity length (range.length - 24)))
  else if sum ≠ expectedSum payload span then
    .error (.corruption (.checksumMismatch (.ofNat sum) (.ofNat (expectedSum payload span))))
  else
    .ok payload

/-- What a payload is to a codec. -/
def accept (codec : Codec) (payload : Bytes) : Except LossReason Bytes :=
  (codec.deserialize payload).mapError .layoutChange

/-- The live bytes that a range stands for, or why it is lost. -/
def read (appSignature : UInt32) (maxVersion : UInt16) (codec : Codec) (range : Bytes) :
    Except LossReason Bytes := do
  accept codec (← payload appSignature maxVersion codec.span range)

/-- What restoring comes to after a reading. -/
def outcome : Except LossReason Bytes → LoadOutcome
  | .ok _ => .restored
  | .error reason => .lost reason

/-- The reading for segments whose payloads are their live bytes: a payload is refused if it
is not of the expected length, and then if it is too long. -/
def readBlob (appSignature : UInt32) (maxVersion : UInt16) (span : ChecksumSpan) (maxSize : Nat)
    (layout : Option Nat) (range : Bytes) : Except LossReason Bytes :=
  match payload appSignature maxVersion span range with
  | .error reason => .error reason
  | .ok payload =>
    if layout.any (· ≠ payload.length) then
      .error (.layoutChange (.layoutMismatch (layout.getD 0) payload.length))
    else if maxSize < payload.length then
      .error (.layoutChange (.oversized payload.length maxSize))
    else
      .ok payload

/-- The two checks of a blob codec, side by side. -/
theorem deserialize_blob (maxSize : Nat) (layout : Option Nat) (span : ChecksumSpan)
    (payload : Bytes) :
    (Codec.blob maxSize layout span).deserialize payload =
      if layout.any (· ≠ payload.length) then
        .error (.layoutMismatch (layout.getD 0) payload.length)
      else if maxSize < payload.length then .error (.oversized payload.length maxSize)
      else .ok payload := by
  cases layout with
  | none => simp [Codec.blob]
  | some expected =>
      by_cases same : expected = payload.length
      · simp [Codec.blob, Option.filter, same]
      · simp [Codec.blob, Option.filter, same]

theorem readBlob_eq (appSignature : UInt32) (maxVersion : UInt16) (span : ChecksumSpan)
    (maxSize : Nat) (layout : Option Nat) (range : Bytes) :
    readBlob appSignature maxVersion span maxSize layout range =
      read appSignature maxVersion (.blob maxSize layout span) range := by
  have same : (Codec.blob maxSize layout span).span = span := rfl
  rw [readBlob, read, same]
  cases payload appSignature maxVersion span range with
  | error reason => rfl
  | ok payload =>
      show (if _ then _ else if _ then _ else _) = accept (.blob maxSize layout span) payload
      rw [accept, deserialize_blob]
      split
      · rfl
      · split <;> rfl

/-! ## Numbers and words -/

theorem littleEndian_ofWord16 (word : UInt16) : littleEndian (Bytes.ofWord16 word) = word.toNat := by
  have bound := word.toNat_lt
  simp only [Bytes.ofWord16, littleEndian, UInt16.toNat_toUInt8, UInt16.toNat_shiftRight,
    Nat.shiftRight_eq_div_pow, UInt16.reduceToNat, Nat.reduceMod, Nat.reducePow]
  omega

theorem littleEndian_ofWord32 (word : UInt32) : littleEndian (Bytes.ofWord32 word) = word.toNat := by
  have bound := word.toNat_lt
  simp only [Bytes.ofWord32, littleEndian, UInt32.toNat_toUInt8, UInt32.toNat_shiftRight,
    Nat.shiftRight_eq_div_pow, UInt32.reduceToNat, Nat.reduceMod, Nat.reducePow]
  omega

/-- A word in some bytes is the number that stands there. -/
theorem toNat_word16At {bytes : Bytes} {index : Nat} (inside : index + 2 ≤ bytes.length) :
    (bytes.word16At index).toNat = field bytes index 2 := by
  have room : 2 ≤ (bytes.drop index).length := by
    rw [List.length_drop]
    omega
  have same : bytes.word16At index = Bytes.word16At (bytes.drop index) 0 := by
    simp [Bytes.word16At, Bytes.byteAt, List.getD_eq_getElem?_getD]
  rw [same, field]
  match bytes.drop index, room with
  | low :: high :: rest, _ =>
      show (Bytes.joinWord16 low high).toNat = littleEndian [low, high]
      rw [← Bytes.ofWord16_joinWord16, littleEndian_ofWord16]

/-- A word in some bytes is the number that stands there. -/
theorem toNat_word32At {bytes : Bytes} {index : Nat} (inside : index + 4 ≤ bytes.length) :
    (bytes.word32At index).toNat = field bytes index 4 := by
  have room : 4 ≤ (bytes.drop index).length := by
    rw [List.length_drop]
    omega
  have same : bytes.word32At index = Bytes.word32At (bytes.drop index) 0 := by
    simp [Bytes.word32At, Bytes.byteAt, List.getD_eq_getElem?_getD]
  rw [same, field]
  match bytes.drop index, room with
  | first :: second :: third :: fourth :: rest, _ =>
      show (Bytes.joinWord32 first second third fourth).toNat =
        littleEndian [first, second, third, fourth]
      rw [← Bytes.ofWord32_joinWord32, littleEndian_ofWord32]

/-- The checksum of a payload is the number that is expected. -/
theorem toNat_checksum (payload : Bytes) (span : ChecksumSpan) :
    (checksum payload span).toNat = expectedSum payload span := by
  have folds : ∀ (bytes : Bytes) (start : UInt8),
      (bytes.foldl (· + ·) start).toNat = (total bytes + start.toNat) % 256 := by
    intro bytes
    induction bytes with
    | nil =>
        intro start
        rw [total, Nat.zero_add, Nat.mod_eq_of_lt start.toNat_lt]
        rfl
    | cons byte rest ih =>
        intro start
        rw [List.foldl_cons, ih, UInt8.toNat_add, total]
        omega
  rw [checksum, folds, UInt8.toNat_ofNat', expectedSum]

theorem ofWord16_eq_digits (word : UInt16) : Bytes.ofWord16 word = digits 2 word.toNat := by
  simp only [Bytes.ofWord16, digits, List.cons.injEq, and_true, ← UInt8.toNat_inj,
    UInt16.toNat_toUInt8, UInt16.toNat_shiftRight, UInt8.toNat_ofNat', UInt16.reduceToNat,
    Nat.shiftRight_eq_div_pow, Nat.reduceMod, Nat.reducePow]

theorem ofWord32_eq_digits (word : UInt32) : Bytes.ofWord32 word = digits 4 word.toNat := by
  simp only [Bytes.ofWord32, digits, List.cons.injEq, and_true, ← UInt8.toNat_inj,
    UInt32.toNat_toUInt8, UInt32.toNat_shiftRight, UInt8.toNat_ofNat', UInt32.reduceToNat,
    Nat.shiftRight_eq_div_pow, Nat.reduceMod, Nat.reducePow, Nat.div_div_eq_div_mul, Nat.reduceMul]

/-- What is written are the bytes of a committed ledger, of the header of the payload, and of
the payload, if the length of the payload fits its field. -/
theorem written_eq (appSignature : UInt32) (span : ChecksumSpan) {payload : Bytes}
    (short : payload.length < UInt32.size) :
    written appSignature span payload = Ledger.committed.encode ++
      ((Header.forPayload payload appSignature span).encode ++ payload) := by
  have length : (UInt32.ofNat payload.length).toNat = payload.length :=
    UInt32.toNat_ofNat_of_lt' short
  have sum : (checksum payload span).toUInt16.toNat = expectedSum payload span := by
    rw [UInt8.toNat_toUInt16, toNat_checksum]
  rw [Header.encode, Header.forPayload, ofWord32_eq_digits (UInt32.ofNat _), length,
    ofWord32_eq_digits appSignature, ofWord16_eq_digits (checksum payload span).toUInt16, sum]
  simp only [written, List.append_assoc]
  rfl

theorem length_digits (width number : Nat) : (digits width number).length = width := by
  induction width generalizing number with
  | zero => rfl
  | succ width ih => rw [digits, List.length_cons, ih]

theorem length_written (appSignature : UInt32) (span : ChecksumSpan) (payload : Bytes) :
    (written appSignature span payload).length =
      Ledger.size + (Header.size + payload.length) := by
  simp only [written, List.length_append, length_digits]
  show 8 + 4 + 4 + 4 + 2 + 2 + payload.length = 8 + (16 + payload.length)
  omega

/-- A range that is not committed is empty to every reader. -/
theorem read_of_not_committed {range : Bytes} (uncommitted : ¬ Committed range)
    (appSignature : UInt32) (maxVersion : UInt16) (codec : Codec) :
    read appSignature maxVersion codec range = .error .noPersistence := by
  have unmarked : range.take 8 ≠ commitMark := uncommitted
  rw [read, payload, if_pos unmarked]
  rfl

/-- What is read was committed. -/
theorem committed_of_read {range live : Bytes} {appSignature : UInt32} {maxVersion : UInt16}
    {codec : Codec} (reads : read appSignature maxVersion codec range = .ok live) :
    Committed range := by
  apply Decidable.byContradiction
  intro uncommitted
  rw [read_of_not_committed uncommitted] at reads
  contradiction

/-- What is read is what the codec takes a payload for. -/
theorem exists_payload_of_read {range live : Bytes} {appSignature : UInt32} {maxVersion : UInt16}
    {codec : Codec} (reads : read appSignature maxVersion codec range = .ok live) :
    ∃ bytes, payload appSignature maxVersion codec.span range = .ok bytes ∧
      codec.deserialize bytes = .ok live := by
  rw [read] at reads
  cases found : payload appSignature maxVersion codec.span range with
  | error reason =>
      rw [found] at reads
      contradiction
  | ok bytes =>
      rw [found] at reads
      refine ⟨bytes, rfl, ?_⟩
      change accept codec bytes = .ok live at reads
      rw [accept] at reads
      cases accepted : codec.deserialize bytes with
      | error cause =>
          rw [accepted] at reads
          contradiction
      | ok taken =>
          rw [accepted] at reads
          exact congrArg Except.ok (Except.ok.inj reads)

/-- A payload is as long as the field of its length says. -/
theorem eq_of_payload {range bytes : Bytes} {appSignature : UInt32} {maxVersion : UInt16}
    {span : ChecksumSpan} (reads : payload appSignature maxVersion span range = .ok bytes) :
    bytes = (range.drop 24).take (field range 8 4) := by
  simp only [payload] at reads
  repeat' split at reads
  all_goals first | contradiction | exact (Except.ok.inj reads).symm

/-! ## The header in a range -/

/-- The header that stands behind the ledger of a range. -/
def header (range : Bytes) : Header := Header.decode ((range.drop Ledger.size).take Header.size)

private theorem field_header {range : Bytes} {offset length : Nat}
    (inside : offset + length ≤ Header.size) :
    field ((range.drop Ledger.size).take Header.size) offset length =
      field range (Ledger.size + offset) length := by
  rw [field, field, List.drop_take, List.take_take, List.drop_drop, Nat.min_eq_left (by omega)]

/-- The checks of a header, as comparisons of numbers. -/
theorem validate_eq (header : Header) (appSignature : UInt32) (maxVersion : UInt16) :
    header.validate appSignature maxVersion =
      if header.signature.toNat ≠ formatMark then
        .error (.signatureMismatch .format (.ofNat formatMark) (.ofNat header.signature.toNat))
      else if header.appSignature.toNat ≠ appSignature.toNat then
        .error (.signatureMismatch .application appSignature (.ofNat header.appSignature.toNat))
      else if maxVersion.toNat < header.version.toNat then
        .error (.versionNotSupported (.ofNat header.version.toNat) maxVersion)
      else .ok () := by
  have mark : formatMark = Header.formatSignature.toNat := rfl
  rw [mark]
  simp only [Header.validate, ne_eq, ← UInt32.toNat_inj, UInt16.lt_iff_toNat_lt,
    UInt32.ofNat_toNat, UInt16.ofNat_toNat]

/-- The check of a payload that is as long as its header says. -/
theorem verify_eq {header : Header} {payload : Bytes} (span : ChecksumSpan)
    (long : payload.length = header.length.toNat) :
    header.verify payload span =
      if header.checksum.toNat ≠ expectedSum payload span then
        .error (.corruption (.checksumMismatch (.ofNat header.checksum.toNat)
          (.ofNat (expectedSum payload span))))
      else .ok () := by
  simp only [Header.verify, long, ne_eq, not_true_eq_false, if_false, ← UInt16.toNat_inj,
    UInt8.toNat_toUInt16, UInt16.ofNat_toNat, ← toNat_checksum, UInt8.ofNat_toNat]
  simp only [eq_comm]

section Fields

variable {range : Bytes} (whole : Ledger.size + Header.size ≤ range.length)

include whole

private theorem length_header :
    ((range.drop Ledger.size).take Header.size).length = Header.size := by
  rw [List.length_take, List.length_drop]
  omega

theorem toNat_length : (header range).length.toNat = field range 8 4 := by
  have size := length_header whole
  exact (toNat_word32At (by rw [size]; decide)).trans (field_header (by decide))

theorem toNat_signature : (header range).signature.toNat = field range 12 4 := by
  have size := length_header whole
  exact (toNat_word32At (by rw [size]; decide)).trans (field_header (by decide))

theorem toNat_appSignature : (header range).appSignature.toNat = field range 16 4 := by
  have size := length_header whole
  exact (toNat_word32At (by rw [size]; decide)).trans (field_header (by decide))

theorem toNat_version : (header range).version.toNat = field range 20 2 := by
  have size := length_header whole
  exact (toNat_word16At (by rw [size]; decide)).trans (field_header (by decide))

theorem toNat_sum : (header range).checksum.toNat = field range 22 2 := by
  have size := length_header whole
  exact (toNat_word16At (by rw [size]; decide)).trans (field_header (by decide))

/-- The checks of the header decide as the comparisons of numbers do. -/
theorem payload_eq (appSignature : UInt32) (maxVersion : UInt16) (span : ChecksumSpan) :
    payload appSignature maxVersion span range =
      if Committed range then do
        (header range).validate appSignature maxVersion
        if range.length - 24 < (header range).length.toNat then
          .error (.corruption (.lengthExceedsCapacity (header range).length.toNat
            (range.length - 24)))
        else do
          let payload := (range.drop 24).take (header range).length.toNat
          (header range).verify payload span
          return payload
      else .error .noPersistence := by
  by_cases isCommitted : Committed range
  · have marked : ¬ range.take 8 ≠ commitMark := not_not_intro isCommitted
    rw [if_pos isCommitted, payload, if_neg marked, validate_eq, ← toNat_length whole,
      ← toNat_signature whole, ← toNat_appSignature whole, ← toNat_version whole, ← toNat_sum whole]
    split
    · rfl
    · split
      · rfl
      · split
        · rfl
        · show _ = if range.length - 24 < (header range).length.toNat then _ else _
          split
          · rfl
          · rename_i fits
            have long : ((range.drop 24).take (header range).length.toNat).length =
                (header range).length.toNat := by
              rw [List.length_take, List.length_drop]
              omega
            rw [verify_eq span long]
            split <;> rfl
  · have unmarked : range.take 8 ≠ commitMark := isCommitted
    rw [if_neg isCommitted, payload, if_pos unmarked]

end Fields

end Image

/-! ## What was written is read -/

/-- The header of a payload is valid for every reader of the application that knows the format. -/
theorem Header.validate_forPayload (payload : Bytes) (appSignature : UInt32) (span : ChecksumSpan)
    {maxVersion : UInt16} (known : currentVersion ≤ maxVersion) :
    (forPayload payload appSignature span).validate appSignature maxVersion = .ok () := by
  have recent : ¬ maxVersion < (forPayload payload appSignature span).version :=
    UInt16.not_lt.2 known
  rw [validate, if_neg (fun other => other rfl), if_neg (fun other => other rfl), if_neg recent]

/-- The header of a payload describes it to a reader if both spans come to the same sum. -/
theorem Header.verify_forPayload {payload : Bytes} (appSignature : UInt32)
    (span reader : ChecksumSpan) (short : payload.length < UInt32.size) :
    (forPayload payload appSignature span).verify payload reader =
      if NorStore.checksum payload reader = NorStore.checksum payload span then .ok ()
      else .error (.corruption (.checksumMismatch (NorStore.checksum payload span).toUInt16
        (NorStore.checksum payload reader))) := by
  have length : (forPayload payload appSignature span).length.toNat = payload.length :=
    UInt32.toNat_ofNat_of_lt' short
  have sums : (NorStore.checksum payload reader).toUInt16 =
      (forPayload payload appSignature span).checksum ↔
        NorStore.checksum payload reader = NorStore.checksum payload span := UInt8.toUInt16_inj
  rw [verify, length, if_neg (fun other => other rfl)]
  simp only [ne_eq, sums, ite_not]
  rfl

/-- The range holds a header and its payload behind the ledger. -/
def Holds (range : Bytes) (header : Header) (payload : Bytes) : Prop :=
  (range.drop Ledger.size).take (Header.size + payload.length) = header.encode ++ payload

/-- The range is committed with a payload of an application. -/
structure Carries (appSignature : UInt32) (span : ChecksumSpan) (payload range : Bytes) : Prop where
  isCommitted : Committed range
  holds : Holds range (.forPayload payload appSignature span) payload

namespace Carries

variable {appSignature : UInt32} {span : ChecksumSpan} {payload range : Bytes}

/-- What the range carries lies in it. -/
theorem le_length (carries : Carries appSignature span payload range) :
    Ledger.size + Header.size + payload.length ≤ range.length := by
  have held := congrArg List.length carries.holds
  rw [List.length_take, List.length_drop, List.length_append, Header.length_encode] at held
  have positive : 0 < Header.size := by decide
  omega

theorem header (carries : Carries appSignature span payload range) :
    Image.header range = .forPayload payload appSignature span := by
  have front := congrArg (List.take Header.size) carries.holds
  rw [List.take_take, Nat.min_eq_left (Nat.le_add_right ..),
    List.take_left' (Header.length_encode _)] at front
  rw [Image.header, front, Header.decode_encode]

theorem behind_header (carries : Carries appSignature span payload range) :
    (range.drop 24).take payload.length = payload := by
  have back := congrArg (List.drop Header.size) carries.holds
  rw [List.drop_take, List.drop_drop, Nat.add_sub_cancel_left,
    List.drop_left' (Header.length_encode _)] at back
  exact back

/-- The field of the length has the length of the payload, as far as it reaches. -/
theorem field_length (carries : Carries appSignature span payload range) :
    Image.field range 8 4 = payload.length % UInt32.size := by
  have room := carries.le_length
  rw [← Image.toNat_length (by omega), carries.header]
  exact UInt32.toNat_ofNat

/-- Whatever a reader takes for the payload was written, whoever the reader is. -/
theorem eq_of_payload {signature : UInt32} {maxVersion : UInt16} {other : ChecksumSpan}
    {bytes : Bytes} (carries : Carries appSignature span payload range)
    (reads : Image.payload signature maxVersion other range = .ok bytes) :
    bytes = payload.take (payload.length % UInt32.size) := by
  have shorter := Nat.mod_le payload.length UInt32.size
  have front := congrArg (List.take (payload.length % UInt32.size)) carries.behind_header
  rw [List.take_take, Nat.min_eq_left shorter] at front
  rw [Image.eq_of_payload reads, carries.field_length, front]

/-- A length that fits its field stands in the header. -/
theorem toNat_length (carries : Carries appSignature span payload range)
    (short : payload.length < UInt32.size) :
    (Image.header range).length.toNat = payload.length := by
  rw [carries.header]
  exact UInt32.toNat_ofNat_of_lt' short

theorem validate (carries : Carries appSignature span payload range) {maxVersion : UInt16}
    (known : Header.currentVersion ≤ maxVersion) :
    (Image.header range).validate appSignature maxVersion = .ok () := by
  rw [carries.header]
  exact Header.validate_forPayload payload appSignature span known

/-- A reader accepts the payload if the bytes that it covers come to the sum in the header. -/
theorem verify (carries : Carries appSignature span payload range)
    (short : payload.length < UInt32.size) (reader : ChecksumSpan) :
    (Image.header range).verify payload reader =
      if checksum payload reader = checksum payload span then .ok ()
      else .error (.corruption (.checksumMismatch (checksum payload span).toUInt16
        (checksum payload reader))) := by
  rw [carries.header]
  exact Header.verify_forPayload appSignature span reader short

/-- A payload whose length fits its field is read as it was written, by every reader of the
same application that knows the format. -/
theorem payload_eq (carries : Carries appSignature span payload range)
    (short : payload.length < UInt32.size) {maxVersion : UInt16}
    (known : Header.currentVersion ≤ maxVersion) :
    Image.payload appSignature maxVersion span range = .ok payload := by
  have room := carries.le_length
  have length := carries.toNat_length short
  have fits : ¬ range.length - 24 < payload.length := by
    have offset : Ledger.size + Header.size = 24 := rfl
    omega
  rw [Image.payload_eq (by omega), if_pos carries.isCommitted, carries.validate known, length,
    carries.behind_header]
  show (if range.length - 24 < payload.length then _ else _) = _
  rw [if_neg fits, carries.verify short span, if_pos rfl]
  rfl

/-- What such a reader makes of the payload is what its codec makes of it. -/
theorem read_eq {codec : Codec} {live : Bytes}
    (carries : Carries appSignature codec.span payload range) (short : payload.length < UInt32.size)
    {maxVersion : UInt16} (known : Header.currentVersion ≤ maxVersion)
    (accepted : codec.deserialize payload = .ok live) :
    Image.read appSignature maxVersion codec range = .ok live := by
  rw [Image.read, carries.payload_eq short known]
  show Image.accept codec payload = .ok live
  rw [Image.accept, accepted]
  rfl

end Carries

end NorStore
