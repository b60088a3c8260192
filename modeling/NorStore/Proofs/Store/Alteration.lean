/-
# One altered byte

A checksum that adds up bytes sees every change of a single one of them, as no byte differs from
another by a multiple of 256. So a payload of which one byte has changed on flash is not restored,
if the checksum covers the byte. The span of older payloads leaves the last byte out. A change
there goes unnoticed, and the altered payload is restored.
-/

import NorStore.Proofs.Flash.Probing
import NorStore.Proofs.Store.Atomicity
import NorStore.Proofs.Store.Imprint

namespace NorStore

open NorStore.Flash (BlockDevice Cells ChipView Keeps MemoryFlash NorDevice Probe Probed
  Restartable Shareable)
open NorStore.Flash.ChipView (cells shape)

/-! ## The sum of an altered payload -/

section Sums

variable {payload : Bytes} {span : ChecksumSpan} {index : Nat} {byte : UInt8}

/-- Replacing a byte replaces its part of the sum. -/
theorem total_set (inside : index < payload.length) (byte : UInt8) :
    total (payload.set index byte) + payload[index].toNat = total payload + byte.toNat := by
  induction payload generalizing index with
  | nil => contradiction
  | cons first rest ih =>
      cases index with
      | zero =>
          show byte.toNat + total rest + first.toNat = first.toNat + total rest + byte.toNat
          omega
      | succ index =>
          have rest := ih (Nat.lt_of_succ_lt_succ inside)
          rw [List.set_cons_succ, total, total, List.getElem_cons_succ]
          omega

/-- A span covers the same places of every payload of a length. -/
theorem ChecksumSpan.covered_set (span : ChecksumSpan) (payload : Bytes) (index : Nat)
    (byte : UInt8) :
    span.covered (payload.set index byte) = (span.covered payload).set index byte := by
  cases span with
  | full => rfl
  | excludeLast =>
      rw [covered, covered, List.dropLast_eq_take, List.dropLast_eq_take, List.length_set,
        List.take_set]

theorem ChecksumSpan.getElem_covered (covers : index < (span.covered payload).length)
    (inside : index < payload.length) : (span.covered payload)[index] = payload[index] := by
  cases span with
  | full => rfl
  | excludeLast => exact List.getElem_dropLast covers

theorem ChecksumSpan.lt_length_covered_iff (inside : index < payload.length) :
    index < (span.covered payload).length ↔ span = .full ∨ index + 1 < payload.length := by
  cases span with
  | full => exact iff_of_true inside (.inl rfl)
  | excludeLast =>
      rw [covered, List.length_dropLast]
      simp only [reduceCtorEq, false_or]
      omega

/-- Every change of a covered byte changes the checksum. -/
theorem checksum_set_ne (covers : index < (span.covered payload).length)
    (different : byte ≠ (span.covered payload)[index]) :
    checksum (payload.set index byte) span ≠ checksum payload span := by
  intro same
  have sums := congrArg UInt8.toNat same
  have replaced := total_set covers byte
  have small := byte.toNat_lt
  have fewer := (span.covered payload)[index].toNat_lt
  rw [Image.toNat_checksum, Image.toNat_checksum, Image.expectedSum, Image.expectedSum,
    span.covered_set, List.length_set] at sums
  exact different (UInt8.toNat_inj.1 (by omega))

/-- No change of any other byte does. -/
theorem checksum_set_of_uncovered (uncovered : ¬ index < (span.covered payload).length) :
    checksum (payload.set index byte) span = checksum payload span := by
  rw [checksum, span.covered_set, List.set_eq_of_length_le (Nat.le_of_not_lt uncovered),
    List.length_set, checksum]

end Sums

/-! ## The range with an altered payload -/

section Ranges

variable {appSignature : UInt32} {maxVersion : UInt16} {span : ChecksumSpan} {payload range : Bytes}

/-- The header of a payload describes another one of its length if they come to the same sum. -/
theorem Header.verify_of_length {altered : Bytes} (appSignature : UInt32) (span : ChecksumSpan)
    (short : payload.length < UInt32.size) (same : altered.length = payload.length) :
    (Header.forPayload payload appSignature span).verify altered span =
      if NorStore.checksum altered span = NorStore.checksum payload span then .ok ()
      else .error (.corruption (.checksumMismatch (NorStore.checksum payload span).toUInt16
        (NorStore.checksum altered span))) := by
  have length : (Header.forPayload payload appSignature span).length.toNat = payload.length :=
    UInt32.toNat_ofNat_of_lt' short
  have sums : (NorStore.checksum altered span).toUInt16 =
      (Header.forPayload payload appSignature span).checksum ↔
        NorStore.checksum altered span = NorStore.checksum payload span := UInt8.toUInt16_inj
  rw [Header.verify, length, same, if_neg (not_not_intro rfl)]
  simp only [ne_eq, sums, ite_not]
  rfl

/-- A range in which one byte of the payload was altered is read as the altered payload, if
the checksum comes to the same. -/
theorem Carries.payload_set (carries : Carries appSignature span payload range)
    (short : payload.length < UInt32.size) (known : Header.currentVersion ≤ maxVersion)
    (index : Nat) (byte : UInt8) :
    Image.payload appSignature maxVersion span (range.set (24 + index) byte) =
      if checksum (payload.set index byte) span = checksum payload span then
        .ok (payload.set index byte)
      else .error (.corruption (.checksumMismatch (checksum payload span).toUInt16
        (checksum (payload.set index byte) span))) := by
  have room := carries.le_length
  have offset : Ledger.size + Header.size = 24 := rfl
  have front : (range.set (24 + index) byte).take 24 = range.take 24 := by
    rw [List.take_set, List.set_eq_of_length_le]
    exact Nat.le_trans (List.length_take_le ..) (Nat.le_add_right ..)
  have isCommitted : Committed (range.set (24 + index) byte) := by
    have ledger := congrArg (List.take Ledger.size) front
    rw [List.take_take, List.take_take] at ledger
    exact ledger.trans carries.isCommitted
  have header : Image.header (range.set (24 + index) byte) =
      .forPayload payload appSignature span := by
    have rest := congrArg (List.drop Ledger.size) front
    rw [List.drop_take, List.drop_take] at rest
    rw [← carries.header]
    exact congrArg Header.decode rest
  have behind : ((range.set (24 + index) byte).drop 24).take payload.length =
      payload.set index byte := by
    rw [List.drop_set, if_neg (Nat.not_lt.2 (Nat.le_add_right ..)), Nat.add_sub_cancel_left,
      List.take_set, carries.behind_header]
  have length : (Header.forPayload payload appSignature span).length.toNat = payload.length :=
    UInt32.toNat_ofNat_of_lt' short
  have judged := Header.verify_of_length appSignature span short
    (List.length_set : (payload.set index byte).length = payload.length)
  rw [Image.payload_eq (by rw [List.length_set]; omega), if_pos isCommitted, header,
    Header.validate_forPayload payload appSignature span known, length, List.length_set, behind]
  show (if range.length - 24 < payload.length then _ else _) = _
  rw [if_neg (by omega), judged]
  split <;> rfl

/-- What a codec of blobs reads there: nothing if the byte is covered, else the altered payload. -/
theorem Carries.read_set {maxSize : Nat} (carries : Carries appSignature span payload range)
    (fits : payload.length ≤ maxSize) (short : payload.length < UInt32.size)
    (known : Header.currentVersion ≤ maxVersion) {index : Nat} (inside : index < payload.length)
    {byte : UInt8} (different : byte ≠ payload[index]) :
    Image.read appSignature maxVersion (.blob maxSize none span) (range.set (24 + index) byte) =
      if span = .full ∨ index + 1 < payload.length then
        .error (.corruption (.checksumMismatch (checksum payload span).toUInt16
          (checksum (payload.set index byte) span)))
      else .ok (payload.set index byte) := by
  have reads := carries.payload_set short known index byte
  rw [Image.read, show (Codec.blob maxSize none span).span = span from rfl, reads]
  by_cases covers : index < (span.covered payload).length
  · rw [if_neg (checksum_set_ne covers (ChecksumSpan.getElem_covered covers inside ▸ different)),
      if_pos ((ChecksumSpan.lt_length_covered_iff inside).1 covers)]
    rfl
  · have accepted : (Codec.blob maxSize none span).deserialize (payload.set index byte) =
        .ok (payload.set index byte) :=
      Store.deserialize_blob_of_fits (by rwa [List.length_set])
    rw [if_pos (checksum_set_of_uncovered covers),
      if_neg (mt (ChecksumSpan.lt_length_covered_iff inside).2 covers)]
    show Image.accept _ _ = _
    rw [Image.accept, accepted]
    rfl

end Ranges

/-! ## The store over an altered chip -/

namespace Store

variable {δ ε : Type} [BlockDevice δ] [NorDevice δ] {store : Store δ} {device : δ}
  {segment : Segment} {entry : MapEntry}

/-- The store over a chip that was changed behind its back. -/
def onChip (store : Store δ) (device : δ) : Store δ :=
  store.atop { store.driver with device }

variable [Probe δ] [Probed δ]

/-- A byte of a range can be altered, and then it stands in the range. -/
theorem contents_onChip {offset : Nat} (sound : store.driver.Sound)
    (mapped : store.driver.Mapped segment entry) (inside : offset < entry.reserved)
    (byte : UInt8) :
    ∃ altered, Probe.inject (entry.start + offset) [byte] store.device = (.value (), altered) ∧
      Keeps store.device altered ∧ (store.onChip altered).driver.contents entry =
        (store.driver.contents entry).set offset byte := by
  have encloses : (shape store.driver.device).Encloses (entry.start + offset) [byte].length :=
    sound.encloses mapped (Nat.succ_le_of_lt inside)
  obtain ⟨altered, injects, keeps, changed⟩ := Flash.inject_of_encloses encloses
  refine ⟨altered, injects, keeps, ?_⟩
  have base : (store.onChip altered).driver.base entry = store.driver.base entry := by
    rw [SegmentDriver.base, SegmentDriver.base]
    exact congrArg (entry.start - ·.regionOffset) keeps.shape
  rw [sound.start_add mapped] at changed
  rw [SegmentDriver.contents, base]
  show (cells altered).slice _ _ = _
  rw [changed]
  exact Cells.slice_overwrite_byte (sound.base_add_le mapped) inside byte

variable [Shareable δ] [Restartable δ] {maxSize index : Nat} {span : ChecksumSpan}
  {payload : Bytes} {byte : UInt8}

/-- If one byte of a payload is altered after it was stored, the segment is lost after a reboot
that gives it the same range, with the altered checksum as the reason, and its live bytes are the
defaults. Only the last byte of a payload whose checksum leaves it out can be altered unnoticed,
and then the altered payload is restored. -/
theorem recovered_of_altered (sound : store.driver.Sound) (healthy : ChipView.Healthy store.device)
    (placed : (SegmentDriver.ensureMapped segment store.driver).1 = .value entry)
    (home : store.Home segment entry)
    (registered : store.registrations.get segment =
      some { codec := .blob maxSize none span, live := payload })
    (fits : payload.length ≤ maxSize) (short : payload.length < UInt32.size)
    (known : Header.currentVersion ≤ store.config.maxVersion) (inside : index < payload.length)
    (different : byte ≠ payload[index]) (defaults : Segment → Bytes) :
    ∃ after altered, storeSegment segment store = (.value (), after) ∧
      Probe.inject (entry.start + (24 + index)) [byte] after.device = (.value (), altered) ∧
      ((after.onChip altered).recovered defaults segment :
          Outcome ε LoadOutcome × Option Bytes) =
        if span = .full ∨ index + 1 < payload.length then
          (.value (.lost (.corruption (.checksumMismatch (checksum payload span).toUInt16
            (checksum (payload.set index byte) span)))), some (defaults segment))
        else (.value .restored, some (payload.set index byte)) := by
  have room := home.room registered
  obtain ⟨after, stores, moves, mapped, carries⟩ := storeSegment_carries sound healthy registered
    placed (Registration.prepared_eq rfl fits segment)
    (Nat.le_trans (Nat.add_le_add_left fits _) room)
  have soundly := moves.sound sound
  have long : 24 + payload.length ≤ entry.reserved := by
    rw [← SegmentDriver.length_contents soundly mapped]
    exact carries.le_length
  obtain ⟨altered, injects, keeps, contents⟩ :=
    contents_onChip soundly mapped (show 24 + index < entry.reserved by omega) byte
  refine ⟨after, altered, stores, injects, ?_⟩
  -- The reboot finds the segment at home, and reads the range with the altered byte.
  have there : (after.onChip altered).Home segment entry := (moves.home home).of_keeps keeps rfl
  have still : (after.onChip altered).registrations.get segment =
      some { codec := .blob maxSize none span, live := payload } := by
    rw [← registered]
    exact congrArg (·.get segment) moves.registrations
  have config : (after.onChip altered).config = store.config := moves.config
  rw [← config] at carries known
  have carried : Carries (after.onChip altered).config.appSignature span payload
    (after.driver.contents entry) := carries
  have reads := carried.read_set fits short known inside different
  rw [← contents] at reads
  change (after.onChip altered).reading (.blob maxSize none span) entry = _ at reads
  have told := recovered_eq (ε := ε) there still defaults
  dsimp only at told
  rw [told, reads]
  split <;> rfl

/-- A store whose payload is `3, 4`, with a checksum that leaves the `4` out. -/
def legacyStore : Store MemoryFlash :=
  (Store.start sampleChip { appSignature := 5 } {}).register .uniqueId (.blob 2 none .excludeLast)
    [3, 4]

theorem recovered_of_altered_sample :
    (∃ after altered, storeSegment .uniqueId legacyStore = (.value (), after) ∧
      Probe.inject 24 [8] after.device = (.value (), altered) ∧
      ((after.onChip altered).recovered (fun _ => [1]) .uniqueId :
          Outcome StoreError LoadOutcome × Option Bytes) =
        (.value (.lost (.corruption (.checksumMismatch 5 10))), some [1])) ∧
    ∃ after altered, storeSegment .uniqueId legacyStore = (.value (), after) ∧
      Probe.inject 25 [8] after.device = (.value (), altered) ∧
      ((after.onChip altered).recovered (fun _ => [1]) .uniqueId :
          Outcome StoreError LoadOutcome × Option Bytes) = (.value .restored, some [3, 8]) := by
  have sound : legacyStore.driver.Sound := ⟨trivial, fun _ known => nomatch known⟩
  have healthy : ChipView.Healthy legacyStore.device := trivial
  have placed : (SegmentDriver.ensureMapped .uniqueId legacyStore.driver).1 =
      .value ⟨.uniqueId, 0, 32, 24⟩ := by rfl
  have home : legacyStore.Home .uniqueId ⟨.uniqueId, 0, 32, 24⟩ := ⟨_, rfl, rfl⟩
  have registered : legacyStore.registrations.get .uniqueId =
      some { codec := .blob 2 none .excludeLast, live := [3, 4] } := rfl
  have first : 0 < ([3, 4] : Bytes).length := by decide
  have last : 1 < ([3, 4] : Bytes).length := by decide
  have noThree : (8 : UInt8) ≠ 3 := by decide
  have noFour : (8 : UInt8) ≠ 4 := by decide
  exact ⟨recovered_of_altered sound healthy placed home registered (by decide) (by decide)
      (by decide) first noThree _,
    recovered_of_altered sound healthy placed home registered (by decide) (by decide) (by decide)
      last noFour _⟩

/-! ### An altered byte of a late segment -/

/-- The only byte of a payload that was stored for a late segment is altered, and the checksum
covers it. The reboot reads another range, so it does not see that and restores the payload that
is there. -/
theorem recovered_of_late_altered :
    let stored := storeSegment .networkImage (lateStore pairChip)
    let altered := Probe.inject 24 [8] stored.2.device
    (SegmentDriver.ensureMapped .networkImage (lateStore pairChip).driver).1 =
        .value ⟨.networkImage, 0, 32, 24⟩ ∧
      (lateStore pairChip).registrations.get .networkImage =
        some { codec := .blob 2 none .full, live := [3] } ∧
      1 ≤ (lateStore pairChip).config.maxVersion ∧ stored.1 = .value () ∧
      altered.1 = .value () ∧
      ((stored.2.onChip altered.2).recovered (fun _ => []) .networkImage :
        Outcome StoreError LoadOutcome × Option Bytes) = (.value .restored, some [7, 9]) :=
  ⟨by decide +kernel, rfl, by decide +kernel⟩

end Store

end NorStore
