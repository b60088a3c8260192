/-
# What a store leaves on flash

On a device on which nothing fails, storing a segment comes to one thing for every content of
the flash. A segment with a payload is replaced from its start by the image of the payload,
erased up to the end of the last block that the image needs; each of these blocks has been
erased once, and the rest of the chip is as it was. Of a segment without a payload only the
transaction is opened.
-/

import NorStore.Proofs.Driver.Wear
import NorStore.Proofs.Store.Restoring

namespace NorStore.Store

open NorStore.Flash (BlockDevice Cells ChipView Geometry MemoryFlash NorDevice WornDevice)
open NorStore.Flash.ChipView (cells shape)

variable {δ : Type} [BlockDevice δ] [NorDevice δ] {store : Store δ} {segment : Segment}
  {entry : MapEntry} {registration : Registration} {payload : Bytes} {cause : StoreError}
  {found : SegmentDriver δ}

/-- The bytes of a segment that holds a payload, from its start. -/
def image (store : Store δ) (codec : Codec) (payload : Bytes) : Bytes :=
  Ledger.committed.encode ++
    ((Header.forPayload payload store.config.appSignature codec.span).encode ++ payload)

/-- The size of the blocks that a payload needs with all that stands in front of it. -/
def imprintSize (store : Store δ) (payload : Bytes) : Nat :=
  (shape store.device).covering (Ledger.size + (Header.size + payload.length))

theorem length_image_le (store : Store δ) (codec : Codec) (payload : Bytes) :
    (store.image codec payload).length ≤ store.imprintSize payload := by
  rw [image, List.length_append, List.length_append, Ledger.length_encode, Header.length_encode]
  exact Geometry.le_covering (NorDevice.valid store.device).blockSize_pos _

section Asked

variable (sound : store.driver.Sound) (healthy : ChipView.Healthy store.device)
  (registered : store.registrations.get segment = some registration)
  (asked : SegmentDriver.ensureMapped segment store.driver = (.value entry, found))

include sound healthy asked

/-- A driver that has given the range can go on with it. -/
theorem working_of_asked : found.Working segment entry where
  sound := sound.of_ensureMapped asked
  mapped := SegmentDriver.mapped_of_ensureMapped asked
  healthy := by
    rw [SegmentDriver.device_of_ensureMapped asked]
    exact healthy

include registered

/-- A payload that fits the range is stored as its image. -/
theorem storeSegment_of_prepared (prepared : registration.prepared segment = .ok payload)
    (fits : Header.size + payload.length ≤ entry.maxDataSize) :
    ∃ driver, SegmentDriver.commitContent segment (.forPayload payload store.config.appSignature
        registration.codec.span) payload found = (.value (), driver) ∧ found.Follows driver ∧
      cells driver.device = (cells store.device).imprinted (store.driver.base entry)
        (store.imprintSize payload) (store.image registration.codec payload) ∧
      storeSegment segment store =
        (.value (), (store.atop driver).noteStored segment (Header.size + payload.length)) := by
  have device := SegmentDriver.device_of_ensureMapped asked
  obtain ⟨driver, commits, follows, changed⟩ :=
    SegmentDriver.commitContent_does (working_of_asked sound healthy asked) fits
  refine ⟨driver, commits, follows, ?_, storeSegment_of_committed registered asked prepared commits⟩
  rw [changed, SegmentDriver.base, device]
  rfl

/-- Without a payload only the transaction is opened. -/
theorem storeSegment_of_unprepared (unprepared : registration.prepared segment = .error cause) :
    ∃ driver, found.Follows driver ∧
      cells driver.device = (cells store.device).entered (store.driver.base entry) ∧
      storeSegment segment store =
        (.error cause, (store.atop driver).noteStoreFailed segment cause) := by
  have device := SegmentDriver.device_of_ensureMapped asked
  obtain ⟨driver, enters, follows, changed⟩ :=
    SegmentDriver.enterTransaction_does (working_of_asked sound healthy asked)
  refine ⟨driver, follows, ?_, ?_⟩
  · rw [changed, SegmentDriver.base, device]
    rfl
  · apply storeSegment_of_failed
    have known : (store.atop found).registrations.get segment = some registration := registered
    rw [writeSegment_atop registered asked, writeSegment_of_unprepared known unprepared,
      Action.bind_of_value]
    · rfl
    · rw [onDriver_apply, driver_atop, enters]
      rfl

end Asked

/-- A payload that its codec admits, and that fits the range, is stored there, and the range
carries it afterwards. The header says its length as far as the field of the length reaches. -/
theorem storeSegment_carries (sound : store.driver.Sound) (healthy : ChipView.Healthy store.device)
    (registered : store.registrations.get segment = some registration)
    (placed : (SegmentDriver.ensureMapped segment store.driver).1 = .value entry)
    (prepared : registration.prepared segment = .ok payload)
    (room : Header.size + payload.length ≤ entry.maxDataSize) :
    ∃ after, storeSegment segment store = (.value (), after) ∧ Moves store after ∧
      after.driver.Mapped segment entry ∧
      Carries store.config.appSignature registration.codec.span payload
        (after.driver.contents entry) := by
  obtain ⟨found, asked⟩ : ∃ found, SegmentDriver.ensureMapped segment store.driver =
      (.value entry, found) := ⟨_, Prod.ext placed rfl⟩
  have working := working_of_asked sound healthy asked
  obtain ⟨driver, commits, -, -, stores⟩ :=
    storeSegment_of_prepared sound healthy registered asked prepared room
  have ends : (SegmentDriver.commitContent segment (.forPayload payload store.config.appSignature
      registration.codec.span) payload).Ends found _ _ :=
    SegmentDriver.commitContent_ends working.sound working.mapped
  rw [Action.Ends, commits] at ends
  obtain ⟨confined, -, isCommitted, holds⟩ := ends
  have first := SegmentDriver.advances_ensureMapped sound segment entry
  rw [asked] at first
  exact ⟨_, stores, .of_advances (first.trans confined.advances) rfl rfl,
    confined.toFollows.mapped working.mapped, isCommitted, holds⟩

/-! ## The image, byte for byte -/

/-- A range that an image was written to holds it, and erased bytes behind it. -/
theorem slice_imprinted {cells : Cells} {base length : Nat} {image : Bytes}
    (fits : image.length ≤ length) (inside : base + length ≤ cells.size) :
    (cells.imprinted base length image).slice base length =
      image ++ List.replicate (length - image.length) Cells.erasedByte := by
  have erased : (cells.erase base length).slice base length =
      List.replicate length Cells.erasedByte :=
    Cells.slice_erase (Nat.le_refl _) (Nat.le_refl _) inside
  have blank : (cells.erase base length).slice (base + 0) image.length =
      List.replicate image.length Cells.erasedByte :=
    Cells.slice_erase (Nat.le_add_right ..) (by omega) inside
  have within : ((cells.erase base length).program (base + 0) image).slice base length = _ :=
    Cells.slice_program_within (by omega) blank
  rw [erased, List.take_zero, List.nil_append, Nat.zero_add, List.drop_replicate] at within
  exact within

/-- A block lies in a range of whole blocks exactly if its place does. -/
private theorem block_inside {size base length block : Nat} (nonempty : 0 < size)
    (aligned : base % size = 0) (whole : length % size = 0) :
    (base / size ≤ block ∧ block < base / size + length / size) ↔
      (base ≤ block * size ∧ block * size < base + length) := by
  obtain ⟨first, rfl⟩ := Nat.dvd_of_mod_eq_zero aligned
  obtain ⟨count, rfl⟩ := Nat.dvd_of_mod_eq_zero whole
  rw [Nat.mul_div_cancel_left _ nonempty, Nat.mul_div_cancel_left _ nonempty, ← Nat.mul_add,
    Nat.mul_comm block, Nat.mul_le_mul_left_iff nonempty, Nat.mul_lt_mul_left nonempty]

variable [WornDevice δ]

/-- Storing a segment on a device on which nothing fails succeeds for every payload that its
codec admits and that fits the range. Afterwards the blocks that the image needs
hold the image and erased bytes behind it, and were erased once more, and nothing else of the
chip has changed. -/
theorem storeSegment_image (sound : store.driver.Sound) (healthy : ChipView.Healthy store.device)
    (registered : store.registrations.get segment = some registration)
    (placed : (SegmentDriver.ensureMapped segment store.driver).1 = .value entry)
    (room : Header.size + payload.length ≤ entry.maxDataSize)
    (serialized : registration.codec.serialize registration.live = .ok payload)
    (fits : payload.length ≤ registration.codec.maxSize) (short : payload.length < UInt32.size) :
    ∃ after, storeSegment segment store = (.value (), after) ∧
      store.imprintSize payload ≤ entry.reserved ∧
      Cells.AgreeOutside (store.driver.base entry) (store.imprintSize payload)
        (cells store.device) (cells after.device) ∧
      (cells after.device).slice (store.driver.base entry) (store.imprintSize payload) =
        Image.written store.config.appSignature registration.codec.span payload ++
          List.replicate (store.imprintSize payload - (24 + payload.length)) 0xff ∧
      ∀ block : Nat, (WornDevice.eraseCounts after.device)[block]? =
        (WornDevice.eraseCounts store.device)[block]?.map fun count =>
          if store.driver.base entry ≤ block * (shape store.device).blockSize ∧
              block * (shape store.device).blockSize <
                store.driver.base entry + store.imprintSize payload
          then count + 1 else count := by
  obtain ⟨found, asked⟩ : ∃ found, SegmentDriver.ensureMapped segment store.driver =
      (.value entry, found) := ⟨_, Prod.ext placed rfl⟩
  have prepared := Registration.prepared_eq serialized fits segment
  obtain ⟨driver, commits, follows, changed, stores⟩ :=
    storeSegment_of_prepared sound healthy registered asked prepared room
  have device := SegmentDriver.device_of_ensureMapped asked
  have working := working_of_asked sound healthy asked
  have nonempty := (NorDevice.valid store.device).blockSize_pos
  have range : entry.Fits (shape store.device) := by
    have range := working.sound.fits working.mapped
    rwa [device] at range
  have top : store.driver.base entry + entry.reserved ≤ (cells store.device).size := by
    have top := working.sound.base_add_le working.mapped
    rwa [SegmentDriver.base, device] at top
  have data := range.maxDataSize
  have ledger := range.room
  have inside : store.imprintSize payload ≤ entry.reserved :=
    Geometry.covering_le (by omega) range.whole
  have covered := store.length_image_le registration.codec payload
  refine ⟨_, stores, inside, ?_, ?_, ?_⟩
  · show Cells.AgreeOutside _ _ _ (cells driver.device)
    rw [changed]
    exact (Cells.Local.imprinted covered).outside _
  · show (cells driver.device).slice _ _ = _
    rw [changed, slice_imprinted covered (by omega), image, ← Image.written_eq _ _ short,
      Image.length_written, ← Nat.add_assoc]
    rfl
  · intro block
    have raised := SegmentDriver.commitContent_raises working room commits
    rw [SegmentDriver.eraseCounts, SegmentDriver.eraseCounts, SegmentDriver.base, device] at raised
    have aligned : store.driver.base entry % (shape store.device).blockSize = 0 :=
      Nat.mod_eq_zero_of_dvd (Nat.dvd_sub (Nat.dvd_of_mod_eq_zero range.aligned)
        (Nat.dvd_of_mod_eq_zero (NorDevice.valid store.device).aligned))
    have within := @block_inside _ _ _ block nonempty aligned (Geometry.covering_mod
      (shape store.device) (Ledger.size + (Header.size + payload.length)))
    have counted := Flash.getElem?_raiseCounts (WornDevice.eraseCounts store.device)
      (store.driver.base entry / (shape store.device).blockSize)
      (store.imprintSize payload / (shape store.device).blockSize) block
    simp only [imprintSize, within] at counted
    show (WornDevice.eraseCounts driver.device)[block]? = _
    rw [raised]
    exact counted

/-! ### A chip with small blocks -/

/-- Twelve blocks of three bytes, which are smaller than a ledger. -/
def narrowGeometry : Geometry where
  regionOffset := 9
  regionSize := 36
  blockCount := 12
  blockSize := 3
  regionCount := 1

/-- A chip that holds no ledger, and whose blocks were erased seven times. -/
def narrowChip : MemoryFlash where
  geometry := narrowGeometry
  valid := (narrowGeometry.validate_eq_ok_iff).1 rfl
  cells := Array.replicate 36 0x2c
  size_cells := Array.size_replicate
  eraseCounts := Array.replicate 12 7
  size_eraseCounts := Array.size_replicate

/-- A store on it whose live bytes are a single one. -/
def narrowStore : Store MemoryFlash :=
  (Store.start narrowChip { appSignature := 5 } {}).register .security (.blob 2 none .full) [6]

theorem storeSegment_image_sample :
    ∃ after, storeSegment .security narrowStore = (.value (), after) ∧ 27 ≤ 27 ∧
      Cells.AgreeOutside 9 27 (cells narrowStore.device) (cells after.device) ∧
      (cells after.device).slice 9 27 =
        [0x47, 0x44, 0x45, 0x4c, 0xa5, 0xa5, 0x5a, 0x5a,
          1, 0, 0, 0, 0x4c, 0x50, 0x53, 0x54, 5, 0, 0, 0, 1, 0, 7, 0, 6, 0xff, 0xff] ∧
      ∀ block : Nat, (WornDevice.eraseCounts after.device)[block]? =
        (WornDevice.eraseCounts narrowStore.device)[block]?.map fun count =>
          if 9 ≤ block * 3 ∧ block * 3 < 9 + 27 then count + 1 else count := by
  have sound : narrowStore.driver.Sound := ⟨trivial, fun _ known => nomatch known⟩
  have healthy : ChipView.Healthy narrowStore.device := trivial
  have registered : narrowStore.registrations.get .security =
      some { codec := .blob 2 none .full, live := [6] } := rfl
  have placed : (SegmentDriver.ensureMapped .security narrowStore.driver).1 =
      .value ⟨.security, 18, 27, 19⟩ := by rfl
  have serialized : (Codec.blob 2 none .full).serialize [6] = .ok [6] := rfl
  exact storeSegment_image sound healthy registered placed (by decide) serialized (by decide)
    (by decide)

end NorStore.Store
