/-
# How far a header describes its payload

The header of a payload has 32 bits for the length, and storing a segment compares the length with
nothing but what the codec promised and what the range holds. So a payload that is longer than
those bits can tell is stored without complaint, and its header records the rest of the length
that is left of them. Every shorter payload is described as it is: the header has its length, and
every reader of the application finds it valid and finds its checksum right.
-/

import NorStore.Proofs.Store.Imprint
import NorStore.Proofs.Store.Storing
import NorStore.Record.Pattern

namespace NorStore

open NorStore.Flash (BlockDevice ChipView Geometry MemoryFlash NorDevice)
open NorStore.Segment (Table)

/-- What a header has to say of a payload for a reader of an application to recognise it. -/
structure Header.Describes (header : Header) (appSignature : UInt32) (span : ChecksumSpan)
    (payload : Bytes) : Prop where
  length : header.length.toNat = payload.length
  valid : header.validate appSignature currentVersion = .ok ()
  verified : header.verify payload span = .ok ()

namespace Carries

variable {appSignature : UInt32} {span : ChecksumSpan} {payload range : Bytes}

/-- The length in the header is what 32 bits hold of the length of the payload. -/
theorem length_header (carries : Carries appSignature span payload range) :
    (Image.header range).length.toNat = payload.length % UInt32.size := by
  rw [carries.header]
  exact UInt32.toNat_ofNat

/-- A payload whose length does not fit its field is refused as one of another length. -/
theorem verify_of_long (carries : Carries appSignature span payload range)
    (long : UInt32.size ≤ payload.length) (reader : ChecksumSpan) :
    (Image.header range).verify payload reader = .error (.corruption
      (.shortPayload payload.length (payload.length % UInt32.size))) := by
  have rest : payload.length % UInt32.size < UInt32.size := Nat.mod_lt _ (by decide)
  rw [Header.verify, carries.length_header, if_pos (by omega)]

/-- So the header describes exactly the payloads whose length fits. -/
theorem describes_iff (carries : Carries appSignature span payload range) :
    (Image.header range).Describes appSignature span payload ↔ payload.length < UInt32.size := by
  constructor
  · intro describes
    rw [← describes.length, carries.length_header]
    exact Nat.mod_lt _ (by decide)
  · intro short
    exact {
      length := carries.toNat_length short
      valid := carries.validate (UInt16.le_refl _)
      verified := (carries.verify short span).trans (if_pos rfl) }

end Carries

namespace Store

variable {δ : Type} [BlockDevice δ] [NorDevice δ] {store after : Store δ} {segment : Segment}

/-- Storing a segment that succeeds leaves its payload, whatever else can fail on the device. -/
theorem carries_of_stored (sound : store.driver.Sound)
    (stores : storeSegment segment store = (.value (), after)) :
    ∃ registration entry payload, store.registrations.get segment = some registration ∧
      after.driver.Mapped segment entry ∧
      registration.codec.serialize registration.live = .ok payload ∧
      payload.length ≤ registration.codec.maxSize ∧
      Carries store.config.appSignature registration.codec.span payload
        (after.driver.contents entry) := by
  cases registered : store.registrations.get segment with
  | none =>
      rw [storeSegment_of_unregistered registered] at stores
      cases stores
  | some registration =>
      rcases asked : SegmentDriver.ensureMapped segment store.driver with ⟨entry | cause | _, found⟩
      · have soundly : (store.atop found).driver.Sound := sound.of_ensureMapped asked
        have mapped : (store.atop found).driver.Mapped segment entry :=
          SegmentDriver.mapped_of_ensureMapped asked
        have known : (store.atop found).registrations.get segment = some registration := registered
        rw [storeSegment_atop registered asked] at stores
        rcases (writeSegment_ends soundly mapped known).cases with
          ⟨bytes, _, writes, driver, payload, confined, written, -, rfl⟩ |
          ⟨cause, _, fails, -⟩
        · rw [storeSegment_of_written writes] at stores
          cases stores
          exact ⟨registration, entry, payload, rfl, confined.toFollows.mapped mapped,
            written.serialized, written.fits, written.carries⟩
        · rw [storeSegment_of_failed fails] at stores
          cases stores
      · rw [storeSegment_of_unmapped registered asked] at stores
        cases stores
      · rw [storeSegment_of_no_range registered asked] at stores
        cases stores

/-- What the header of a stored segment says of the payload that its codec made. On a device on
which nothing fails every payload is stored that the codec admits and the range has room for,
whether or not its length fits the field. -/
theorem describes_of_stored (sound : store.driver.Sound) (segment : Segment) :
    (∀ after, storeSegment segment store = (.value (), after) →
      ∃ registration entry payload, store.registrations.get segment = some registration ∧
        after.driver.Mapped segment entry ∧
        registration.codec.serialize registration.live = .ok payload ∧
        payload.length ≤ registration.codec.maxSize ∧
        let header := Image.header (after.driver.contents entry)
        header.length.toNat = payload.length % UInt32.size ∧
          header.validate store.config.appSignature Header.currentVersion = .ok () ∧
          (header.Describes store.config.appSignature registration.codec.span payload ↔
            payload.length < UInt32.size) ∧
          (UInt32.size ≤ payload.length → header.verify payload registration.codec.span =
            .error (.corruption (.shortPayload payload.length
              (payload.length % UInt32.size))))) ∧
    ∀ registration entry payload, store.registrations.get segment = some registration →
      ChipView.Healthy store.device →
      (SegmentDriver.ensureMapped segment store.driver).1 = .value entry →
      registration.codec.serialize registration.live = .ok payload →
      payload.length ≤ registration.codec.maxSize →
      Header.size + payload.length ≤ entry.maxDataSize →
      ∃ after, storeSegment segment store = (.value (), after) := by
  constructor
  · intro after stores
    obtain ⟨registration, entry, payload, registered, mapped, serialized, fits, carries⟩ :=
      carries_of_stored sound stores
    exact ⟨registration, entry, payload, registered, mapped, serialized, fits,
      carries.length_header, carries.validate (UInt16.le_refl _), carries.describes_iff,
      fun long => carries.verify_of_long long _⟩
  · intro registration entry payload registered healthy placed serialized fits room
    obtain ⟨found, asked⟩ : ∃ found, SegmentDriver.ensureMapped segment store.driver =
        (.value entry, found) := ⟨_, Prod.ext placed rfl⟩
    obtain ⟨_, -, -, -, stores⟩ := storeSegment_of_prepared sound healthy registered asked
      (Registration.prepared_eq serialized fits segment) room
    exact ⟨_, stores⟩

/-! ### A payload of four gibibytes -/

/-- A store that is started on a chip, with live bytes that its codec admits if their length is
at most the first that does not fit the field. -/
def broadStore (chip : MemoryFlash) (live : Bytes) : Store MemoryFlash :=
  (Store.start chip { appSignature := 7 } {}).register .applicationData
    (.blob UInt32.size none .full) live

theorem settled_broadStore (chip : MemoryFlash) (live : Bytes) : (broadStore chip live).Settled :=
  (Store.settled_start trivial _ _).register rfl _ _ _

theorem describes_of_stored_sample :
    ∃ after, storeSegment .security narrowStore = (.value (), after) ∧
      ∃ entry, after.driver.Mapped .security entry ∧
        (Image.header (after.driver.contents entry)).Describes 5 .full [6] := by
  have sound : narrowStore.driver.Sound := ⟨trivial, fun _ known => nomatch known⟩
  obtain ⟨told, succeeds⟩ := describes_of_stored sound .security
  obtain ⟨after, stores⟩ := succeeds { codec := .blob 2 none .full, live := [6] }
    ⟨.security, 18, 27, 19⟩ [6] rfl trivial rfl rfl (by decide) (by decide)
  obtain ⟨registration, entry, payload, registered, mapped, serialized, -, -, -, describes, -⟩ :=
    told after stores
  cases registered
  cases serialized
  exact ⟨after, stores, entry, mapped, describes.2 (by decide)⟩

/-- A region with one block more than a payload takes whose length just does not fit the field. -/
def broadGeometry : Geometry where
  regionOffset := 0
  regionSize := 4294971392
  blockCount := 1048577
  blockSize := 4096
  regionCount := 1

theorem valid_broadGeometry : broadGeometry.Valid := (broadGeometry.validate_eq_ok_iff).1 rfl

/-- The one range of the region is for the segment, whatever its live bytes are. -/
theorem asked_broadStore {chip : MemoryFlash} (same : chip.geometry = broadGeometry)
    (live : Bytes) :
    (SegmentDriver.ensureMapped .applicationData (broadStore chip live).driver).1 =
      .value ⟨.applicationData, 0, 4294971392, 4294971384⟩ := by
  have plans : ∃ map, MemoryMap.planned broadGeometry
      ((Table.replicate none).set .applicationData (some UInt32.size)) = .value map ∧
        map.entry? .applicationData = some ⟨.applicationData, 0, 4294971392, 4294971384⟩ :=
    ⟨_, rfl, rfl⟩
  rw [← same] at plans
  have usable : (broadStore chip live).driver.Usable := by
    refine ⟨trivial, fun reason failed => ?_⟩
    cases failed
  obtain ⟨_, asked⟩ := usable.asked (settled_broadStore chip live).planned plans
  exact congrArg Prod.fst asked

/-- That many zeros. -/
def longPayload : Pattern := .repeated (.repeated (.spelled [0]) 65536) 65536

/-- A payload of 2 ^ 32 bytes is stored without complaint, with a header for a payload of none. -/
theorem truncated_of_stored :
    ∃ chip after, MemoryFlash.blank? broadGeometry = .ok chip ∧
      storeSegment .applicationData (broadStore chip longPayload.toBytes) = (.value (), after) ∧
      longPayload.toBytes.length = 4294967296 ∧
      let header := Image.header
        (after.driver.contents ⟨.applicationData, 0, 4294971392, 4294971384⟩)
      header.length = 0 ∧ ¬ header.Describes 7 .full longPayload.toBytes ∧
        header.verify longPayload.toBytes .full =
          .error (.corruption (.shortPayload 4294967296 0)) := by
  obtain ⟨chip, blank, same⟩ : ∃ chip, MemoryFlash.blank? broadGeometry = .ok chip ∧
      chip.geometry = broadGeometry := by
    rw [MemoryFlash.blank?, Geometry.check_of_valid valid_broadGeometry]
    exact ⟨_, rfl, rfl⟩
  have length : longPayload.toBytes.length = 4294967296 := longPayload.length_toBytes
  -- Nothing else is needed of the payload, and it must not be spelled out.
  generalize longPayload.toBytes = payload at length ⊢
  have long : UInt32.size ≤ payload.length := Nat.le_of_eq length.symm
  have serialized : (Codec.blob UInt32.size none .full).serialize payload = .ok payload := rfl
  have room : Header.size + payload.length ≤ 4294971384 := by
    rw [length]
    decide
  obtain ⟨after, stores, -, -, carries⟩ := storeSegment_carries
    (settled_broadStore chip payload).planned.sound trivial rfl (asked_broadStore same payload)
    (Registration.prepared_eq serialized (Nat.le_of_eq length) _) room
  refine ⟨chip, after, blank, stores, length, ?_, fun describes => ?_, ?_⟩
  · rw [carries.header, Header.forPayload, length]
    rfl
  · exact absurd (carries.describes_iff.1 describes) (Nat.not_lt.2 long)
  · have refused := carries.verify_of_long long .full
    rw [length] at refused
    exact refused

end Store

end NorStore
