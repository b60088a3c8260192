/-
# What wears a segment

Of the accesses that store a segment only opening it for writing erases, and it raises the
counts of exactly the blocks that the new content needs.
-/

import NorStore.Proofs.Driver.Effect
import NorStore.Proofs.Flash.Wear

namespace NorStore

open NorStore.Flash (BlockDevice FlashError NorDevice WornDevice raiseCounts)
open NorStore.Flash.ChipView (shape)

variable {δ ε α : Type} [BlockDevice δ] [NorDevice δ] [WornDevice δ]

/-! ## Sessions -/

namespace Flash.BlockDevice

/-- A session leaves the counts if its access does. -/
theorem session_leaves {access : Action δ FlashError α}
    (leaves : Action.Leaves WornDevice.eraseCounts access) :
    Action.Leaves WornDevice.eraseCounts (session access) := by
  intro device
  have opens := WornDevice.openDevice_leaves device
  rw [session]
  split
  · rename_i ends
    rwa [ends] at opens
  · rename_i ends
    rwa [ends] at opens
  · rename_i ready ends
    rw [ends] at opens
    have same := leaves ready
    split
    · rename_i finishes
      rw [finishes] at same
      exact same.trans opens
    · rename_i finishes
      rw [finishes] at same
      exact (WornDevice.closeDevice_leaves _).trans (same.trans opens)

omit [NorDevice δ] [WornDevice δ] in
/-- A session that gives a value has opened the device, accessed it and closed it. -/
theorem session_eq_value {access : Action δ FlashError α} {device reached : δ} {result : α}
    (ends : session access device = (.value result, reached)) :
    ∃ ready latest, openDevice device = (.value (), ready) ∧
      access ready = (.value result, latest) ∧ reached = closeDevice latest := by
  rcases opens : (openDevice device : Outcome FlashError Unit × δ) with ⟨_ | _ | _, ready⟩
  · rcases finishes : access ready with ⟨_ | _ | _, latest⟩ <;>
      simp only [session, opens, finishes, Prod.mk.injEq, Outcome.value.injEq, reduceCtorEq,
        false_and] at ends
    obtain ⟨rfl, rfl⟩ := ends
    exact ⟨ready, latest, rfl, finishes, rfl⟩
  · simp [session, opens] at ends
  · simp [session, opens] at ends

/-- A session that erases raises the counts of its blocks. -/
theorem session_erase_raises {device reached : δ} {offset length : Nat}
    (erases : session (erase offset length) device = (.value (), reached)) :
    WornDevice.eraseCounts reached = raiseCounts (WornDevice.eraseCounts device)
      ((offset - (shape device).regionOffset) / (shape device).blockSize)
      (length / (shape device).blockSize) := by
  obtain ⟨ready, latest, opens, ends, rfl⟩ := session_eq_value erases
  have same := WornDevice.openDevice_leaves device
  have stays := NorDevice.openDevice_ends device
  rw [opens] at same
  rw [Action.Ends, opens] at stays
  have kept : WornDevice.eraseCounts ready = WornDevice.eraseCounts device := same
  rw [WornDevice.closeDevice_leaves, WornDevice.erase_raises ends, stays.1.shape, kept]

end Flash.BlockDevice

/-! ## Accesses -/

namespace SegmentDriver

variable {driver reached : SegmentDriver δ} {segment : Segment} {entry : MapEntry}

/-- How often each block of the chip was erased. -/
def eraseCounts (driver : SegmentDriver δ) : Array Nat := WornDevice.eraseCounts driver.device

theorem onDevice_leaves {access : Action δ ε α}
    (leaves : Action.Leaves WornDevice.eraseCounts access) :
    Action.Leaves eraseCounts (onDevice access) := fun driver => leaves driver.device

omit [NorDevice δ] [WornDevice δ] in
theorem ensureMapped_leaves [NorDevice δ] [WornDevice δ] (segment : Segment) :
    Action.Leaves eraseCounts
      (ensureMapped segment : Action (SegmentDriver δ) StoreError MapEntry) := by
  intro driver
  rw [eraseCounts, device_ensureMapped, eraseCounts]

theorem writeRuns_leaves (runs : List (Nat × Bytes)) :
    Action.Leaves WornDevice.eraseCounts (writeRuns runs : Action δ FlashError Unit) := by
  induction runs with
  | nil => exact .pure ()
  | cons run rest ih =>
      exact (WornDevice.write_leaves run.1 run.2).bind fun _ => .bind (.lift _) fun _ => ih

theorem program_leaves (asked : Segment) (start : Nat) (data : Bytes) :
    Action.Leaves eraseCounts
      (program asked start data : Action (SegmentDriver δ) StoreError Unit) := by
  apply Action.Leaves.bind .get
  intro driver
  split
  · exact .throw _
  · exact .mapError (onDevice_leaves (BlockDevice.session_leaves (writeRuns_leaves _)))

theorem readLedger_leaves (segment : Segment) :
    Action.Leaves eraseCounts
      (readLedger segment : Action (SegmentDriver δ) StoreError Ledger) := by
  apply (ensureMapped_leaves segment).bind
  intro entry
  exact .bind (.mapError (onDevice_leaves (BlockDevice.session_leaves
    (WornDevice.read_leaves _ _)))) fun _ => .pure _

theorem applyEvent_leaves (segment : Segment) (event : LedgerEvent) :
    Action.Leaves eraseCounts
      (applyEvent segment event : Action (SegmentDriver δ) StoreError Unit) := by
  apply (ensureMapped_leaves segment).bind
  intro entry
  apply (readLedger_leaves segment).bind
  intro ledger
  split
  · exact .throw _
  · exact .pure _
  · exact program_leaves _ _ _

theorem write_leaves (handle : Handle) (offset : Nat) (data : Bytes) :
    Action.Leaves eraseCounts
      (write handle offset data : Action (SegmentDriver δ) StoreError Handle) := by
  rw [write_steps]
  apply Action.Leaves.bind (.lift _)
  intro _
  apply Action.Leaves.bind (.lift _)
  intro past
  split
  · exact .throw _
  · apply Action.Leaves.bind (.lift _)
    intro start
    exact (program_leaves _ _ _).bind fun _ => .lift _

/-- Opening for writing raises the counts of the blocks that are needed. -/
theorem openForWrite_raises (sound : driver.Sound) (mapped : driver.Mapped segment entry)
    {size : Nat} (fits : size ≤ entry.maxDataSize) {handle : Handle}
    (opens : openForWrite segment size driver = (.value handle, reached)) :
    reached.eraseCounts = raiseCounts driver.eraseCounts
      (driver.base entry / (shape driver.device).blockSize)
      ((shape driver.device).covering (Ledger.size + size) / (shape driver.device).blockSize) := by
  rw [openForWrite_eq sound mapped fits, Action.bind_eq_value_iff] at opens
  obtain ⟨_, middle, erases, ends⟩ := opens
  obtain ⟨-, rfl⟩ := Prod.mk.inj ends
  obtain ⟨outcome, rfl⟩ := Prod.mk.inj (Action.mapError_eq_value_iff.1 erases)
  exact BlockDevice.session_erase_raises (Prod.ext outcome rfl)

variable {header : Header} {payload : Bytes}

/-- So does writing new content. -/
theorem writeContent_raises (sound : driver.Sound) (mapped : driver.Mapped segment entry)
    (fits : Header.size + payload.length ≤ entry.maxDataSize)
    (writes : writeContent segment header payload driver = (.value (), reached)) :
    reached.eraseCounts = raiseCounts driver.eraseCounts
      (driver.base entry / (shape driver.device).blockSize)
      ((shape driver.device).covering (Ledger.size + (Header.size + payload.length)) /
        (shape driver.device).blockSize) := by
  rw [writeContent, Action.bind_eq_value_iff] at writes
  obtain ⟨handle, opened, opens, rest⟩ := writes
  have leaves := (write_leaves handle 0 header.encode).bind
    (fun next => (write_leaves next Header.size payload).bind fun _ => .pure ()) opened
  rw [rest] at leaves
  exact leaves.trans (openForWrite_raises sound mapped fits opens)

/-- So does a whole store. -/
theorem commitContent_raises (working : driver.Working segment entry)
    (fits : Header.size + payload.length ≤ entry.maxDataSize)
    (commits : commitContent segment header payload driver = (.value (), reached)) :
    reached.eraseCounts = raiseCounts driver.eraseCounts
      (driver.base entry / (shape driver.device).blockSize)
      ((shape driver.device).covering (Ledger.size + (Header.size + payload.length)) /
        (shape driver.device).blockSize) := by
  obtain ⟨entered, enters, follows, -⟩ := enterTransaction_does working
  have begun := working.follows follows
  rw [commitContent, Action.bind_of_value enters, Action.bind_eq_value_iff] at commits
  obtain ⟨_, written, writes, exits⟩ := commits
  have first := applyEvent_leaves segment .enter driver
  have last := applyEvent_leaves segment .exit written
  rw [show applyEvent segment .enter driver = _ from enters] at first
  rw [show applyEvent segment .exit written = _ from exits] at last
  have raised := writeContent_raises begun.sound begun.mapped fits writes
  rw [follows.base, follows.keeps.shape, first] at raised
  exact last.trans raised

end SegmentDriver

end NorStore
