/-
# Sequential access to segments

A segment is read or written from its start, through a handle that remembers how far
it has come. Opening for writing erases what the new content needs. Data is
programmed in runs that do not cross erase blocks, so any block size will do.
-/

import NorStore.Driver.Basic

namespace NorStore

open NorStore.Flash (BlockDevice FlashError Geometry)

/-- A segment that is open for reading or for writing. -/
structure Handle where
  entry : MapEntry
  mode : AccessMode
  position : Nat
deriving DecidableEq, Repr

namespace Handle

/-- A handle has to be used for what it was opened for, and at its position. -/
def checkSequential (handle : Handle) (mode : AccessMode) (offset : Nat) :
    Outcome StoreError Unit :=
  if handle.mode ≠ mode then
    throw (.invalidOperation (.wrongMode handle.entry.segment handle.mode mode))
  else if offset ≠ handle.position then
    throw (.invalidOperation (.notSequential handle.entry.segment offset handle.position))
  else
    return ()

/-- The handle after an access to a number of bytes. -/
def advance (handle : Handle) (length : Nat) : Outcome StoreError Handle := do
  let position ← Word.add handle.position length
  return { handle with position }

end Handle

/-- Cut data that starts at an offset into runs that each stay in one block: two
neighbouring bytes are in one run unless a block starts between them. -/
def blockRuns (blockSize offset : Nat) : Bytes → List (Nat × Bytes)
  | [] => []
  | byte :: rest =>
    match blockRuns blockSize (offset + 1) rest with
    | [] => [(offset, [byte])]
    | (start, run) :: runs =>
      if start % blockSize = 0 then (offset, [byte]) :: (start, run) :: runs
      else (offset, byte :: run) :: runs

/-- The first run starts where the data does. -/
theorem start_of_blockRuns {blockSize offset start : Nat} {data run : Bytes}
    {runs : List (Nat × Bytes)} (cut : blockRuns blockSize offset data = (start, run) :: runs) :
    start = offset := by
  cases data with
  | nil => contradiction
  | cons byte rest =>
    rw [blockRuns] at cut
    split at cut
    · exact (congrArg Prod.fst (List.cons.inj cut).1).symm
    · split at cut <;> exact (congrArg Prod.fst (List.cons.inj cut).1).symm

/-- The next offset is one further into the block unless it starts another one. -/
private theorem succ_mod {blockSize offset : Nat} (nonempty : 0 < blockSize)
    (inside : (offset + 1) % blockSize ≠ 0) :
    (offset + 1) % blockSize = offset % blockSize + 1 := by
  have below := Nat.mod_lt offset nonempty
  rw [Nat.add_mod] at inside ⊢
  by_cases single : blockSize = 1
  · subst single
    simp [Nat.mod_one] at inside
  · rw [Nat.mod_eq_of_lt (show 1 < blockSize by omega)] at inside ⊢
    by_cases full : offset % blockSize + 1 = blockSize
    · rw [full, Nat.mod_self] at inside
      exact absurd rfl inside
    · exact Nat.mod_eq_of_lt (by omega)

/-- Every run stays in the block in which it starts. -/
theorem blockRuns_within {blockSize : Nat} (nonempty : 0 < blockSize) (offset : Nat)
    (data : Bytes) {run : Nat × Bytes} (cut : run ∈ blockRuns blockSize offset data) :
    run.1 % blockSize + run.2.length ≤ blockSize := by
  induction data generalizing offset run with
  | nil => simp [blockRuns] at cut
  | cons byte rest ih =>
    have below := Nat.mod_lt offset nonempty
    rw [blockRuns] at cut
    split at cut
    · rw [List.mem_singleton.1 cut]
      exact below
    · rename_i start next runs later
      have first := start_of_blockRuns later
      subst first
      split at cut
      · rcases List.mem_cons.1 cut with here | further
        · rw [here]
          exact below
        · exact ih (offset + 1) (later ▸ further)
      · rename_i inside
        rcases List.mem_cons.1 cut with here | further
        · have reach : (offset + 1) % blockSize + next.length ≤ blockSize :=
            ih (offset + 1) (later ▸ List.mem_cons_self)
          rw [succ_mod nonempty inside] at reach
          rw [here]
          show offset % blockSize + (next.length + 1) ≤ blockSize
          omega
        · exact ih (offset + 1) (later ▸ List.mem_cons_of_mem _ further)

/-- The runs hold the data, in order. -/
theorem blockRuns_bytes (blockSize offset : Nat) (data : Bytes) :
    (blockRuns blockSize offset data).flatMap Prod.snd = data := by
  induction data generalizing offset with
  | nil => rfl
  | cons byte rest ih =>
    have := ih (offset + 1)
    rw [blockRuns]
    split
    · rename_i empty
      rw [empty] at this
      simpa using this
    · rename_i start run runs cut
      rw [cut] at this
      split <;> simpa using this

namespace SegmentDriver

variable {δ : Type} [BlockDevice δ]

/-- Write runs one after another. -/
def writeRuns : List (Nat × Bytes) → Action δ FlashError Unit
  | [] => return ()
  | (offset, run) :: runs => do
    BlockDevice.write offset run
    let _ ← (Word.add offset run.length : Outcome FlashError Nat)
    writeRuns runs

/-- Program data into a segment, from an absolute offset on. -/
def program (segment : Segment) (start : Nat) (data : Bytes) :
    Action (SegmentDriver δ) StoreError Unit := do
  match (← get).memoryMap? with
  | none => throw (.deviceUnavailable .unplanned)
  | some map =>
    (onDevice (BlockDevice.session (writeRuns
      (blockRuns map.geometry.blockSize start data)))).mapError (.writeFailure segment)

/-- Open a segment for reading. -/
def openForRead (segment : Segment) : Action (SegmentDriver δ) StoreError Handle := do
  let entry ← ensureMapped segment
  (onDevice (BlockDevice.session (pure ()))).mapError fun cause =>
    .deviceUnavailable (.device cause)
  return { entry, mode := .read, position := 0 }

/-- Open a segment for writing that many bytes, and erase what they need. -/
def openForWrite (segment : Segment) (size : Nat) :
    Action (SegmentDriver δ) StoreError Handle := do
  let entry ← ensureMapped segment
  if entry.maxDataSize < size then
    throw (.capacityExceeded segment size entry.maxDataSize)
  else
    match (← get).memoryMap? with
    | none => throw (.deviceUnavailable .unplanned)
    | some map =>
      let needed ← (Word.add Ledger.size size : Outcome StoreError Nat)
      let length ← (map.geometry.roundUp needed : Outcome StoreError Nat)
      (onDevice (BlockDevice.session (BlockDevice.erase entry.start length))).mapError
        (.writeFailure segment)
      return { entry, mode := .write, position := 0 }

/-- Erase the whole range of a segment. -/
def eraseSegment (segment : Segment) : Action (SegmentDriver δ) StoreError Unit := do
  let entry ← ensureMapped segment
  (onDevice (BlockDevice.session (BlockDevice.erase entry.start entry.reserved))).mapError
    (.writeFailure segment)

end SegmentDriver

/-- A driver and a handle of one of its segments, in use together. An access hands both of
them back, also if it fails. -/
structure OpenSegment (δ : Type) where
  driver : SegmentDriver δ
  handle : Handle

namespace OpenSegment

variable {δ ε α : Type}

/-- Use the driver without the handle. -/
def onDriver (access : Action (SegmentDriver δ) ε α) : Action (OpenSegment δ) ε α := fun opened =>
  match access opened.driver with
  | (outcome, driver) => (outcome, { opened with driver })

/-- The handle as it is now. -/
def getHandle : Action (OpenSegment δ) ε Handle := do
  return (← get).handle

/-- Move the handle behind a number of bytes. -/
def advance (length : Nat) : Action (OpenSegment δ) StoreError Unit := fun opened =>
  match opened.handle.advance length with
  | .value handle => (.value (), { opened with handle })
  | .error cause => (.error cause, opened)
  | .trap => (.trap, opened)

variable [BlockDevice δ]

/-- Read the next bytes of a segment. -/
def read (offset length : Nat) : Action (OpenSegment δ) StoreError Bytes := do
  let handle ← getHandle
  handle.checkSequential .read offset
  let past ← (Word.add offset length : Outcome StoreError Nat)
  if handle.entry.maxDataSize < past then
    throw (.readPastCapacity handle.entry.segment length offset)
  else
    let start ← (Word.add handle.entry.dataOffset offset : Outcome StoreError Nat)
    let bytes ← onDriver ((SegmentDriver.onDevice
      (BlockDevice.session (BlockDevice.read start length))).mapError .flash)
    advance length
    return bytes

/-- Write the next bytes of a segment. -/
def write (offset : Nat) (data : Bytes) : Action (OpenSegment δ) StoreError Unit := do
  let handle ← getHandle
  handle.checkSequential .write offset
  let past ← (Word.add offset data.length : Outcome StoreError Nat)
  if handle.entry.maxDataSize < past then
    throw (.capacityExceeded handle.entry.segment past handle.entry.maxDataSize)
  else
    let start ← (Word.add handle.entry.dataOffset offset : Outcome StoreError Nat)
    onDriver (SegmentDriver.program handle.entry.segment start data)
    advance data.length

end OpenSegment

namespace SegmentDriver

variable {δ ε α β : Type}

/-- Lend a handle to an access, for a caller that has no use for it if the access fails. -/
def lend (handle : Handle) (access : Action (OpenSegment δ) ε α) :
    Action (SegmentDriver δ) ε (α × Handle) := fun driver =>
  match access { driver, handle } with
  | (.value result, opened) => (.value (result, opened.handle), opened.driver)
  | (.error cause, opened) => (.error cause, opened.driver)
  | (.trap, opened) => (.trap, opened.driver)

section Lending

variable (handle : Handle)

theorem lend_bind (access : Action (OpenSegment δ) ε β) (next : β → Action (OpenSegment δ) ε α) :
    lend handle (access >>= next) =
      lend handle access >>= fun reached => lend reached.2 (next reached.1) := by
  funext driver
  simp only [lend, Action.bind_apply, Action.bind]
  rcases access { driver, handle } with ⟨_ | _ | _, opened⟩ <;> rfl

theorem lend_pure (result : α) :
    lend handle (pure result : Action (OpenSegment δ) ε α) = pure (result, handle) := rfl

theorem lend_throw (cause : ε) :
    lend handle (throw cause : Action (OpenSegment δ) ε α) = throw cause := rfl

theorem lend_getHandle :
    lend handle (OpenSegment.getHandle : Action (OpenSegment δ) ε Handle) =
      pure (handle, handle) := rfl

theorem lend_lift (outcome : Outcome ε α) :
    lend handle (liftM outcome : Action (OpenSegment δ) ε α) =
      liftM outcome >>= fun result => pure (result, handle) := by
  cases outcome <;> rfl

theorem lend_onDriver (access : Action (SegmentDriver δ) ε α) :
    lend handle (OpenSegment.onDriver access) = access >>= fun result => pure (result, handle) := by
  funext driver
  simp only [lend, Action.bind_apply, Action.bind, OpenSegment.onDriver]
  rcases access driver with ⟨_ | _ | _, reached⟩ <;> rfl

theorem lend_advance (length : Nat) :
    lend handle (OpenSegment.advance length : Action (OpenSegment δ) _ _) =
      liftM (handle.advance length) >>= fun moved => pure ((), moved) := by
  funext driver
  simp only [lend, Action.bind_apply, Action.bind, OpenSegment.advance]
  cases handle.advance length <;> rfl

end Lending

variable [BlockDevice δ]

/-- Read the next bytes of a segment, and get the handle back if that succeeds. -/
def read (handle : Handle) (offset length : Nat) :
    Action (SegmentDriver δ) StoreError (Bytes × Handle) :=
  lend handle (OpenSegment.read offset length)

/-- Write the next bytes of a segment, and get the handle back if that succeeds. -/
def write (handle : Handle) (offset : Nat) (data : Bytes) :
    Action (SegmentDriver δ) StoreError Handle := do
  let (_, next) ← lend handle (OpenSegment.write offset data)
  return next

/-- The steps of a read, for a caller that has the handle in its own hands. -/
theorem read_steps (handle : Handle) (offset length : Nat) :
    (read handle offset length : Action (SegmentDriver δ) StoreError _) = (do
      handle.checkSequential .read offset
      let past ← (Word.add offset length : Outcome StoreError Nat)
      if handle.entry.maxDataSize < past then
        throw (.readPastCapacity handle.entry.segment length offset)
      else
        let start ← (Word.add handle.entry.dataOffset offset : Outcome StoreError Nat)
        let bytes ← (onDevice (BlockDevice.session (BlockDevice.read start length))).mapError .flash
        let next ← handle.advance length
        return (bytes, next)) := by
  simp only [read, OpenSegment.read, lend_bind, lend_getHandle, lend_lift, apply_ite (lend handle),
    lend_throw, lend_onDriver, lend_advance, lend_pure, bind_assoc, pure_bind]

/-- The steps of a write, for a caller that has the handle in its own hands. -/
theorem write_steps (handle : Handle) (offset : Nat) (data : Bytes) :
    (write handle offset data : Action (SegmentDriver δ) StoreError _) = (do
      handle.checkSequential .write offset
      let past ← (Word.add offset data.length : Outcome StoreError Nat)
      if handle.entry.maxDataSize < past then
        throw (.capacityExceeded handle.entry.segment past handle.entry.maxDataSize)
      else
        let start ← (Word.add handle.entry.dataOffset offset : Outcome StoreError Nat)
        program handle.entry.segment start data
        handle.advance data.length) := by
  simp only [write, OpenSegment.write, lend_bind, lend_getHandle, lend_lift,
    apply_ite (lend handle), lend_throw, lend_onDriver, lend_advance, bind_assoc, pure_bind]
  refine bind_congr fun _ => bind_congr fun past => ?_
  split
  · rfl
  · simp only [bind_assoc, pure_bind, bind_pure]

end SegmentDriver

end NorStore
