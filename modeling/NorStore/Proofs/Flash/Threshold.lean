/-
# The mark at which power is cut

A wrapper need not remember how many bytes are left. It can remember the count of programmed
bytes at which it is going to cut the power, and compare the two at every write. Such a mark is a
word, so a limit that goes beyond the words is capped, and without a limit the mark is the largest
word.

As long as the count is a word itself, the two wrappers do the same: each operation gives the same
answer and leaves the same device and the same counts, and the mark stands where the bytes that
are left would end. By induction this holds after everything that can happen to the wrappers.
-/

import NorStore.Proofs.Flash.Metered

namespace NorStore.Flash

/-- A device that fails on demand, with the count of programmed bytes at which power is cut. Of
the faults, the bytes that are left are not used. -/
structure Marked (δ : Type) where
  whole : Faulty δ
  mark : Nat := Word.largest

namespace Marked

variable {δ : Type}

/-- Cut power once that many more bytes have been programmed. -/
def cutPowerAfter (marked : Marked δ) (bytes : Nat) : Marked δ :=
  { marked with mark := min (marked.whole.faults.bytesWritten + bytes) Word.largest }

/-- Restore power and clear every fault. -/
def reset (marked : Marked δ) : Marked δ :=
  { whole := { marked.whole with faults := marked.whole.faults.reset } }

variable [BlockDevice δ]

/-- An operation to which the mark makes no difference. -/
def unmarked {α : Type} (access : Action (Faulty δ) FlashError α) :
    Action (Marked δ) FlashError α := fun marked =>
  match access marked.whole with
  | (outcome, whole) => (outcome, { marked with whole })

/-- Program bytes as long as the count does not pass the mark. -/
def write (offset : Nat) (data : Bytes) : Action (Marked δ) FlashError Unit := fun marked =>
  match marked with
  | ⟨⟨device, faults⟩, mark⟩ =>
    if faults.powerLost then
      (.error (.writeFailed offset .noPower), ⟨⟨device, faults⟩, mark⟩)
    else
      let faults := { faults with writes := faults.writes + 1 }
      if mark < faults.bytesWritten + data.length then
        unmarked (Faulty.writeLast offset data (mark - faults.bytesWritten))
          ⟨⟨device, faults⟩, mark⟩
      else
        match BlockDevice.write offset data device with
        | (.value (), reached) => (.value (), ⟨⟨reached, faults.spend data.length⟩, mark⟩)
        | (outcome, reached) => (outcome, ⟨⟨reached, faults⟩, mark⟩)

instance : BlockDevice (Marked δ) where
  openDevice := unmarked BlockDevice.openDevice
  closeDevice marked := { marked with whole := BlockDevice.closeDevice marked.whole }
  geometry marked := BlockDevice.geometry marked.whole
  read offset length := unmarked (BlockDevice.read offset length)
  write := write
  erase offset length := unmarked (BlockDevice.erase offset length)

/-- What has become of the wrapper after an incident. -/
def undergo (marked : Marked δ) : Incident → Marked δ
  | .call call => (call.access marked).2
  | .cutPowerAfter bytes => marked.cutPowerAfter bytes
  | .reset => marked.reset

/-- What has become of it after some incidents. -/
def history (marked : Marked δ) (incidents : List Incident) : Marked δ :=
  incidents.foldl undergo marked

end Marked

/-! ## The mark of the bytes that are left -/

namespace Faults

variable {faults : Faults} {bytes left : Nat}

/-- The count of programmed bytes at which nothing is left. -/
def mark (faults : Faults) : Nat :=
  faults.powerLeft.elim Word.largest fun left => min (faults.bytesWritten + left) Word.largest

/-- Programming does not move the mark. -/
theorem mark_spend (lasts : faults.lastsFor bytes = true) :
    (faults.spend bytes).mark = faults.mark := by
  rw [lastsFor] at lasts
  rw [mark, mark, spend]
  cases limit : faults.powerLeft with
  | none => rfl
  | some left =>
      rw [limit] at lasts
      have enough := of_decide_eq_true lasts
      show min (faults.bytesWritten + bytes + (left - bytes)) _ = min (faults.bytesWritten + left) _
      rw [Nat.add_assoc, Nat.add_sub_of_le enough]

/-- Power lasts if the mark is not passed, as long as the count is a word. -/
theorem lastsFor_iff_mark (counted : faults.bytesWritten + bytes < Word.limit) :
    faults.lastsFor bytes = true ↔ faults.bytesWritten + bytes ≤ faults.mark := by
  have largest : faults.bytesWritten + bytes ≤ Word.largest := Nat.le_pred_of_lt counted
  rw [lastsFor, mark]
  cases faults.powerLeft with
  | none => exact iff_of_true rfl largest
  | some left =>
      rw [decide_eq_true_iff]
      show _ ↔ _ ≤ min _ _
      omega

/-- What is left for the write that would pass the mark is what is missing to it. -/
theorem left_eq_mark (limit : faults.powerLeft = some left) (few : left < bytes)
    (counted : faults.bytesWritten + bytes < Word.limit) :
    left = faults.mark - faults.bytesWritten := by
  have largest : faults.bytesWritten + bytes ≤ Word.largest := Nat.le_pred_of_lt counted
  rw [mark, limit]
  show left = min (faults.bytesWritten + left) Word.largest - _
  omega

end Faults

/-! ## One operation -/

namespace Faulty

variable {δ : Type}

/-- The wrapper with the mark in place of the bytes that are left. -/
def marked (whole : Faulty δ) : Marked δ :=
  ⟨⟨whole.device, { whole.faults with powerLeft := none }⟩, whole.faults.mark⟩

variable [BlockDevice δ] {whole : Faulty δ} {offset : Nat} {data : Bytes}

/-- The two wrappers are given the same answer, and the one is left with the mark of the other. -/
def Agrees {α : Type} (whole : Faulty δ) (own : Action (Faulty δ) FlashError α)
    (other : Action (Marked δ) FlashError α) : Prop :=
  other whole.marked = ((own whole).1, (own whole).2.marked)

omit [BlockDevice δ] in
theorem Agrees.bind_pure {α β : Type} {own : Action (Faulty δ) FlashError α}
    {other : Action (Marked δ) FlashError α} (agrees : whole.Agrees own other) (answer : α → β) :
    whole.Agrees (own >>= fun result => pure (answer result))
      (other >>= fun result => pure (answer result)) := by
  rw [Agrees] at agrees ⊢
  rw [Action.bind_apply, Action.bind_apply, Action.bind, Action.bind, agrees]
  rcases own whole with ⟨_ | _ | _, reached⟩ <;> rfl

theorem agrees_open (whole : Faulty δ) :
    whole.Agrees BlockDevice.openDevice BlockDevice.openDevice := by
  obtain ⟨device, _, _, _, failOpen, _, _, _, _, _⟩ := whole
  show Marked.unmarked openDevice _ = ((openDevice _).1, (openDevice _).2.marked)
  cases failOpen with
  | true => rfl
  | false =>
      simp only [Marked.unmarked, openDevice, marked, Bool.false_eq_true, if_false]
      rcases BlockDevice.openDevice device with ⟨_ | _ | _, reached⟩ <;> rfl

theorem agrees_erase (whole : Faulty δ) (offset length : Nat) :
    whole.Agrees (BlockDevice.erase offset length) (BlockDevice.erase offset length) := by
  obtain ⟨device, _, powerLost, _, _, failErase, _, _, _, _⟩ := whole
  show Marked.unmarked (erase offset length) _ =
    ((erase offset length _).1, (erase offset length _).2.marked)
  cases powerLost <;> cases failErase <;> rfl

/-- The write during which power is cut programs what is missing to the mark. -/
theorem agrees_writeLast {device : δ} {faults : Faults} {left : Nat}
    (limit : faults.powerLeft = some left) :
    Agrees ⟨device, faults⟩ (writeLast offset data left)
      (Marked.unmarked (writeLast offset data left)) := by
  have lasts : ({ faults with powerLost := true } : Faults).lastsFor left = true := by
    simp only [Faults.lastsFor, limit, Nat.le_refl, decide_true]
  have mark : (({ faults with powerLost := true } : Faults).spend left).mark = faults.mark :=
    Faults.mark_spend lasts
  rw [Agrees, Marked.unmarked]
  simp only [writeLast, marked]
  split
  · rfl
  · rcases BlockDevice.write offset (data.take left) device with ⟨_ | _ | _, reached⟩
    · simp only [mark]
      rfl
    · simp only [mark]
      rfl
    · rfl

/-- Writing comes to the same, as the mark is passed exactly where the bytes that are left end. -/
theorem agrees_write (counted : whole.faults.bytesWritten + data.length < Word.limit) :
    whole.Agrees (BlockDevice.write offset data) (BlockDevice.write offset data) := by
  obtain ⟨device, faults⟩ := whole
  show Marked.write offset data _ = ((write offset data _).1, (write offset data _).2.marked)
  rw [write, Marked.write, marked]
  dsimp only at counted ⊢
  by_cases lost : faults.powerLost = true
  · rw [if_pos lost, if_pos lost]
    rfl
  · rw [if_neg lost, if_neg lost]
    let noted := { faults with writes := faults.writes + 1 }
    have enough : noted.lastsFor data.length = true ↔
        faults.bytesWritten + data.length ≤ faults.mark := Faults.lastsFor_iff_mark counted
    by_cases lasts : noted.lastsFor data.length = true
    · have spent : (noted.spend data.length).mark = faults.mark := Faults.mark_spend lasts
      rw [if_pos lasts, if_neg (Nat.not_lt.2 (enough.1 lasts))]
      rcases BlockDevice.write offset data device with ⟨_ | _ | _, reached⟩
      · exact congrArg (fun mark => (Outcome.value (), Marked.mk _ mark)) spent.symm
      · rfl
      · rfl
    · rw [if_neg lasts, if_pos (Nat.lt_of_not_le (mt enough.2 lasts))]
      obtain ⟨left, limit⟩ : ∃ left, faults.powerLeft = some left := by
        cases limit : faults.powerLeft with
        | none => exact absurd (by simp only [Faults.lastsFor, noted, limit]) lasts
        | some left => exact ⟨left, rfl⟩
      have few : left < data.length := by
        simp only [Faults.lastsFor, noted, limit, decide_eq_true_eq] at lasts
        exact Nat.lt_of_not_le lasts
      have rest : faults.powerLeft.getD 0 = left := by rw [limit, Option.getD_some]
      rw [rest, ← Faults.left_eq_mark limit few counted]
      exact @agrees_writeLast _ _ offset data device noted left limit

/-! ## One call -/

/-- A call is answered alike, as long as the count stays a word. -/
theorem agrees_call (call : Call)
    (counted : whole.faults.bytesWritten + call.bytes.length < Word.limit) :
    whole.Agrees call.access call.access := by
  cases call with
  | openDevice => exact (agrees_open whole).bind_pure _
  | closeDevice => rfl
  | geometry =>
      have same : BlockDevice.geometry whole.marked = BlockDevice.geometry whole := rfl
      rw [Agrees, Call.access, Call.access, Action.get_bind, Action.get_bind, same]
      cases BlockDevice.geometry whole <;> rfl
  | read offset length =>
      have same : whole.Agrees (BlockDevice.read offset length)
          (BlockDevice.read offset length) := rfl
      exact same.bind_pure _
  | write offset data =>
      rw [Call.bytes, List.length_mapIdx] at counted
      exact (agrees_write counted).bind_pure _
  | erase offset length => exact (agrees_erase whole offset length).bind_pure _

/-- The operation adds no more to the count than some bytes. -/
def Adds {α : Type} (whole : Faulty δ) (bytes : Nat) (access : Action (Faulty δ) FlashError α) :
    Prop :=
  access.Reaches whole fun reached =>
    reached.faults.bytesWritten ≤ whole.faults.bytesWritten + bytes

omit [BlockDevice δ] in
theorem Adds.bind_pure {α β : Type} {bytes : Nat} {access : Action (Faulty δ) FlashError α}
    (adds : whole.Adds bytes access) (answer : α → β) :
    whole.Adds bytes (access >>= fun result => pure (answer result)) :=
  Action.Reaches.bind adds fun _ _ _ told => told

theorem adds_open (whole : Faulty δ) : whole.Adds 0 BlockDevice.openDevice := by
  show (openDevice whole).2.faults.bytesWritten ≤ whole.faults.bytesWritten
  rw [openDevice]
  split
  · exact Nat.le_refl _
  · split <;> exact Nat.le_refl _

theorem adds_erase (whole : Faulty δ) (offset length : Nat) :
    whole.Adds 0 (BlockDevice.erase offset length) := by
  show (erase offset length whole).2.faults.bytesWritten ≤ whole.faults.bytesWritten
  rw [erase]
  dsimp only
  split
  · exact Nat.le_refl _
  · split <;> exact Nat.le_refl _

theorem adds_write (whole : Faulty δ) (offset : Nat) (data : Bytes) :
    whole.Adds data.length (BlockDevice.write offset data) := by
  obtain ⟨device, faults⟩ := whole
  show (write offset data _).2.faults.bytesWritten ≤ faults.bytesWritten + data.length
  rw [write]
  dsimp only
  split
  · exact Nat.le_add_right ..
  · split
    · rcases BlockDevice.write offset data device with ⟨_ | _ | _, reached⟩
      · exact Nat.le_refl _
      · exact Nat.le_add_right ..
      · exact Nat.le_add_right ..
    · rename_i short
      have few : faults.powerLeft.getD 0 ≤ data.length := by
        cases limit : faults.powerLeft with
        | none => exact Nat.zero_le _
        | some left =>
            simp only [Faults.lastsFor, limit, decide_eq_true_eq] at short
            exact Nat.le_of_not_le short
      rw [writeLast]
      dsimp only
      split
      · exact Nat.le_add_right ..
      · rcases BlockDevice.write offset (data.take (faults.powerLeft.getD 0)) device with
          ⟨_ | _ | _, reached⟩
        · exact Nat.add_le_add_left few _
        · exact Nat.add_le_add_left few _
        · exact Nat.le_add_right ..

theorem adds_call (whole : Faulty δ) (call : Call) :
    whole.Adds call.bytes.length call.access := by
  cases call with
  | openDevice => exact (adds_open whole).bind_pure _
  | closeDevice => exact Nat.le_refl _
  | geometry =>
      refine Action.Reaches.get_bind ?_
      exact Action.Reaches.lift_bind (Nat.le_refl _) fun _ _ => Nat.le_refl _
  | read offset length =>
      have adds : whole.Adds 0 (BlockDevice.read offset length) := Nat.le_refl _
      exact adds.bind_pure _
  | write offset data =>
      rw [Call.bytes, List.length_mapIdx]
      exact (adds_write whole offset data).bind_pure _
  | erase offset length => exact (adds_erase whole offset length).bind_pure _

/-! ## Everything that can happen -/

/-- An incident leaves the two wrappers alike, and adds to the count no more than its call would
program. -/
theorem marked_undergo {incident : Incident} (counted :
    whole.faults.bytesWritten + (Call.programmed (issued [incident])).length < Word.limit) :
    (whole.undergo incident).marked = whole.marked.undergo incident ∧
      (whole.undergo incident).faults.bytesWritten ≤
        whole.faults.bytesWritten + (Call.programmed (issued [incident])).length := by
  cases incident with
  | call call =>
      have bytes : Call.programmed (issued [.call call]) = call.bytes := Call.programmed_singleton
      rw [bytes] at counted ⊢
      exact ⟨(congrArg Prod.snd (agrees_call call counted)).symm, adds_call whole call⟩
  | cutPowerAfter bytes => exact ⟨rfl, Nat.le_refl _⟩
  | reset => exact ⟨rfl, Nat.le_refl _⟩

/-- So does everything that can happen to them. -/
theorem marked_history {incidents : List Incident} (counted :
    whole.faults.bytesWritten + (Call.programmed (issued incidents)).length < Word.limit) :
    (whole.history incidents).marked = whole.marked.history incidents ∧
      (whole.history incidents).faults.bytesWritten ≤
        whole.faults.bytesWritten + (Call.programmed (issued incidents)).length := by
  induction incidents generalizing whole with
  | nil => exact ⟨rfl, Nat.le_refl _⟩
  | cons incident rest ih =>
      have parts : (Call.programmed (issued (incident :: rest))).length =
          (Call.programmed (issued [incident])).length +
            (Call.programmed (issued rest)).length := by
        rw [← List.length_append, ← Call.programmed_append, issued, issued, issued,
          ← List.filterMap_append, List.singleton_append]
      obtain ⟨step, grown⟩ := @marked_undergo δ _ whole incident (by omega)
      obtain ⟨run, total⟩ := @ih (whole.undergo incident) (by omega)
      rw [step] at run
      refine ⟨run, ?_⟩
      show ((whole.undergo incident).history rest).faults.bytesWritten ≤ _
      omega

/-- A wrapper with a mark answers every call as one that remembers how many bytes are left, and
is left with the same device, the same counts and the mark of the other, whatever has happened
to both before. -/
theorem access_marked_history {incidents : List Incident} (call : Call) (counted :
    whole.faults.bytesWritten + (Call.programmed (issued incidents)).length +
      call.bytes.length < Word.limit) :
    call.access (whole.marked.history incidents) =
      ((call.access (whole.history incidents)).1,
        (call.access (whole.history incidents)).2.marked) := by
  obtain ⟨same, total⟩ := @marked_history δ _ whole incidents (by omega)
  rw [← same]
  exact agrees_call call (by omega)

/-- So the meter is right about a wrapper with a mark as well. -/
theorem device_marked_history {flash : MemoryFlash} {incidents : List Incident}
    (accepted : Call.Accepted flash (issued incidents))
    (counted : (Call.programmed (issued incidents)).length < Word.limit) :
    let reached := ({ whole := { device := flash } } : Marked MemoryFlash).history incidents
    reached.whole.device = Call.after flash (Supply.unlimited.passed incidents) ∧
      reached.whole.faults.bytesWritten =
        (Call.programmed (Supply.unlimited.passed incidents)).length := by
  have run := @metered_history ⟨flash, {}⟩ incidents ⟨rfl, rfl, rfl⟩ accepted
  obtain ⟨same, -⟩ := @marked_history MemoryFlash _ ⟨flash, {}⟩ incidents
    (by rwa [show ({} : Faults).bytesWritten = 0 from rfl, Nat.zero_add])
  have begins : ({ whole := { device := flash } } : Marked MemoryFlash) =
      (⟨flash, {}⟩ : Faulty MemoryFlash).marked := rfl
  rw [begins, ← same]
  exact ⟨run.device, run.written.trans (Nat.zero_add _)⟩

end Faulty

end NorStore.Flash
