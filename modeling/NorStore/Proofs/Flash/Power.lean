/-
# What accesses cost

A device with limited power lets accesses through until the bytes that it may still program
are used up. Programming costs one unit for each byte; opening, reading and erasing cost
nothing. So whether a sequence of accesses succeeds is up to its total cost alone, and a
write that fails has used the power that was left for the first bytes of its data.
-/

import NorStore.Proofs.Flash.Cells
import NorStore.Proofs.Flash.NorDevice

namespace NorStore.Flash

namespace Faults

/-- Power that lasts for one thing and then for another lasts for both. -/
theorem lastsFor_add {before after : Faults} {first second : Nat}
    (lasts : before.lastsFor first = true)
    (left : after.powerLeft = before.powerLeft.map (· - first)) :
    before.lastsFor (first + second) = after.lastsFor second := by
  rw [lastsFor] at lasts
  rw [lastsFor, lastsFor, left]
  cases limit : before.powerLeft with
  | none => rfl
  | some most =>
      rw [limit] at lasts
      have enough : first ≤ most := of_decide_eq_true lasts
      simp only [Option.map_some, decide_eq_decide]
      omega

/-- Power that does not last is limited. -/
theorem exists_powerLeft {faults : Faults} {bytes : Nat} (short : faults.lastsFor bytes = false) :
    ∃ left, faults.powerLeft = some left ∧ left < bytes := by
  rw [lastsFor] at short
  split at short
  · contradiction
  · rename_i left limit
    exact ⟨left, limit, Nat.lt_of_not_le (of_decide_eq_false short)⟩

/-- What power does not last for, it does not last for with more to do. -/
theorem not_lastsFor_add {faults : Faults} {first : Nat} (short : faults.lastsFor first = false)
    (second : Nat) : faults.lastsFor (first + second) = false := by
  obtain ⟨left, limit, few⟩ := exists_powerLeft short
  rw [lastsFor, limit]
  exact decide_eq_false (by omega)

theorem lastsFor_zero (faults : Faults) : faults.lastsFor 0 = true := by
  rw [lastsFor]
  split
  · rfl
  · exact decide_eq_true (Nat.zero_le _)

end Faults

namespace Faulty

variable {δ : Type} [BlockDevice δ] [NorDevice δ] {σ ε α β : Type}
  {whole first second third : Faulty δ} {offset length : Nat} {data : Bytes}

/-- Nothing has been armed but a limit of the power. -/
structure Ready (whole : Faulty δ) : Prop where
  powered : whole.faults.powerLost = false
  opens : whole.faults.failOpen = false
  erases : whole.faults.failErase = false
  inner : ChipView.Healthy whole.device

/-- Power has lasted for that many bytes, which were programmed. -/
structure Spends (bytes : Nat) (before after : Faulty δ) : Prop where
  lasts : before.faults.lastsFor bytes = true
  left : after.faults.powerLeft = before.faults.powerLeft.map (· - bytes)
  written : after.faults.bytesWritten = before.faults.bytesWritten + bytes
  ready : after.Ready

theorem Spends.of_same {after : Faulty δ} (left : after.faults.powerLeft = whole.faults.powerLeft)
    (written : after.faults.bytesWritten = whole.faults.bytesWritten) (ready : after.Ready) :
    Spends 0 whole after where
  lasts := whole.faults.lastsFor_zero
  left := by
    rw [left]
    cases whole.faults.powerLeft <;> rfl
  written := written
  ready := ready

theorem Spends.trans {one two : Nat} (begins : Spends one first second)
    (goesOn : Spends two second third) : Spends (one + two) first third where
  lasts := (Faults.lastsFor_add begins.lasts begins.left).trans goesOn.lasts
  left := by
    rw [goesOn.left, begins.left]
    cases first.faults.powerLeft with
    | none => rfl
    | some most => exact congrArg some (Nat.sub_sub most one two)
  written := by rw [goesOn.written, begins.written, Nat.add_assoc]
  ready := goesOn.ready

/-- What power does not last for later it does not last for together with what went before. -/
theorem Spends.not_lasts {one two : Nat} (begins : Spends one first second)
    (short : second.faults.lastsFor two = false) : first.faults.lastsFor (one + two) = false :=
  (Faults.lastsFor_add begins.lasts begins.left).trans short

/-- Closing the device is free. -/
theorem Spends.close {bytes : Nat} (spends : Spends bytes first second) :
    Spends bytes first (BlockDevice.closeDevice second) where
  lasts := spends.lasts
  left := spends.left
  written := spends.written
  ready := ⟨spends.ready.powered, spends.ready.opens, spends.ready.erases,
    (NorDevice.closeDevice_stays second.device).healthy spends.ready.inner⟩

/-- The action costs that many bytes of the device in view: it fails only if there is not
power for all of them. -/
def Costs (view : σ → Faulty δ) (bytes : Nat) (action : Action σ ε α) (state : σ) : Prop :=
  action.Ends state (fun _ reached => Spends bytes (view state) (view reached))
    fun _ _ => (view state).faults.lastsFor bytes = false

/-- The costs of two steps add up. -/
theorem Costs.bind {view : σ → Faulty δ} {one two : Nat} {action : Action σ ε α}
    {next : α → Action σ ε β} {state : σ} {done : α → σ → Prop} {failed : ε → σ → Prop}
    (judged : action.Ends state done failed) (costs : Costs view one action state)
    (goesOn : ∀ result reached, done result reached → Spends one (view state) (view reached) →
      Costs view two (next result) reached) :
    Costs view (one + two) (action >>= next) state := by
  refine .chain (judged.both costs) ?_ ?_
  · intro _ _ ended
    exact Faults.not_lastsFor_add ended.2 two
  · intro result reached ended
    obtain ⟨holds, spends⟩ := ended
    exact (goesOn result reached holds spends).mono (fun _ _ => spends.trans) fun _ _ =>
      spends.not_lasts

/-! ## The accesses -/

theorem openDevice_costs (ready : whole.Ready) :
    Costs id 0 (BlockDevice.openDevice : Action (Faulty δ) FlashError Unit) whole := by
  rcases (NorDevice.openDevice_ends whole.device).cases with
    ⟨_, reached, opens, stays, -⟩ | ⟨_, _, -, -, unsteady⟩
  · have opened : (BlockDevice.openDevice : Action (Faulty δ) FlashError Unit) whole =
        (.value (), ⟨reached, { whole.faults with opens := whole.faults.opens + 1 }⟩) := by
      show Faulty.openDevice whole = _
      rw [Faulty.openDevice]
      simp only [ready.opens, opens]
      rfl
    exact .of_value opened (.of_same rfl rfl
      ⟨ready.powered, ready.opens, ready.erases, stays.healthy ready.inner⟩)
  · exact absurd (NorDevice.steady_of_healthy ready.inner) unsteady

theorem read_costs (ready : whole.Ready) (isOpen : ChipView.IsOpen whole)
    (encloses : (ChipView.shape whole).Encloses offset length) :
    Costs id 0 (BlockDevice.read offset length) whole := by
  rcases (NorDevice.read_ends (show ChipView.IsOpen whole.device from isOpen) encloses).cases with
    ⟨bytes, reached, inner, stays, -⟩ | ⟨_, _, -, -, unsteady⟩
  · have reads : BlockDevice.read offset length whole =
        (.value bytes, ⟨reached, whole.faults⟩) := by
      simp only [BlockDevice.read, inner]
    exact .of_value reads (.of_same rfl rfl
      ⟨ready.powered, ready.opens, ready.erases, stays.healthy ready.inner⟩)
  · exact absurd (NorDevice.steady_of_healthy ready.inner) unsteady

/-- Erasing needs power, but it does not matter how much. -/
theorem erase_costs (ready : whole.Ready) (isOpen : ChipView.IsOpen whole)
    (encloses : (ChipView.shape whole).Encloses offset length)
    (aligned : offset % (ChipView.shape whole).blockSize = 0)
    (blocks : length % (ChipView.shape whole).blockSize = 0) :
    Costs id 0 (BlockDevice.erase offset length) whole := by
  rcases (NorDevice.erase_ends (show ChipView.IsOpen whole.device from isOpen) encloses aligned
    blocks).cases with ⟨_, reached, inner, keeps, -⟩ | ⟨_, _, -, -, spent⟩
  · have erases : BlockDevice.erase offset length whole =
        (.value (), ⟨reached, { whole.faults with erases := whole.faults.erases + 1 }⟩) := by
      show Faulty.erase offset length whole = _
      rw [Faulty.erase]
      simp only [ready.powered, ready.erases, inner]
      rfl
    exact .of_value erases (.of_same rfl rfl
      ⟨ready.powered, ready.opens, ready.erases, keeps.healthy ready.inner⟩)
  · exact absurd (spent (NorDevice.steady_of_healthy ready.inner))
      (NorDevice.not_lost_of_healthy ready.inner)

/-- A write for which power does not last programs as much as there is power for. -/
structure CutOff (offset : Nat) (data : Bytes) (before after : Faulty δ) : Prop where
  programmed : ∃ left, before.faults.powerLeft = some left ∧ left < data.length ∧
    ChipView.cells after = (ChipView.cells before).program
      (offset - (ChipView.shape before).regionOffset) (data.take left)

theorem CutOff.short {after : Faulty δ} (cut : CutOff offset data whole after) :
    whole.faults.lastsFor data.length = false := by
  obtain ⟨left, limit, few, -⟩ := cut.programmed
  rw [Faults.lastsFor, limit]
  exact decide_eq_false (Nat.not_le.2 few)

/-- A cut in the data behind some that was programmed is a cut in both. -/
theorem CutOff.behind {rest : Bytes} {middle after : Faulty δ} (spends : Spends data.length whole middle)
    (same : ChipView.shape middle = ChipView.shape whole)
    (programmed : ChipView.cells middle = (ChipView.cells whole).program
      (offset - (ChipView.shape whole).regionOffset) data)
    (first : (ChipView.shape whole).regionOffset ≤ offset)
    (cut : CutOff (offset + data.length) rest middle after) :
    CutOff offset (data ++ rest) whole after := by
  obtain ⟨left, limit, few, reached⟩ := cut.programmed
  have lasts := spends.lasts
  rw [spends.left, Option.map_eq_some_iff] at limit
  obtain ⟨most, budget, rfl⟩ := limit
  rw [Faults.lastsFor, budget] at lasts
  have enough : data.length ≤ most := of_decide_eq_true lasts
  refine ⟨most, budget, ?_, ?_⟩
  · rw [List.length_append]
    omega
  · rw [reached, programmed, same, Nat.sub_add_comm first, ← Cells.program_append,
      ← List.take_length_add_append, Nat.add_sub_cancel' enough]

/-- A cut after an access that was free and changed no cell. -/
theorem CutOff.later {middle after : Faulty δ} (cut : CutOff offset data middle after)
    (free : Spends 0 whole middle) (stays : Stays whole middle) :
    CutOff offset data whole after := by
  obtain ⟨left, limit, few, reached⟩ := cut.programmed
  have same := free.left
  rw [limit] at same
  refine ⟨left, ?_, few, ?_⟩
  · cases budget : whole.faults.powerLeft with
    | none => simp [budget] at same
    | some most => simpa [budget] using same.symm
  · rw [reached, stays.cells, stays.shape]

theorem CutOff.close {after : Faulty δ} (cut : CutOff offset data whole after) :
    CutOff offset data whole (BlockDevice.closeDevice after) := by
  obtain ⟨left, limit, few, reached⟩ := cut.programmed
  exact ⟨left, limit, few, (NorDevice.closeDevice_stays after).cells.trans reached⟩

/-- A cut in the front of some data. -/
theorem CutOff.before {after : Faulty δ} (cut : CutOff offset data whole after) (rest : Bytes) :
    CutOff offset (data ++ rest) whole after := by
  obtain ⟨left, limit, few, reached⟩ := cut.programmed
  refine ⟨left, limit, ?_, ?_⟩
  · rw [List.length_append]
    omega
  · rw [reached, List.take_append_of_le_length (Nat.le_of_lt few)]

/-- A device on which nothing fails takes every write that is allowed. -/
private theorem inner_write {device : δ} (healthy : ChipView.Healthy device)
    (isOpen : ChipView.IsOpen device) (nonempty : data ≠ [])
    (encloses : (ChipView.shape device).Encloses offset data.length)
    (within : offset % (ChipView.shape device).blockSize + data.length ≤
      (ChipView.shape device).blockSize) :
    ∃ reached, BlockDevice.write offset data device = (.value (), reached) ∧
      Keeps device reached ∧ ChipView.cells reached = (ChipView.cells device).program
        (offset - (ChipView.shape device).regionOffset) data := by
  rcases (NorDevice.write_ends isOpen nonempty encloses within).cases with
    ⟨_, reached, writes, keeps, -, -, programmed⟩ | ⟨_, reached, -, torn⟩
  · exact ⟨reached, writes, keeps, programmed⟩
  · exact absurd (torn.spent (NorDevice.steady_of_healthy healthy))
      (NorDevice.not_lost_of_healthy (torn.healthy healthy))

/-- The write during which power is cut programs what there is power for. -/
private theorem writeLast_programs {device : δ} {left : Nat} (latest : Faults)
    (healthy : ChipView.Healthy device) (isOpen : ChipView.IsOpen device)
    (encloses : (ChipView.shape device).Encloses offset data.length)
    (within : offset % (ChipView.shape device).blockSize + data.length ≤
      (ChipView.shape device).blockSize) (few : left < data.length) :
    ∃ cause reached, writeLast offset data left (⟨device, latest⟩ : Faulty δ) =
        (.error cause, reached) ∧
      ChipView.cells reached = (ChipView.cells device).program
        (offset - (ChipView.shape device).regionOffset) (data.take left) := by
  by_cases none : left = 0
  · subst none
    rw [writeLast, if_pos rfl]
    exact ⟨_, _, rfl, rfl⟩
  · have length : (data.take left).length = left := by
      rw [List.length_take, Nat.min_eq_left (Nat.le_of_lt few)]
    have last := encloses.last
    have nonempty : data.take left ≠ [] := by
      rw [← List.length_pos_iff, length]
      exact Nat.pos_of_ne_zero none
    have part : (ChipView.shape device).Encloses offset (data.take left).length :=
      ⟨encloses.ends, encloses.first, by omega⟩
    obtain ⟨reached, inner, -, programmed⟩ :=
      inner_write healthy isOpen nonempty part (by omega)
    rw [writeLast, if_neg none, inner]
    exact ⟨_, _, rfl, programmed⟩

section Writing

variable (ready : whole.Ready) (isOpen : ChipView.IsOpen whole)
  (encloses : (ChipView.shape whole).Encloses offset data.length)
  (within : offset % (ChipView.shape whole).blockSize + data.length ≤
    (ChipView.shape whole).blockSize)

include ready isOpen encloses within

private theorem write_of_lasts (nonempty : data ≠ [])
    (lasts : whole.faults.lastsFor data.length = true) :
    ∃ reached, BlockDevice.write offset data whole = (.value (), reached) ∧
      Spends data.length whole reached := by
  obtain ⟨device, faults⟩ := whole
  obtain ⟨powered, opens, erases, healthy⟩ := ready
  dsimp only at powered opens erases healthy lasts
  have alive : ¬ faults.powerLost = true := by simp [powered]
  obtain ⟨reached, inner, keeps, -⟩ := inner_write healthy isOpen nonempty encloses within
  have counted : { faults with writes := faults.writes + 1 }.lastsFor data.length = true := lasts
  refine ⟨⟨reached, { faults with writes := faults.writes + 1 }.spend data.length⟩, ?_,
    lasts, rfl, rfl, powered, opens, erases, keeps.healthy healthy⟩
  show Faulty.write offset data ⟨device, faults⟩ = _
  rw [Faulty.write, if_neg alive]
  simp only [counted, inner, if_true]

private theorem write_of_short (short : whole.faults.lastsFor data.length = false) :
    ∃ cause reached, BlockDevice.write offset data whole = (.error cause, reached) ∧
      CutOff offset data whole reached := by
  obtain ⟨device, faults⟩ := whole
  obtain ⟨powered, -, -, healthy⟩ := ready
  dsimp only at powered healthy short
  have alive : ¬ faults.powerLost = true := by simp [powered]
  obtain ⟨left, limit, few⟩ := Faults.exists_powerLeft short
  have budget : faults.powerLeft.getD 0 = left := by rw [limit, Option.getD_some]
  have counted : { faults with writes := faults.writes + 1 }.lastsFor data.length = false := short
  obtain ⟨cause, reached, stops, programmed⟩ := writeLast_programs
    { faults with writes := faults.writes + 1 } healthy isOpen encloses within few
  refine ⟨cause, reached, ?_, left, limit, few, programmed⟩
  show Faulty.write offset data ⟨device, faults⟩ = _
  rw [Faulty.write, if_neg alive]
  simp only [counted, Bool.false_eq_true, if_false, budget, stops]

/-- Programming costs one unit for each byte. -/
theorem write_costs (nonempty : data ≠ []) :
    (BlockDevice.write offset data).Ends whole
      (fun _ reached => Spends data.length whole reached)
      fun _ reached => CutOff offset data whole reached := by
  cases lasts : whole.faults.lastsFor data.length with
  | true =>
      obtain ⟨reached, writes, spends⟩ :=
        write_of_lasts ready isOpen encloses within nonempty lasts
      exact .of_value writes spends
  | false =>
      obtain ⟨cause, reached, stops, cut⟩ := write_of_short ready isOpen encloses within lasts
      exact .of_error stops cut

end Writing

end Faulty

end NorStore.Flash
