/-
# Wear

Erasing is what wears flash out, so a chip counts how often each of its blocks was erased.
A device is *worn* by nothing else: an erase that succeeds raises the counts of its blocks by
one, and no other access changes a count.
-/

import NorStore.Proofs.Flash.NorDevice

namespace NorStore.Flash

/-- Exactly the counts of the range are raised. -/
theorem getElem?_raiseCounts (counts : Array Nat) (start length index : Nat) :
    (raiseCounts counts start length)[index]? =
      counts[index]?.map fun count =>
        if start ≤ index ∧ index < start + length then count + 1 else count := by
  induction length generalizing counts start with
  | zero =>
      have outside : ¬ (start ≤ index ∧ index < start) := by omega
      simp [raiseCounts, outside]
  | succ length ih =>
      rw [raiseCounts, ih, Array.getElem?_modify]
      by_cases same : start = index
      · cases counts[index]? with
        | none => simp
        | some count =>
            have past : ¬ (start + 1 ≤ index ∧ index < start + 1 + length) := by omega
            have within : start ≤ index ∧ index < start + (length + 1) := by omega
            simp only [if_pos same, Option.map_some, if_neg past, if_pos within]
      · have shifted : start + 1 ≤ index ∧ index < start + 1 + length ↔
            start ≤ index ∧ index < start + (length + 1) := by omega
        simp only [if_neg same, shifted]

/-- A device that counts how often each of its blocks was erased. -/
class WornDevice (δ : Type) [BlockDevice δ] [NorDevice δ] where
  eraseCounts : δ → Array Nat
  size_eraseCounts (device : δ) :
    (eraseCounts device).size = (ChipView.shape device).blockCount
  openDevice_leaves : Action.Leaves eraseCounts (BlockDevice.openDevice : Action δ FlashError Unit)
  closeDevice_leaves (device : δ) : eraseCounts (BlockDevice.closeDevice device) = eraseCounts device
  read_leaves (offset length : Nat) :
    Action.Leaves eraseCounts (BlockDevice.read offset length : Action δ FlashError Bytes)
  write_leaves (offset : Nat) (data : Bytes) :
    Action.Leaves eraseCounts (BlockDevice.write offset data : Action δ FlashError Unit)
  erase_raises {device reached : δ} {offset length : Nat} :
    BlockDevice.erase offset length device = (.value (), reached) →
    eraseCounts reached = raiseCounts (eraseCounts device)
      ((offset - (ChipView.shape device).regionOffset) / (ChipView.shape device).blockSize)
      (length / (ChipView.shape device).blockSize)

/-! ## Devices -/

/-- A guarded effect leaves what the effect leaves. -/
private theorem leaves_guarded {σ τ ε α : Type} {view : σ → τ} {check : σ → Outcome ε α}
    {effect : σ → σ} (same : ∀ state, view (effect state) = view state) :
    Action.Leaves view (Action.guarded check effect) := by
  intro state
  rw [Action.guarded]
  split
  · exact same state
  · rfl
  · rfl

/-- A guarded effect that gives a value has happened. -/
private theorem eq_of_guarded {σ ε α : Type} {check : σ → Outcome ε α} {effect : σ → σ}
    {state reached : σ} {result : α}
    (ends : Action.guarded check effect state = (.value result, reached)) :
    reached = effect state := by
  rw [Action.guarded] at ends
  split at ends <;> simp_all

instance : WornDevice MemoryFlash where
  eraseCounts := MemoryFlash.eraseCounts
  size_eraseCounts := MemoryFlash.size_eraseCounts
  openDevice_leaves := leaves_guarded fun _ => rfl
  closeDevice_leaves _ := rfl
  read_leaves _ _ := leaves_guarded fun _ => rfl
  write_leaves _ _ := leaves_guarded fun _ => rfl
  erase_raises erases := by
    rw [eq_of_guarded erases]
    rfl

variable {δ : Type} [BlockDevice δ] [NorDevice δ] [WornDevice δ]

namespace Faulty

private theorem openDevice_leaves (whole : Faulty δ) :
    WornDevice.eraseCounts (openDevice whole).2.device = WornDevice.eraseCounts whole.device := by
  have same := WornDevice.openDevice_leaves whole.device
  rw [openDevice]
  split
  · rfl
  · split <;> rename_i ends <;> rwa [ends] at same

private theorem write_leaves (offset : Nat) (data : Bytes) (whole : Faulty δ) :
    WornDevice.eraseCounts (write offset data whole).2.device =
      WornDevice.eraseCounts whole.device := by
  rw [write]
  split
  · rfl
  · dsimp only
    split
    · have same := WornDevice.write_leaves offset data whole.device
      split <;> rename_i ends <;> rwa [ends] at same
    · rw [writeLast]
      dsimp only
      split
      · rfl
      · have same := WornDevice.write_leaves offset
          (data.take (whole.faults.powerLeft.getD 0)) whole.device
        split <;> rename_i ends <;> rwa [ends] at same

omit [NorDevice δ] [WornDevice δ] in
/-- An erase that succeeds is one of the device. -/
private theorem erase_of_erase {whole reached : Faulty δ} {offset length : Nat}
    (erases : erase offset length whole = (.value (), reached)) :
    BlockDevice.erase offset length whole.device = (.value (), reached.device) := by
  rw [erase] at erases
  split at erases
  · simp at erases
  · split at erases
    · simp at erases
    · simp only [Prod.mk.injEq] at erases
      obtain ⟨outcome, rfl⟩ := erases
      exact Prod.ext outcome rfl

instance : WornDevice (Faulty δ) where
  eraseCounts whole := WornDevice.eraseCounts whole.device
  size_eraseCounts whole := WornDevice.size_eraseCounts whole.device
  openDevice_leaves := openDevice_leaves
  closeDevice_leaves whole := WornDevice.closeDevice_leaves whole.device
  read_leaves offset length whole := WornDevice.read_leaves offset length whole.device
  write_leaves := write_leaves
  erase_raises erases := WornDevice.erase_raises (erase_of_erase erases)

end Faulty

namespace Glitchy

private theorem openDevice_leaves (whole : Glitchy δ) :
    WornDevice.eraseCounts ((BlockDevice.openDevice : Action (Glitchy δ) FlashError Unit)
      whole).2.device = WornDevice.eraseCounts whole.device := by
  simp only [BlockDevice.openDevice]
  split
  · rfl
  · exact WornDevice.openDevice_leaves whole.device

private theorem read_leaves (offset length : Nat) (whole : Glitchy δ) :
    WornDevice.eraseCounts (BlockDevice.read offset length whole).2.device =
      WornDevice.eraseCounts whole.device := by
  simp only [BlockDevice.read]
  split
  · rfl
  · exact WornDevice.read_leaves offset length whole.device

omit [NorDevice δ] [WornDevice δ] in
/-- An erase that succeeds is one of the device. -/
private theorem erase_of_erase {whole reached : Glitchy δ} {offset length : Nat}
    (erases : BlockDevice.erase offset length whole = (.value (), reached)) :
    BlockDevice.erase offset length whole.device = (.value (), reached.device) := by
  obtain ⟨outcome, rfl⟩ := Prod.mk.inj erases
  exact Prod.ext outcome rfl

instance : WornDevice (Glitchy δ) where
  eraseCounts whole := WornDevice.eraseCounts whole.device
  size_eraseCounts whole := WornDevice.size_eraseCounts whole.device
  openDevice_leaves := openDevice_leaves
  closeDevice_leaves whole := WornDevice.closeDevice_leaves whole.device
  read_leaves := read_leaves
  write_leaves offset data whole := WornDevice.write_leaves offset data whole.device
  erase_raises erases := WornDevice.erase_raises (erase_of_erase erases)

end Glitchy

end NorStore.Flash
