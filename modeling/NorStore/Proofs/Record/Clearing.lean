/-
# Clearing bits of a record

The rules about ledgers speak of words, and flash works on bytes. Nothing gets lost between the
two. A record and its bytes determine one another, and so do the bits that are set in two ledgers
and those that are set in the bytes of both. Whether a ledger can be programmed over another may
therefore be asked of the words: the answer is what the cells read as afterwards.
-/

import Mathlib.Data.Set.Function
import NorStore.Proofs.Flash.Cells
import NorStore.Record.Header
import NorStore.Record.Ledger

namespace NorStore

open NorStore.Flash (Cells)

/-! ## Bits of bytes and of words -/

/-- The bytes of what two words share are what their bytes share. -/
theorem Bytes.ofWord32_and (one two : UInt32) :
    ofWord32 (one &&& two) = List.zipWith (· &&& ·) (ofWord32 one) (ofWord32 two) := by
  simp only [ofWord32, List.zipWith_cons_cons, List.zipWith_nil_right, UInt32.shiftRight_and,
    UInt32.toUInt8_and]

namespace Ledger

variable {one two : Ledger} {cells : Cells} {start : Nat}

/-- The ledger of the bits that are set in both of two ledgers. -/
def shared (one two : Ledger) : Ledger := ⟨one.signature &&& two.signature, one.state &&& two.state⟩

theorem encode_shared (one two : Ledger) :
    (one.shared two).encode = List.zipWith (· &&& ·) one.encode two.encode := by
  have same : (Bytes.ofWord32 one.signature).length = (Bytes.ofWord32 two.signature).length := rfl
  rw [encode, shared, Bytes.ofWord32_and, Bytes.ofWord32_and, ← List.zipWith_append same]
  rfl

theorem decode_zipWith (one two : Ledger) :
    decode (List.zipWith (· &&& ·) one.encode two.encode) = one.shared two := by
  rw [← encode_shared, decode_encode]

/-- A ledger can be programmed over another if no bit of it is set that the other one lacks. -/
theorem canProgram_iff_shared : one.canProgram two = true ↔ one.shared two = two := by
  obtain ⟨signature, state⟩ := two
  simp [canProgram, shared]

theorem encode_injective : Function.Injective encode :=
  Function.LeftInverse.injective decode_encode

/-- Cells that held a ledger read, after another one was programmed, as what the two share. -/
theorem slice_program_encode (held : cells.slice start size = one.encode) :
    (cells.program start two.encode).slice start size = (one.shared two).encode := by
  rw [encode_shared, ← held]
  exact Cells.slice_program cells start two.encode

end Ledger

/-! ## Records and their bytes -/

/-- Ledgers and headers are as good as their bytes. Two ledgers share the bits that their bytes
share, and one can be programmed over the other if and only if the cells read back as it. -/
theorem reads_back_iff_canProgram :
    (Set.InvOn Ledger.decode Ledger.encode Set.univ {bytes | bytes.length = 8} ∧
      Set.BijOn Ledger.encode Set.univ {bytes | bytes.length = 8} ∧
      Set.BijOn Ledger.decode {bytes | bytes.length = 8} Set.univ) ∧
    (Set.InvOn Header.decode Header.encode Set.univ {bytes | bytes.length = 16} ∧
      Set.BijOn Header.encode Set.univ {bytes | bytes.length = 16} ∧
      Set.BijOn Header.decode {bytes | bytes.length = 16} Set.univ) ∧
    ∀ one two : Ledger,
      Ledger.decode (List.zipWith (· &&& ·) one.encode two.encode) =
        ⟨one.signature &&& two.signature, one.state &&& two.state⟩ ∧
      (one.canProgram two = true ↔
        List.zipWith (· &&& ·) one.encode two.encode = two.encode) ∧
      ∀ (cells : Cells) (start : Nat), cells.slice start 8 = one.encode →
        (one.canProgram two = true ↔
          Ledger.decode ((cells.program start two.encode).slice start 8) = two) := by
  have ledgers : Set.InvOn Ledger.decode Ledger.encode Set.univ {bytes | bytes.length = 8} :=
    ⟨fun ledger _ => Ledger.decode_encode ledger, fun _ whole => Ledger.encode_decode whole⟩
  have headers : Set.InvOn Header.decode Header.encode Set.univ {bytes | bytes.length = 16} :=
    ⟨fun header _ => Header.decode_encode header, fun _ whole => Header.encode_decode whole⟩
  have ledgerBytes : Set.BijOn Ledger.encode Set.univ {bytes | bytes.length = 8} :=
    ledgers.bijOn (fun ledger _ => Ledger.length_encode ledger) fun _ _ => trivial
  have headerBytes : Set.BijOn Header.encode Set.univ {bytes | bytes.length = 16} :=
    headers.bijOn (fun header _ => Header.length_encode header) fun _ _ => trivial
  refine ⟨⟨ledgers, ledgerBytes, ledgerBytes.symm ledgers.symm⟩,
    ⟨headers, headerBytes, headerBytes.symm headers.symm⟩, fun one two => ⟨?_, ?_, ?_⟩⟩
  · exact Ledger.decode_zipWith one two
  · rw [Ledger.canProgram_iff_shared, ← Ledger.encode_shared, Ledger.encode_injective.eq_iff]
  · intro cells start held
    have read : (cells.program start two.encode).slice start 8 = (one.shared two).encode :=
      Ledger.slice_program_encode held
    rw [Ledger.canProgram_iff_shared, read, Ledger.decode_encode]

end NorStore
