/-
# Chips in memory and files are interchangeable

A chip in memory is an image file together with counts of its wear. No access reads the counts,
so leaving them out commutes with every access, with the attaching of handles and with the way
in which handles follow one another. From this step it follows by induction that whatever was
asked of the handles on a chip and on a file that started alike, the next request is answered
alike and leaves the same bytes.

The host is taken to keep the file as it was last written, and no access of a file to fail there.
The counts are numbers without a bound, so none of them overflows.
-/

import NorStore.Flash.Handles
import NorStore.Proofs.Flash.FileDevice

namespace NorStore.Flash

/-! ## Requests -/

/-- What can be asked of one handle. -/
inductive Call where
  | openDevice
  | closeDevice
  | geometry
  | read (offset length : Nat)
  | write (offset : Nat) (data : Bytes)
  | erase (offset length : Nat)
deriving DecidableEq, Repr

/-- What comes back from a call that succeeds. -/
inductive Answer where
  | done
  | geometry (reported : Geometry)
  | content (bytes : Bytes)
deriving DecidableEq, Repr

/-- A call as an access of a device. -/
def Call.access {δ : Type} [BlockDevice δ] : Call → Action δ FlashError Answer
  | openDevice => do
    BlockDevice.openDevice
    return .done
  | closeDevice => do
    modify BlockDevice.closeDevice
    return .done
  | geometry => do
    let device ← get
    return .geometry (← Outcome.ofExcept (BlockDevice.geometry device))
  | read offset length => return .content (← BlockDevice.read offset length)
  | write offset data => do
    BlockDevice.write offset data
    return .done
  | erase offset length => do
    BlockDevice.erase offset length
    return .done

/-- What can be asked of the handles on a device: one more of them, or a call on the one with a
number. -/
inductive Request where
  | attach
  | call (number : Nat) (call : Call)
deriving DecidableEq, Repr

namespace Handles

variable {δ τ : Type}

/-- The same handles on another device. -/
def map (convert : δ → τ) (handles : Handles δ) : Handles τ := ⟨handles.list.map convert⟩

variable [Shareable δ] [BlockDevice δ]

/-- The answer to a request, and the handles after it. There is no answer if there is no such
handle. -/
def serve (handles : Handles δ) : Request → Option (Outcome FlashError Answer) × Handles δ
  | .attach => (some (.value .done), handles.attach)
  | .call number call =>
    match handles.through? number call.access with
    | none => (none, handles)
    | some (outcome, reached) => (some outcome, reached)

/-- The handles after some requests, one after another. -/
def after (handles : Handles δ) : List Request → Handles δ
  | [] => handles
  | request :: rest => (handles.serve request).2.after rest

end Handles

/-! ## A chip without its counts -/

namespace MemoryFlash

variable {flash : MemoryFlash} {offset length : Nat} {data : Bytes}

/-- The image file that holds the cells of a chip. The counts of the wear are left out. -/
def toFile (flash : MemoryFlash) : ImageFile where
  geometry := flash.geometry
  valid := flash.valid
  content := flash.cells
  size_content := flash.size_cells
  isOpen := flash.isOpen

/-- Files of the same geometry and content, open or closed alike, are the same. -/
private theorem file_ext {first second : ImageFile} (geometry : first.geometry = second.geometry)
    (content : first.content = second.content) (isOpen : first.isOpen = second.isOpen) :
    first = second := by
  obtain ⟨_, _, _, _, _⟩ := first
  obtain ⟨_, _, _, _, _⟩ := second
  cases geometry
  cases content
  cases isOpen
  rfl

theorem toFile_programmed (flash : MemoryFlash) (offset : Nat) (data : Bytes) :
    (flash.programmed offset data).toFile = flash.toFile.programmed offset data :=
  file_ext rfl (ImageFile.content_programmed flash.toFile offset data).symm rfl

theorem toFile_erased (flash : MemoryFlash) (offset : Nat)
    (whole : length % flash.geometry.blockSize = 0) :
    (flash.erased offset length).toFile = flash.toFile.erased offset length :=
  file_ext rfl (ImageFile.content_erased flash.toFile offset whole).symm rfl

/-- An access of the chip comes to the same as an access of the file. -/
def Mirrors {α : Type} (first : Action MemoryFlash FlashError α)
    (second : Action ImageFile FlashError α) (flash : MemoryFlash) : Prop :=
  Action.Mirrors toFile first second flash

/-- Accesses that are allowed under the same conditions, and then come to the same. -/
private theorem mirrors_guarded {α : Type} {check : MemoryFlash → Outcome FlashError α}
    {other : ImageFile → Outcome FlashError α} {effect : MemoryFlash → MemoryFlash}
    {also : ImageFile → ImageFile} (checks : other flash.toFile = check flash)
    (same : ∀ result, check flash = .value result → (effect flash).toFile = also flash.toFile) :
    Mirrors (Action.guarded check effect) (Action.guarded other also) flash := by
  rw [Mirrors, Action.Mirrors, Action.guarded, Action.guarded, checks]
  cases checked : check flash with
  | value result => rw [same result checked]
  | error cause => rfl
  | trap => rfl

theorem mirrors_write :
    Mirrors (BlockDevice.write offset data) (BlockDevice.write offset data) flash :=
  mirrors_guarded rfl fun _ _ => toFile_programmed flash offset data

theorem mirrors_erase :
    Mirrors (BlockDevice.erase offset length) (BlockDevice.erase offset length) flash :=
  mirrors_guarded rfl fun _ allowed =>
    toFile_erased flash offset (Geometry.checkErase_eq_value_iff.1 allowed).2.2

theorem mirrors_read :
    Mirrors (BlockDevice.read offset length) (BlockDevice.read offset length) flash :=
  mirrors_guarded rfl fun _ _ => rfl

/-- Every call comes to the same on a chip and on its file. -/
theorem mirrors_access (call : Call) : Mirrors call.access call.access flash := by
  cases call with
  | openDevice => exact rfl
  | closeDevice => exact rfl
  | geometry => exact rfl
  | read offset length => exact mirrors_read.bind fun _ _ => rfl
  | write offset data => exact mirrors_write.bind fun _ _ => rfl
  | erase offset length => exact mirrors_erase.bind fun _ _ => rfl

end MemoryFlash

namespace Handles

/-! ## Handles on a chip and on its file -/

variable {handles : Handles MemoryFlash}

theorem toFile_attach (handles : Handles MemoryFlash) :
    (handles.map MemoryFlash.toFile).attach = handles.attach.map MemoryFlash.toFile := by
  obtain ⟨_ | ⟨first, rest⟩⟩ := handles
  · rfl
  · simp only [map, attach, List.map_cons, List.map_append, List.map_nil]
    rfl

/-- The handles follow a file as they follow the chip. -/
private theorem toFile_follow (handles : List MemoryFlash) (number : Nat) (latest : MemoryFlash) :
    ((handles.map (Shareable.follow · latest)).set number latest).map MemoryFlash.toFile =
      ((handles.map MemoryFlash.toFile).map (Shareable.follow · latest.toFile)).set number
        latest.toFile := by
  rw [List.map_set, List.map_map, List.map_map]
  rfl

/-- A request is answered alike on a chip and on its file, and leaves the same handles. -/
theorem toFile_serve (handles : Handles MemoryFlash) (request : Request) :
    (handles.map MemoryFlash.toFile).serve request =
      ((handles.serve request).1, (handles.serve request).2.map MemoryFlash.toFile) := by
  cases request with
  | attach => rw [serve, serve, toFile_attach]
  | call number call =>
      rw [serve, serve, through?, through?, map, List.getElem?_map]
      cases handles.list[number]? with
      | none => rfl
      | some flash =>
          have mirrors : call.access flash.toFile =
              ((call.access flash).1, (call.access flash).2.toFile) :=
            MemoryFlash.mirrors_access call
          simp only [Option.map_some, mirrors, map, toFile_follow]

/-- So do any requests, one after another. -/
theorem toFile_after (handles : Handles MemoryFlash) (requests : List Request) :
    (handles.map MemoryFlash.toFile).after requests =
      (handles.after requests).map MemoryFlash.toFile := by
  induction requests generalizing handles with
  | nil => rfl
  | cons request rest ih => rw [after, after, toFile_serve, ih]

end Handles

/-! ## Answers without a trap -/

namespace Geometry

variable {geometry : Geometry} {isOpen : Bool} {offset length : Nat}

theorem checkRange_ne_trap (ends : geometry.regionOffset + geometry.regionSize < Word.limit) :
    geometry.checkRange isOpen offset length ≠ .trap := by
  cases isOpen with
  | false => simp [checkRange]
  | true =>
      simp only [checkRange, contains_of_lt ends, regionEnd, Word.add_of_lt ends, if_true,
        Outcome.value_bind]
      split <;> simp

theorem checkWrite_ne_trap (valid : geometry.Valid)
    (ends : geometry.regionOffset + geometry.regionSize < Word.limit) :
    geometry.checkWrite isOpen offset length ≠ .trap := by
  have nonempty := Nat.ne_of_gt valid.blockSize_pos
  have below := Nat.le_of_lt (Nat.mod_lt offset valid.blockSize_pos)
  rw [checkWrite]
  cases checked : geometry.checkRange isOpen offset length with
  | value _ =>
      simp only [blockRemaining, Word.mod_of_ne nonempty, Word.sub_of_le below,
        Outcome.value_bind]
      split
      · simp
      · split <;> simp
  | error cause => simp
  | trap => exact absurd checked (checkRange_ne_trap ends)

theorem checkErase_ne_trap (ends : geometry.regionOffset + geometry.regionSize < Word.limit) :
    geometry.checkErase isOpen offset length ≠ .trap := by
  rw [checkErase]
  cases checked : geometry.checkRange isOpen offset length with
  | value _ =>
      simp only [Outcome.value_bind]
      split <;> simp
  | error cause => simp
  | trap => exact absurd checked (checkRange_ne_trap ends)

end Geometry

namespace ImageFile

variable {file : ImageFile}

/-- The access ends without a trap, and the geometry of the file is what it was. -/
def Settles {α : Type} (access : Action ImageFile FlashError α) (file : ImageFile) : Prop :=
  access.Ends file (fun _ reached => reached.geometry = file.geometry)
    fun _ reached => reached.geometry = file.geometry

private theorem settles_guarded {α : Type} {check : ImageFile → Outcome FlashError α}
    {effect : ImageFile → ImageFile} (answers : check file ≠ .trap)
    (same : (effect file).geometry = file.geometry) :
    Settles (Action.guarded check effect) file := by
  rw [Settles, Action.Ends, Action.guarded]
  cases checked : check file with
  | value result => exact same
  | error cause => rfl
  | trap => exact answers checked

/-- What follows an access without touching the file leaves it settled. -/
private theorem settles_bind {α : Type} {access : Action ImageFile FlashError α}
    {answer : α → Answer} (settles : Settles access file) :
    Settles (access >>= fun result => pure (answer result)) file :=
  Action.Ends.bind settles fun _ _ same => Action.Ends.pure same

/-- No call on a file traps, if the region ends at a word. -/
theorem settles_access
    (ends : file.geometry.regionOffset + file.geometry.regionSize < Word.limit) (call : Call) :
    Settles call.access file := by
  cases call with
  | openDevice => exact .of_value rfl rfl
  | closeDevice => exact .of_value rfl rfl
  | geometry => exact .of_value rfl rfl
  | read offset length =>
      refine settles_bind (settles_guarded ?_ rfl)
      cases checked : file.geometry.checkRange file.isOpen offset length with
      | value _ => simp
      | error cause => simp
      | trap => exact absurd checked (Geometry.checkRange_ne_trap ends)
  | write offset data =>
      exact settles_bind (settles_guarded (Geometry.checkWrite_ne_trap file.valid ends) rfl)
  | erase offset length =>
      exact settles_bind (settles_guarded (Geometry.checkErase_ne_trap ends) rfl)

end ImageFile

namespace Handles

/-! ## What the handles on a file have in common -/

variable {geometry : Geometry} {handles : Handles ImageFile}

/-- There is a handle, and all of them have one geometry and see the same bytes. -/
structure Shared (geometry : Geometry) (handles : Handles ImageFile) : Prop where
  attached : handles.list ≠ []
  geometry {file : ImageFile} : file ∈ handles.list → file.geometry = geometry
  content {file other : ImageFile} : file ∈ handles.list → other ∈ handles.list →
    file.content = other.content

theorem shared_single (file : ImageFile) : Shared file.geometry (single file) where
  attached := List.cons_ne_nil _ _
  geometry held := congrArg ImageFile.geometry (List.mem_singleton.1 held)
  content held also := by
    rw [List.mem_singleton.1 held, List.mem_singleton.1 also]

/-- Attaching puts a handle behind the others that is closed and sees what they see. -/
theorem Shared.attach (shared : Shared geometry handles) :
    ∃ fresh, handles.attach.list = handles.list ++ [fresh] ∧ fresh.isOpen = false ∧
      fresh.geometry = geometry ∧ ∀ file ∈ handles.list, fresh.content = file.content := by
  obtain ⟨_ | ⟨first, rest⟩⟩ := handles
  · exact absurd rfl shared.attached
  · have held : first ∈ first :: rest := List.mem_cons_self ..
    have same : first.geometry = geometry := shared.geometry held
    refine ⟨Shareable.attach first, rfl, rfl, same, ?_⟩
    intro file also
    have seen : first.content = file.content := shared.content held also
    exact seen

/-- After an access all handles are those that follow the one it went through. -/
private theorem shared_follow {number : Nat} {latest : ImageFile}
    (nonempty : handles.list ≠ []) (same : latest.geometry = geometry) :
    Shared geometry ⟨(handles.list.map (Shareable.follow · latest)).set number latest⟩ := by
  have follows (file : ImageFile)
      (held : file ∈ (handles.list.map (Shareable.follow · latest)).set number latest) :
      file.geometry = latest.geometry ∧ file.content = latest.content := by
    rcases List.mem_or_eq_of_mem_set held with held | rfl
    · obtain ⟨handle, -, rfl⟩ := List.mem_map.1 held
      exact ⟨rfl, rfl⟩
    · exact ⟨rfl, rfl⟩
  refine ⟨by simpa using nonempty, fun held => (follows _ held).1.trans same, ?_⟩
  intro file other held also
  rw [(follows _ held).2, (follows _ also).2]

/-- A request is answered without a trap, and the handles still see the same bytes. -/
theorem Shared.serve (shared : Shared geometry handles)
    (ends : geometry.regionOffset + geometry.regionSize < Word.limit) (request : Request) :
    (handles.serve request).1 ≠ some .trap ∧ Shared geometry (handles.serve request).2 := by
  cases request with
  | attach =>
      obtain ⟨fresh, attached, -, geometry, content⟩ := shared.attach
      refine ⟨by simp [Handles.serve], by simp [Handles.serve, attached], ?_, ?_⟩
      · intro file held
        rw [Handles.serve, attached, List.mem_append, List.mem_singleton] at held
        rcases held with held | rfl
        · exact shared.geometry held
        · exact geometry
      · intro file other held also
        rw [Handles.serve, attached, List.mem_append, List.mem_singleton] at held also
        rcases held with held | rfl <;> rcases also with also | rfl
        · exact shared.content held also
        · exact (content file held).symm
        · exact content other also
        · rfl
  | call number call =>
      rw [Handles.serve, through?]
      cases found : handles.list[number]? with
      | none => exact ⟨by simp, shared⟩
      | some file =>
          have same := shared.geometry (List.mem_of_getElem? found)
          have settles : ImageFile.Settles call.access file :=
            ImageFile.settles_access (by rwa [same]) call
          rcases Action.Ends.cases settles with
            ⟨result, latest, ends, kept⟩ | ⟨cause, latest, ends, kept⟩
          · simp only [ends]
            exact ⟨by simp, shared_follow shared.attached (kept.trans same)⟩
          · simp only [ends]
            exact ⟨by simp, shared_follow shared.attached (kept.trans same)⟩

theorem Shared.after (shared : Shared geometry handles)
    (ends : geometry.regionOffset + geometry.regionSize < Word.limit) (requests : List Request) :
    Shared geometry (handles.after requests) := by
  induction requests generalizing handles with
  | nil => exact shared
  | cons request rest ih => exact ih (shared.serve ends request).2

end Handles

/-! ## Chip and file -/

/-- A chip and a file that cannot be told apart by what is asked of the handles on them. -/
structure Interchangeable (chip : MemoryFlash) (file : ImageFile) : Prop where
  /-- After any requests each handle on the file is open or closed as the one on the chip, and
  the file holds the cells of the chip. -/
  handles (requests : List Request) :
    (Handles.single file).after requests =
      ((Handles.single chip).after requests).map MemoryFlash.toFile
  /-- Whatever was requested before, the next request is answered alike. -/
  answers (requests : List Request) (request : Request) :
    (((Handles.single file).after requests).serve request).1 =
      (((Handles.single chip).after requests).serve request).1
  /-- No answer is a trap. -/
  settles (requests : List Request) (request : Request) :
    (((Handles.single chip).after requests).serve request).1 ≠ some .trap
  /-- A handle that is attached to the chip is closed, and sees the cells that all others see. -/
  attaches (requests : List Request) :
    ∃ fresh : MemoryFlash, ((Handles.single chip).after requests).attach.list =
        ((Handles.single chip).after requests).list ++ [fresh] ∧
      fresh.isOpen = false ∧
      ∀ other ∈ ((Handles.single chip).after requests).list, fresh.cells = other.cells
  /-- So is and does one that is attached to the file, and it is the one that opening the image
  again gives. -/
  reopens (requests : List Request) :
    ∃ fresh : ImageFile, ((Handles.single file).after requests).attach.list =
        ((Handles.single file).after requests).list ++ [fresh] ∧
      fresh.isOpen = false ∧
      ∀ other ∈ ((Handles.single file).after requests).list, fresh.content = other.content ∧
        ∀ path, ImageFile.ofContent? path other.geometry other.content = .ok fresh

/-- Opening an image gives a closed device over its bytes. -/
theorem ImageFile.ofContent?_eq (file : ImageFile) (path : String) :
    ImageFile.ofContent? path file.geometry file.content = .ok { file with isOpen := false } := by
  rw [ofContent?, Geometry.checkImage_of_valid file.valid file.size_content]
  rfl

/-- What is attached to the chip is closed and sees what the others see, as on its file. -/
private theorem attach_of_shared {geometry : Geometry} {handles : Handles MemoryFlash}
    (shared : Handles.Shared geometry (handles.map MemoryFlash.toFile)) :
    ∃ fresh : MemoryFlash, handles.attach.list = handles.list ++ [fresh] ∧
      fresh.isOpen = false ∧ ∀ other ∈ handles.list, fresh.cells = other.cells := by
  obtain ⟨_ | ⟨first, rest⟩⟩ := handles
  · exact absurd rfl shared.attached
  · refine ⟨Shareable.attach first, rfl, rfl, ?_⟩
    intro other held
    have seen : first.toFile.content = other.toFile.content :=
      shared.content (List.mem_map_of_mem (List.mem_cons_self ..)) (List.mem_map_of_mem held)
    exact seen

/-- A chip is interchangeable with its file. -/
theorem interchangeable_toFile (chip : MemoryFlash)
    (ends : chip.geometry.regionOffset + chip.geometry.regionSize < Word.limit) :
    Interchangeable chip chip.toFile := by
  have follows (requests : List Request) : (Handles.single chip.toFile).after requests =
      ((Handles.single chip).after requests).map MemoryFlash.toFile :=
    (Handles.single chip).toFile_after requests
  have shared (requests : List Request) :
      Handles.Shared chip.geometry ((Handles.single chip.toFile).after requests) :=
    (Handles.shared_single chip.toFile).after ends requests
  have answers (requests : List Request) (request : Request) :
      (((Handles.single chip.toFile).after requests).serve request).1 =
        (((Handles.single chip).after requests).serve request).1 := by
    rw [follows, Handles.toFile_serve]
  refine ⟨follows, answers, ?_, ?_, ?_⟩
  · intro requests request
    rw [← answers]
    exact ((shared requests).serve ends request).1
  · intro requests
    have alike := shared requests
    rw [follows] at alike
    exact attach_of_shared alike
  · intro requests
    obtain ⟨fresh, attached, closed, geometry, content⟩ := (shared requests).attach
    refine ⟨fresh, attached, closed, fun other held => ⟨content other held, fun path => ?_⟩⟩
    have same : ({ other with isOpen := false } : ImageFile) = fresh :=
      MemoryFlash.file_ext (((shared requests).geometry held).trans geometry.symm)
        (content other held).symm closed.symm
    rw [ImageFile.ofContent?_eq, same]

/-- Blank, the chip and the file of a valid geometry start alike. -/
private theorem blank_of_valid {geometry : Geometry} (valid : geometry.Valid) :
    ∃ chip, MemoryFlash.blank? geometry = .ok chip ∧
      ImageFile.create? geometry = .ok chip.toFile ∧ chip.geometry = geometry ∧
      chip.cells = geometry.blankCells := by
  rw [MemoryFlash.blank?, ImageFile.create?, Geometry.check_of_valid valid]
  exact ⟨_, rfl, rfl, rfl, rfl⟩

/-- So do those that are made from an image of the size of the region. -/
private theorem loaded_of_valid {geometry : Geometry} (valid : geometry.Valid) (path : String)
    {cells : Cells} (same : cells.size = geometry.regionSize) :
    ∃ chip, MemoryFlash.ofCells? geometry cells = .ok chip ∧
      ImageFile.ofContent? path geometry cells = .ok chip.toFile ∧ chip.geometry = geometry ∧
      chip.cells = cells := by
  rw [MemoryFlash.ofCells?, ImageFile.ofContent?, Geometry.checkImage_of_valid valid same,
    Geometry.checkImage_of_valid valid same]
  exact ⟨_, rfl, rfl, rfl, rfl⟩

/-- Over a valid geometry whose region ends at a word, a chip and a file can be made blank and
from an image of the size of the region, and they are interchangeable. -/
theorem interchangeable_of_valid {geometry : Geometry} (valid : geometry.Valid)
    (ends : geometry.regionOffset + geometry.regionSize < Word.limit) :
    (∃ chip file, MemoryFlash.blank? geometry = .ok chip ∧ ImageFile.create? geometry = .ok file ∧
      chip.cells = geometry.blankCells ∧ Interchangeable chip file) ∧
    ∀ (path : String) (cells : Cells), cells.size = geometry.regionSize →
      ∃ chip file, MemoryFlash.ofCells? geometry cells = .ok chip ∧
        ImageFile.ofContent? path geometry cells = .ok file ∧ chip.cells = cells ∧
        Interchangeable chip file := by
  constructor
  · obtain ⟨chip, made, created, same, holds⟩ := blank_of_valid valid
    exact ⟨chip, chip.toFile, made, created, holds, interchangeable_toFile chip (by rwa [same])⟩
  · intro path cells size
    obtain ⟨chip, made, opened, same, holds⟩ := loaded_of_valid valid path size
    exact ⟨chip, chip.toFile, made, opened, holds, interchangeable_toFile chip (by rwa [same])⟩

/-- A geometry with two blocks, over which both can be made. -/
theorem interchangeable_of_valid_sample :
    let geometry : Geometry := ⟨4, 8, 2, 4, 1⟩
    geometry.Valid ∧ geometry.regionOffset + geometry.regionSize < Word.limit ∧
      ∃ chip file, MemoryFlash.ofCells? geometry (Array.replicate 8 7) = .ok chip ∧
        ImageFile.ofContent? "image" geometry (Array.replicate 8 7) = .ok file ∧
        chip.cells = Array.replicate 8 7 ∧ Interchangeable chip file := by
  have valid : (⟨4, 8, 2, 4, 1⟩ : Geometry).Valid := (Geometry.validate_eq_ok_iff _).1 rfl
  exact ⟨valid, by decide, (interchangeable_of_valid valid (by decide)).2 "image" _ rfl⟩

end NorStore.Flash
