/-
# Accesses stay in the range of their segment

Every access that names a segment, with whatever arguments, changes no cell outside the range
of that segment, whether it succeeds, fails or traps. The bounds of the layout, the check of
a handle, the rounding of erases and the cut into runs all take part in this. Before the map
is planned an access plans it first, or does without a map and then programs nothing.
-/

import NorStore.Proofs.Driver.Content
import NorStore.Proofs.Driver.Inspecting
import NorStore.Proofs.Driver.Placed

namespace NorStore

open NorStore.Flash (BlockDevice Cells Keeps NorDevice)
open NorStore.Flash.ChipView (cells shape)

namespace SegmentDriver

variable {δ : Type} [BlockDevice δ] [NorDevice δ] {driver reached : SegmentDriver δ}
  {segment : Segment} {entry : MapEntry} {offset start length size : Nat} {data : Bytes}

theorem Confined.refl (entry : MapEntry) (driver : SegmentDriver δ) : Confined entry driver driver :=
  (Remains.refl driver).confined

/-! ## With a range in the map -/

section Mapped

variable (sound : driver.Sound) (mapped : driver.Mapped segment entry)

include mapped

theorem openForRead_reaches : (openForRead segment).Reaches driver (Confined entry driver) :=
  .of_ends ((openForRead_ends mapped).mono (fun _ _ ended => ended.1.confined)
    fun _ _ ended => ended.1.confined)

include sound

theorem program_reaches (asked : Segment) (inside : offset + data.length ≤ entry.reserved) :
    (program asked (entry.start + offset) data).Reaches driver (Confined entry driver) := by
  refine .of_ends ((program_ends asked sound mapped inside).mono ?_ ?_)
  · intro _ reached ended
    obtain ⟨follows, powered, programmed⟩ := ended
    rcases data with - | ⟨byte, rest⟩
    · have kept : cells reached.device = cells driver.device := by
        rw [programmed]
        rfl
      exact (Remains.mk follows kept).confined
    · have agree := Cells.agreeOutside_program (cells driver.device) (driver.base entry + offset)
        (byte :: rest)
      rw [← programmed] at agree
      exact follows.confined (powered (List.cons_ne_nil _ _)) agree inside
  · exact fun _ _ broken => broken.confined inside

theorem readLedger_reaches : (readLedger segment).Reaches driver (Confined entry driver) :=
  .of_ends ((readLedger_ends sound mapped).mono (fun _ _ ended => ended.1.confined)
    fun _ _ ended => ended.1.confined)

theorem eraseSegment_reaches : (eraseSegment segment).Reaches driver (Confined entry driver) := by
  refine .of_ends ((eraseSegment_ends sound mapped).mono ?_ fun _ _ ended => ended.1.confined)
  intro _ reached ended
  obtain ⟨follows, powered, erased⟩ := ended
  exact follows.confined_of_erase powered erased (Nat.le_refl _)

theorem inspect_reaches (appSignature : UInt32) (maxVersion : UInt16) (span : ChecksumSpan) :
    (inspect segment appSignature maxVersion span).Reaches driver (Confined entry driver) :=
  .of_ends ((inspect_ends sound mapped appSignature maxVersion span).mono (fun _ _ ended => ended.1.confined)
    fun _ _ ended => ended.1.confined)

/-- An event programs a ledger at the start of the range, if it does anything. -/
theorem applyEvent_reaches (event : LedgerEvent) :
    (applyEvent segment event).Reaches driver (Confined entry driver) := by
  apply Action.Reaches.value_bind (ensureMapped_of_mapped mapped)
  apply Action.Reaches.bind (readLedger_reaches sound mapped)
  intro ledger middle _ confined
  have follows := confined.toFollows
  cases ledger.classify.apply event with
  | illegal => exact .throw confined
  | noChange => exact .pure confined
  | program next =>
      have inside : 0 + next.encode.length ≤ entry.reserved := by
        rw [Nat.zero_add, Ledger.length_encode]
        exact sound.ledger_le mapped
      exact (program_reaches (follows.sound sound) (follows.mapped mapped) segment inside).mono
        fun _ => confined.trans

/-- What does not fit is refused, and otherwise whole blocks from the start are erased. -/
theorem openForWrite_reaches (size : Nat) :
    (openForWrite segment size).Reaches driver (Confined entry driver) := by
  by_cases fits : size ≤ entry.maxDataSize
  · have range := sound.fits mapped
    have room := range.room
    have data := range.maxDataSize
    have inside : (shape driver.device).covering (Ledger.size + size) ≤ entry.reserved :=
      Flash.Geometry.covering_le (by omega) range.whole
    refine .of_ends ((openForWrite_ends sound mapped fits).mono ?_ fun _ _ ended => ended.1.confined)
    intro _ reached ended
    obtain ⟨-, follows, powered, erased⟩ := ended
    exact follows.confined_of_erase powered erased inside
  · rw [Action.Reaches, openForWrite_of_long mapped (Nat.lt_of_not_le fits)]
    exact .refl entry driver

/-- New content is written behind the ledger, if it fits there. -/
theorem writeContent_reaches (header : Header) (payload : Bytes) :
    (writeContent segment header payload).Reaches driver (Confined entry driver) := by
  by_cases fits : Header.size + payload.length ≤ entry.maxDataSize
  · exact .of_ends ((writeContent_ends sound mapped fits).mono (fun _ _ ended => ended.1)
      fun _ _ ended => ended.1)
  · have refused := openForWrite_of_long mapped (Nat.lt_of_not_le fits)
    rw [Action.Reaches, writeContent, Action.bind_of_error refused]
    exact .refl entry driver

end Mapped

/-! ## Through a handle -/

/-- A handle reads only within the data of its range, also without a map. -/
theorem read_reaches {handle : Handle} (fits : handle.entry.Fits (shape driver.device))
    (ends : (shape driver.device).regionOffset + (shape driver.device).regionSize < Word.limit)
    (offset length : Nat) :
    (read handle offset length).Reaches driver (Remains driver) := by
  rw [read_steps]
  refine .lift_bind (.refl driver) fun _ _ => .lift_bind (.refl driver) fun past added => ?_
  have reach := Word.add_eq_value added
  split
  · exact .throw (.refl driver)
  · refine .lift_bind (.refl driver) fun place located => ?_
    have start := Word.add_eq_value located
    have first := fits.first
    have last := fits.last
    have room := fits.room
    have data := fits.maxDataSize
    have encloses : (shape driver.device).Encloses place length := by
      rw [MapEntry.past] at last
      rw [MapEntry.dataOffset] at start
      exact ⟨ends, by omega, by omega⟩
    have reads : (onDevice (BlockDevice.session (BlockDevice.read place length))).Reaches driver
        (Remains driver) := by
      refine .of_ends (onDevice_ends ((BlockDevice.session_read_ends encloses).mono ?_ ?_))
      · exact fun _ _ ended => ⟨⟨rfl, rfl, ended.1.toKeeps⟩, ended.1.cells⟩
      · exact fun _ _ ended => ⟨⟨rfl, rfl, ended.1.toKeeps⟩, ended.1.cells⟩
    refine .bind (.mapError reads) fun _ reached _ remains => ?_
    exact .lift_bind remains fun _ _ => .pure remains

/-- A handle writes only within the data of its range, and not at all without a map. -/
theorem write_reaches {handle : Handle} (sound : driver.Sound)
    (mapped : driver.Mapped segment handle.entry ∨ driver.planner = .unmapped)
    (offset : Nat) (data : Bytes) :
    (write handle offset data).Reaches driver (Confined handle.entry driver) := by
  rw [write_steps]
  refine .lift_bind (.refl _ driver) fun _ _ => .lift_bind (.refl _ driver) fun past added => ?_
  have reach := Word.add_eq_value added
  split
  · exact .throw (.refl _ driver)
  · refine .lift_bind (.refl _ driver) fun place located => ?_
    have start := Word.add_eq_value located
    rcases mapped with mapped | unmapped
    · have room := (sound.fits mapped).room
      have size := (sound.fits mapped).maxDataSize
      rw [MapEntry.dataOffset, Nat.add_assoc] at start
      subst start
      refine .bind (program_reaches sound mapped _ (by omega)) fun _ reached _ confined => ?_
      exact .lift confined
    · have refused : program handle.entry.segment place data driver =
          (.error (.deviceUnavailable .unplanned), driver) := by
        rw [program, Action.get_bind, memoryMap?, unmapped]
        rfl
      rw [Action.Reaches, Action.bind_of_error refused]
      exact .refl _ driver

/-! ## With or without a map -/

/-- The segment has its range: in the map, or in the one that is planned at the first access. -/
def Assigned (driver : SegmentDriver δ) (segment : Segment) (entry : MapEntry) : Prop :=
  driver.Mapped segment entry ∨ driver.planner = .unmapped ∧ driver.Placed segment entry

/-- An access has changed no cell outside the range, and may have planned the map before. -/
def Touched (entry : MapEntry) (before after : SegmentDriver δ) : Prop :=
  Confined entry before after ∨ Confined entry (planOnce before).2 after

namespace Assigned

variable (assigned : driver.Assigned segment entry)

include assigned

theorem fits (sound : driver.Sound) : entry.Fits (shape driver.device) := by
  rcases assigned with mapped | ⟨-, placed⟩
  · exact sound.fits mapped
  · exact placed.fits

theorem ends (sound : driver.Sound) :
    (shape driver.device).regionOffset + (shape driver.device).regionSize < Word.limit := by
  rcases assigned with mapped | ⟨-, map, plans, -⟩
  · exact sound.ends mapped
  · exact (MemoryMap.planned_eq_value plans).1.laidOut.ends

/-- Asking for the range plans the map, if that has not been tried, and finds the range in it
unless the device does not report its geometry. -/
theorem asks (sound : driver.Sound) :
    ensureMapped segment driver = (.value entry, (planOnce driver).2) ∨
      ∃ cause fault, BlockDevice.geometry driver.device = .error fault ∧
        ensureMapped segment driver = (.error cause, (planOnce driver).2) := by
  rcases assigned with mapped | ⟨unmapped, map, plans, lookup⟩
  · obtain ⟨map, known, -⟩ := id mapped
    have kept : planOnce driver = (.value (), driver) := by rw [planOnce, known]
    rw [kept]
    exact .inl (ensureMapped_of_mapped mapped)
  · rcases plan_of_planned sound.honest plans with made | ⟨cause, unreported, failed, -⟩
    · have tried : planOnce driver = (.value (), { driver with planner := .mapped map }) := by
        rw [planOnce, unmapped]
        simp only [made]
      rw [tried, ensureMapped_of_plan unmapped made]
      exact .inl (ensureMapped_of_mapped ⟨map, rfl, lookup⟩)
    · have tried : planOnce driver =
          (.value (), { driver with planner := .failed (.device cause) }) := by
        rw [planOnce, unmapped]
        simp only [failed]
      rw [tried, ensureMapped_of_plan unmapped failed]
      exact .inr ⟨_, cause, unreported, ensureMapped_of_failed rfl⟩

/-- An access that begins by asking for the range. -/
theorem reaches {α : Type} (sound : driver.Sound) {access : Action (SegmentDriver δ) StoreError α}
    {next : MapEntry → Action (SegmentDriver δ) StoreError α}
    (begins : access = ensureMapped segment >>= next)
    (within : ∀ start : SegmentDriver δ, start.Sound → start.Mapped segment entry →
      access.Reaches start (Confined entry start)) :
    access.Reaches driver (Touched entry driver) := by
  subst begins
  right
  rcases assigned.asks sound with asked | ⟨cause, -, -, asked⟩
  · rw [ensureMapped_bind asked]
    exact within _ (sound.of_ensureMapped asked) (mapped_of_ensureMapped asked)
  · rw [Action.bind_of_error asked]
    exact .refl entry _

end Assigned

namespace Touched

variable (touched : driver.Touched entry reached)

include touched

theorem keeps : Keeps driver.device reached.device := by
  have kept : (planOnce driver).2.device = driver.device := by rw [planOnce_snd]
  rcases touched with confined | confined
  · exact confined.keeps
  · rw [← kept]
    exact confined.keeps

theorem outside : Cells.AgreeOutside (driver.base entry) entry.reserved (cells driver.device)
    (cells reached.device) := by
  have kept : (planOnce driver).2.device = driver.device := by rw [planOnce_snd]
  rcases touched with confined | confined
  · exact confined.outside
  · have outside := confined.outside
    rwa [base, kept] at outside

theorem capacities : reached.capacities = driver.capacities := by
  rcases touched with confined | confined
  · exact confined.capacities
  · rw [confined.capacities, planOnce_snd]

theorem sound (soundly : driver.Sound) : reached.Sound := by
  rcases touched with confined | confined
  · exact confined.toFollows.sound soundly
  · exact confined.toFollows.sound soundly.planOnce

/-- On a device that reports its geometry again, other segments have the ranges that they
would have had before. -/
theorem kin {fresh later : δ}
    (reported : BlockDevice.geometry fresh = BlockDevice.geometry driver.device)
    (again : BlockDevice.geometry later = BlockDevice.geometry fresh) :
    Kin { driver with device := fresh } { reached with device := later } where
  planner := by
    rw [planOnce_over reported]
    exact touched.imp (·.planner) (·.planner)
  capacities := touched.capacities
  geometry := again

end Touched

/-- A segment that has its range is in the map when another one is given a range. -/
theorem Assigned.mapped_of_asked (assigned : driver.Assigned segment entry) (sound : driver.Sound)
    (reported : BlockDevice.geometry driver.device = .ok (shape driver.device)) (other : Segment) :
    (ensureMapped other driver).2.Mapped segment entry := by
  rcases assigned.asks sound with asked | ⟨cause, fault, unreported, -⟩
  · rw [← ensureMapped_planOnce]
    exact (mapped_of_ensureMapped asked).ensureMapped other
  · rw [reported] at unreported
    contradiction

/-- The range that another segment is given is apart from it. -/
theorem Assigned.apart_of_asked (assigned : driver.Assigned segment entry) (sound : driver.Sound)
    (reported : BlockDevice.geometry driver.device = .ok (shape driver.device)) {other : Segment}
    {range : MapEntry} (different : segment ≠ other)
    (asked : ensureMapped other driver = (.value range, reached)) : range.Apart entry := by
  have mine := assigned.mapped_of_asked sound reported other
  have theirs := mapped_of_ensureMapped asked
  rw [asked] at mine
  obtain ⟨map, known, found⟩ := mine
  obtain ⟨same, again, lookup⟩ := theirs
  rw [known] at again
  cases again
  exact ((sound.of_ensureMapped asked).grown map known).laidOut.apart other segment range entry
    lookup found different.symm

/-- The ways to access a segment. A handle may be in any state. -/
inductive Access where
  | enter
  | exit
  | isInTransaction
  | openForRead
  | openForWrite (size : Nat)
  | read (mode : AccessMode) (position offset length : Nat)
  | write (mode : AccessMode) (position offset : Nat) (data : Bytes)
  | erase
  | inspect (appSignature : UInt32) (maxVersion : UInt16) (span : ChecksumSpan)

/-- Access a segment, through handles of its range. -/
def Access.perform (segment : Segment) (entry : MapEntry) :
    Access → Action (SegmentDriver δ) StoreError Unit
  | enter => enterTransaction segment
  | exit => exitTransaction segment
  | isInTransaction => do let _ ← SegmentDriver.isInTransaction segment
  | openForRead => do let _ ← SegmentDriver.openForRead segment
  | openForWrite size => do let _ ← SegmentDriver.openForWrite segment size
  | read mode position offset length => do
    let _ ← SegmentDriver.read { entry, mode, position } offset length
  | write mode position offset data => do
    let _ ← SegmentDriver.write { entry, mode, position } offset data
  | erase => eraseSegment segment
  | inspect appSignature maxVersion span => do
    let _ ← SegmentDriver.inspect segment appSignature maxVersion span

/-- Whatever is done to a segment stays in its range. -/
theorem Access.reaches (sound : driver.Sound) (assigned : driver.Assigned segment entry)
    (access : Access) :
    (access.perform segment entry).Reaches driver (Touched entry driver) := by
  cases access with
  | enter =>
      exact assigned.reaches sound rfl fun _ sound mapped => applyEvent_reaches sound mapped .enter
  | exit =>
      exact assigned.reaches sound rfl fun _ sound mapped => applyEvent_reaches sound mapped .exit
  | isInTransaction =>
      have reads : (readLedger segment).Reaches driver (Touched entry driver) :=
        assigned.reaches sound rfl fun _ => readLedger_reaches
      refine .bind (.bind (.attempt reads) fun result _ _ touched => ?_) fun _ _ _ => .pure
      cases result with
      | ok ledger => exact .pure touched
      | error cause => exact .pure touched
  | openForRead =>
      have opens : (SegmentDriver.openForRead segment).Reaches driver (Touched entry driver) :=
        assigned.reaches sound rfl fun _ _ => openForRead_reaches
      exact opens.bind fun _ _ _ => .pure
  | openForWrite size =>
      have opens : (SegmentDriver.openForWrite segment size).Reaches driver
          (Touched entry driver) :=
        assigned.reaches sound rfl fun _ sound mapped => openForWrite_reaches sound mapped size
      exact opens.bind fun _ _ _ => .pure
  | read mode position offset length =>
      have reads := @read_reaches _ _ _ driver ⟨entry, mode, position⟩ (assigned.fits sound)
        (assigned.ends sound) offset length
      refine .bind (reads.mono fun _ remains => .inl remains.confined) ?_
      exact fun _ _ _ => .pure
  | write mode position offset data =>
      have writes := @write_reaches _ _ _ driver segment ⟨entry, mode, position⟩ sound
        (assigned.imp_right And.left) offset data
      exact .bind (writes.mono fun _ => .inl) fun _ _ _ => .pure
  | erase => exact assigned.reaches sound rfl fun _ => eraseSegment_reaches
  | inspect appSignature maxVersion span =>
      have inspects : (SegmentDriver.inspect segment appSignature maxVersion span).Reaches driver
          (Touched entry driver) :=
        assigned.reaches sound rfl fun _ sound mapped =>
          inspect_reaches sound mapped appSignature maxVersion span
      exact inspects.bind fun _ _ _ => .pure

end SegmentDriver

end NorStore
