/-
# What the counts of a store count

Beside the store we keep an account of what its calls came to: every payload that was stored or
restored, every segment that was erased, every pass. The account only hears what the calls
return. After every run, whatever the device did, the counts are those of the events and of the
account.

Two of the counts are less than their names may suggest. The bytes that were read are those of
payloads, without the headers in front of them, while the bytes that were written include the
headers. And only a call that erases a segment counts as an erase, although storing a segment
erases its blocks too.
-/

import Mathlib.Algebra.GroupWithZero.Nat
import NorStore.Proofs.Store.Impaired
import NorStore.Proofs.Store.Inspecting
import NorStore.Proofs.Store.Lifetime
import NorStore.Proofs.Store.Provenance
import NorStore.Proofs.Store.Schedule

namespace NorStore

open NorStore.Flash (BlockDevice MemoryFlash)

/-! ## Events and feats -/

namespace Event

/-- The segment, if the event tells that it was restored. -/
def restored? : Event → Option Segment
  | restored segment => some segment
  | _ => none

/-- The segment, if the event tells that it could not be stored. -/
def failed? : Event → Option Segment
  | storeFailed segment _ => some segment
  | _ => none

end Event

/-- What a call came to that does not fail. -/
inductive Feat where
  | stored (segment : Segment) (payload : Bytes)
  | restored (segment : Segment) (payload : Bytes)
  | erased (segment : Segment)
  | passed
deriving DecidableEq, Repr

namespace Feat

/-- The segment and its payload, if it was stored. -/
def stored? : Feat → Option (Segment × Bytes)
  | stored segment payload => some (segment, payload)
  | _ => none

/-- The segment and its payload, if it was restored. -/
def restored? : Feat → Option (Segment × Bytes)
  | restored segment payload => some (segment, payload)
  | _ => none

/-- The segment, if it was erased. -/
def erased? : Feat → Option Segment
  | erased segment => some segment
  | _ => none

end Feat

namespace Stats

/-- The counts of what happened twice. -/
instance : Add Stats where
  add first second :=
    { commitPasses := first.commitPasses + second.commitPasses
      commits := first.commits + second.commits
      commitFailures := first.commitFailures + second.commitFailures
      restores := first.restores + second.restores
      losses := first.losses + second.losses
      erases := first.erases + second.erases
      bytesWritten := first.bytesWritten + second.bytesWritten
      bytesRead := first.bytesRead + second.bytesRead }

/-- The counts of some events and of the feats among them. A header comes with each payload that
was stored. -/
def of (events : List Event) (feats : List Feat) : Stats where
  commitPasses := feats.count .passed
  commits := (events.filterMap Event.stored?).length
  commitFailures := (events.filterMap Event.failed?).length
  restores := (events.filterMap Event.restored?).length
  losses := (events.filterMap Event.loss?).length
  erases := (feats.filterMap Feat.erased?).length
  bytesWritten := ((feats.filterMap Feat.stored?).map (Header.size + ·.2.length)).sum
  bytesRead := ((feats.filterMap Feat.restored?).map (·.2.length)).sum

theorem add_def (first second : Stats) : first + second =
    { commitPasses := first.commitPasses + second.commitPasses
      commits := first.commits + second.commits
      commitFailures := first.commitFailures + second.commitFailures
      restores := first.restores + second.restores
      losses := first.losses + second.losses
      erases := first.erases + second.erases
      bytesWritten := first.bytesWritten + second.bytesWritten
      bytesRead := first.bytesRead + second.bytesRead } := rfl

theorem add_assoc (first second third : Stats) :
    first + second + third = first + (second + third) := by
  simp only [add_def, Nat.add_assoc]

theorem nil_add (stats : Stats) : ({} : Stats) + stats = stats := by
  simp only [add_def, Nat.zero_add]

theorem of_append (first second : List Event) (feats more : List Feat) :
    of (first ++ second) (feats ++ more) = of first feats + of second more := by
  simp only [of, add_def, List.filterMap_append, List.length_append, List.count_append,
    List.map_append, List.sum_append]

end Stats

namespace Store

variable {δ ε : Type} {store middle after : Store δ} {told further : List Event}
  {feats more : List Feat} {segment : Segment} {registration : Registration}
  {stored later : List Segment}

/-! ## What a call adds to the account -/

/-- What happened between two states of a store: the events that were told, and the feats among
them. The counts have risen by as much. -/
structure Accounts (told : List Event) (feats : List Feat) (before after : Store δ) : Prop where
  events : after.events = before.events ++ told
  stats : after.stats = before.stats + .of told feats
  stored : told.filterMap Event.stored? = (feats.filterMap Feat.stored?).map Prod.fst
  restored : told.filterMap Event.restored? = (feats.filterMap Feat.restored?).map Prod.fst

namespace Accounts

theorem of_same (events : after.events = store.events) (stats : after.stats = store.stats) :
    Accounts [] [] store after where
  events := events.trans (List.append_nil _).symm
  stats := stats
  stored := rfl
  restored := rfl

theorem trans (one : Accounts told feats store middle) (two : Accounts further more middle after) :
    Accounts (told ++ further) (feats ++ more) store after where
  events := by rw [two.events, one.events, List.append_assoc]
  stats := by rw [two.stats, one.stats, Stats.add_assoc, Stats.of_append]
  stored := by
    rw [List.filterMap_append, List.filterMap_append, List.map_append, one.stored, two.stored]
  restored := by
    rw [List.filterMap_append, List.filterMap_append, List.map_append, one.restored, two.restored]

end Accounts

variable [BlockDevice δ]

/-- The payload that is read from flash for a segment, if there is one. -/
def fetched? (store : Store δ) (segment : Segment) : Option Bytes :=
  (store.registrations.get segment).bind fun registration =>
    match (SegmentDriver.fetch segment store.config.appSignature store.config.maxVersion
      registration.codec.span store.driver).1 with
    | .value payload => some payload
    | _ => none

omit [BlockDevice δ] in
/-- What there is to account for when a segment is stored. -/
def featsOfStoring (store : Store δ) (segment : Segment) : List Feat :=
  ((store.payload? segment).map (.stored segment)).toList

/-- What there is to account for when restoring a segment has come to an outcome. -/
def featsOfRestoring (store : Store δ) (segment : Segment) : LoadOutcome → List Feat
  | .restored => ((store.fetched? segment).map (.restored segment)).toList
  | .lost _ => []

/-- What there is to account for when segments are restored, one after another. -/
def featsOfRestoringEach (store : Store δ) : List Segment → List Feat
  | [] => []
  | segment :: rest =>
    match (restore segment store : Outcome StoreError LoadOutcome × Store δ) with
    | (.value outcome, after) =>
        store.featsOfRestoring segment outcome ++ after.featsOfRestoringEach rest
    | _ => []

/-! ## Storing -/

/-- Writing a segment tells nothing, and leaves what is registered. -/
private theorem writeSegment_untold (segment : Segment) :
    Action.Leaves (fun store : Store δ => (store.registrations, store.events, store.stats))
      (writeSegment segment : Action (Store δ) StoreError Nat) :=
  writeSegment_leaves (fun _ _ => rfl) segment

/-- What is written is a header and the payload that there was to store. -/
theorem payload?_of_written {bytes : Nat}
    (writes : writeSegment segment store = (.value bytes, after)) :
    ∃ payload, store.payload? segment = some payload ∧ bytes = Header.size + payload.length := by
  cases registered : store.registrations.get segment with
  | none =>
      rw [writeSegment, Action.get_bind, registered] at writes
      cases writes
  | some registration =>
      cases prepared : registration.prepared segment with
      | error cause =>
          rw [writeSegment_of_unprepared registered prepared] at writes
          obtain ⟨_, _, -, throws⟩ := Action.bind_eq_value_iff.1 writes
          cases throws
      | ok payload =>
          rw [writeSegment_of_prepared registered prepared] at writes
          obtain ⟨_, _, -, returns⟩ := Action.bind_eq_value_iff.1 writes
          cases returns
          refine ⟨payload, ?_, rfl⟩
          rw [payload?, registered]
          exact congrArg Except.toOption (registration.serialize_of_prepared prepared)

/-- These segments were stored, in this order, with the payloads that they had. -/
structure Puts (stored : List Segment) (before after : Store δ) : Prop where
  accounts : ∃ told, Accounts told (stored.flatMap before.featsOfStoring) before after ∧
    told.filterMap Event.stored? = stored
  registrations : after.registrations = before.registrations

namespace Puts

omit [BlockDevice δ] in
theorem of_same (events : after.events = store.events) (stats : after.stats = store.stats)
    (registrations : after.registrations = store.registrations) : Puts [] store after :=
  ⟨⟨[], .of_same events stats, rfl⟩, registrations⟩

omit [BlockDevice δ] in
theorem trans (one : Puts stored store middle) (two : Puts later middle after) :
    Puts (stored ++ later) store after where
  accounts := by
    obtain ⟨told, first, names⟩ := one.accounts
    obtain ⟨further, second, others⟩ := two.accounts
    have same : middle.featsOfStoring = store.featsOfStoring := by
      funext segment
      rw [featsOfStoring, featsOfStoring, payload?, payload?, one.registrations]
    rw [same] at second
    refine ⟨told ++ further, ?_, by rw [List.filterMap_append, names, others]⟩
    rw [List.flatMap_append]
    exact first.trans second
  registrations := two.registrations.trans one.registrations

omit [BlockDevice δ] in
/-- The events tell which segments were stored. -/
theorem storedSince (puts : Puts stored store after) : store.storedSince after = stored := by
  obtain ⟨told, accounts, names⟩ := puts.accounts
  rw [Store.storedSince, accounts.events, List.drop_left, names]

end Puts

/-- A segment that is stored is accounted for, and a failure is told and counted. -/
theorem storeSegment_puts (store : Store δ) (segment : Segment) :
    (storeSegment segment).Concludes store (fun _ => Puts [segment] store)
      (Puts [] store) := by
  have untold := writeSegment_untold segment store
  rw [Action.Concludes]
  rcases writes : writeSegment segment store with ⟨bytes | cause | _, reached⟩
  · rw [writes] at untold
    simp only [Prod.mk.injEq] at untold
    obtain ⟨registrations, events, stats⟩ := untold
    obtain ⟨payload, has, rfl⟩ := payload?_of_written writes
    rw [storeSegment_of_written writes]
    refine ⟨⟨[.stored segment], ?_, rfl⟩, registrations⟩
    have single : [segment].flatMap store.featsOfStoring = [.stored segment payload] := by
      simp [featsOfStoring, has]
    rw [single]
    refine ⟨by rw [noteStored, events], ?_, rfl, rfl⟩
    rw [noteStored, ← stats]
    rfl
  · rw [writes] at untold
    simp only [Prod.mk.injEq] at untold
    obtain ⟨registrations, events, stats⟩ := untold
    rw [storeSegment_of_failed writes]
    refine ⟨⟨[.storeFailed segment cause], ⟨by rw [noteStoreFailed, events], ?_, rfl, rfl⟩, rfl⟩,
      registrations⟩
    rw [noteStoreFailed, ← stats]
    rfl
  · rw [writes] at untold
    simp only [Prod.mk.injEq] at untold
    rw [storeSegment_of_trap writes]
    exact .of_same untold.2.1 untold.2.2 untold.1

/-- What is reported of a list as stored was stored, also up to a trap. -/
theorem storeEach_puts (listed : List Segment) (report : CommitReport) (store : Store δ) :
    (storeEach listed report : Action (Store δ) ε CommitReport).Concludes store
      (fun told after => told.performed = report.performed ∧
        ∃ stored, told.stored = report.stored ++ stored ∧ Puts stored store after)
      (fun after => ∃ stored, Puts stored store after) := by
  induction listed generalizing report store with
  | nil => exact .pure ⟨rfl, [], (List.append_nil _).symm, .of_same rfl rfl rfl⟩
  | cons segment rest ih =>
      have concludes := storeSegment_puts store segment
      rw [Action.Concludes] at concludes
      rcases stores : storeSegment segment store with ⟨_ | cause | _, next⟩
      · rw [stores] at concludes
        have paused : Puts [segment] store (next.advanceClock next.config.yieldMillis) :=
          concludes.trans (.of_same rfl rfl rfl)
        refine .of_eq (storeEach_of_stored stores) ((ih _ _).mono ?_ ?_)
        · intro told after ended
          obtain ⟨performed, stored, names, puts⟩ := ended
          exact ⟨performed, segment :: stored, by rw [names, List.append_assoc]; rfl,
            paused.trans puts⟩
        · intro after ended
          obtain ⟨stored, puts⟩ := ended
          exact ⟨segment :: stored, paused.trans puts⟩
      · rw [stores] at concludes
        refine .of_eq (storeEach_of_failed stores) ((ih _ _).mono ?_ ?_)
        · intro told after ended
          obtain ⟨performed, stored, names, puts⟩ := ended
          exact ⟨performed, stored, names, concludes.trans puts⟩
        · intro after ended
          obtain ⟨stored, puts⟩ := ended
          exact ⟨stored, concludes.trans puts⟩
      · rw [stores] at concludes
        rw [Action.Concludes, storeEach_of_trap stores]
        exact ⟨[], concludes⟩

/-- A check that makes a pass counts it, and accounts for what it reports as stored. -/
theorem commitCheck_accounts (store : Store δ) :
    (commitCheck : Action (Store δ) ε CommitReport).Concludes store
      (fun report after => ∃ told, Accounts told
        (if report.performed then .passed :: report.stored.flatMap store.featsOfStoring else [])
        store after)
      (fun after => ∃ told, Accounts told
        (.passed :: (store.storedSince after).flatMap store.featsOfStoring) store after) := by
  cases due : store.isCommitDue with
  | false =>
      rw [Action.Concludes, commitCheck_of_not_due due]
      exact ⟨[], .of_same rfl rfl⟩
  | true =>
      have begun : Accounts [] [.passed] store { store with stats :=
          { store.stats with commitPasses := store.stats.commitPasses + 1 } } :=
        ⟨(List.append_nil _).symm, rfl, rfl, rfl⟩
      -- The pass is counted before the first segment is tried.
      have begins {stored : List Segment} {last : Store δ} (puts : Puts stored { store with stats :=
          { store.stats with commitPasses := store.stats.commitPasses + 1 } } last) :
          ∃ told, Accounts told (.passed :: stored.flatMap store.featsOfStoring) store last := by
        obtain ⟨told, accounts, -⟩ := puts.accounts
        exact ⟨told, begun.trans accounts⟩
      apply Action.Concludes.of_eq ((commitCheck_of_due due).trans (Action.modify_bind _ _ store))
      refine .bind ((storeEach_puts _ _ _).mono (fun _ _ => id) ?_) ?_
      · intro after ended
        obtain ⟨stored, puts⟩ := ended
        have since : store.storedSince after = stored := puts.storedSince
        rw [since]
        exact begins puts
      · intro report last ended
        obtain ⟨performed, stored, names, puts⟩ := ended
        refine .of_eq (Action.modify_bind _ _ last) (.pure ?_)
        rw [if_pos performed, names]
        obtain ⟨told, accounts⟩ := begins puts
        exact ⟨told, accounts.events, accounts.stats, accounts.stored, accounts.restored⟩

/-! ## Restoring -/

/-- Loading a segment tells nothing. -/
private theorem loadSegment_untold (segment : Segment) :
    Action.Leaves (fun store : Store δ => (store.events, store.stats))
      (loadSegment segment : Action (Store δ) LossReason Bytes) := by
  refine .bind .get fun store => ?_
  split
  · exact .throw _
  · refine .bind (fun _ => rfl) fun inTransaction => ?_
    split
    · exact .throw _
    · refine .bind (.mapError fun _ => rfl) fun handle => .bind .get fun asked => ?_
      refine .bind (fun _ => rfl) fun payload => ?_
      split
      · exact .throw _
      · refine .bind (fun state => ?_) fun _ => .pure _
        show ((state.setLive segment _).events, (state.setLive segment _).stats) = _
        rw [setLive]
        split <;> rfl

/-- What is loaded is what was read from flash. -/
theorem fetched?_of_loaded {payload : Bytes}
    (loads : loadSegment segment store = (.value payload, after)) :
    store.fetched? segment = some payload := by
  cases registered : store.registrations.get segment with
  | none =>
      rw [loadSegment, Action.get_bind, registered] at loads
      cases loads
  | some registration =>
      rw [loadSegment_eq registered] at loads
      obtain ⟨found, reached, reads, rest⟩ := Action.bind_eq_value_iff.1 loads
      have fetched : (SegmentDriver.fetch segment store.config.appSignature store.config.maxVersion
          registration.codec.span store.driver).1 = .value found := congrArg Prod.fst reads
      have same : found = payload := by
        cases accepted : registration.codec.deserialize found with
        | error cause =>
            rw [accepted] at rest
            cases rest
        | ok live =>
            rw [accepted] at rest
            cases rest
            rfl
      subst same
      rw [fetched?, registered, Option.bind_some, fetched]

/-- What a restore came to is accounted for. -/
theorem restore_accounts (store : Store δ) (segment : Segment) :
    (restore segment : Action (Store δ) ε LoadOutcome).Concludes store
      (fun outcome after => ∃ told,
        Accounts told (store.featsOfRestoring segment outcome) store after)
      (fun after => Accounts [] [] store after) := by
  have untold := loadSegment_untold segment store
  rw [Action.Concludes]
  rcases loads : loadSegment segment store with ⟨payload | reason | _, reached⟩
  · rw [loads] at untold
    obtain ⟨events, stats⟩ := Prod.mk.inj untold
    have tried : ((loadSegment segment).attempt : Action (Store δ) ε _) store =
        (.value (.ok payload), reached) := by
      rw [Action.attempt, loads]
    have fetched := fetched?_of_loaded loads
    rw [restore, Action.bind_of_value tried]
    refine ⟨[.restored segment], ?_⟩
    have single : store.featsOfRestoring segment .restored = [.restored segment payload] := by
      rw [featsOfRestoring, fetched]
      rfl
    rw [single]
    refine ⟨?_, ?_, rfl, rfl⟩
    · show reached.events ++ _ = _
      rw [events]
    · rw [← stats]
      rfl
  · rw [loads] at untold
    obtain ⟨events, stats⟩ := Prod.mk.inj untold
    rw [restore_of_error loads]
    refine ⟨[.lost segment reason], by rw [noteLost, events], ?_, rfl, rfl⟩
    rw [noteLost, ← stats]
    rfl
  · rw [loads] at untold
    obtain ⟨events, stats⟩ := Prod.mk.inj untold
    have tried : ((loadSegment segment).attempt : Action (Store δ) ε _) store =
        (.trap, reached) := by
      rw [Action.attempt, loads]
    rw [restore, Action.bind_of_trap tried]
    exact .of_same events stats

/-- So are the outcomes of restoring a list of segments, up to a trap. -/
theorem restoreEach_accounts (listed : List Segment) (store : Store δ) :
    (restoreEach listed : Action (Store δ) StoreError _).Reaches store
      fun after => ∃ told, Accounts told (store.featsOfRestoringEach listed) store after := by
  induction listed generalizing store with
  | nil =>
      rw [restoreEach_nil]
      exact ⟨[], .of_same rfl rfl⟩
  | cons segment rest ih =>
      have first := restore_accounts (ε := StoreError) store segment
      rw [Action.Concludes] at first
      rw [restoreEach_cons, featsOfRestoringEach]
      rcases ended : (restore segment store : Outcome StoreError LoadOutcome × Store δ) with
        ⟨outcome | cause | _, next⟩
      · rw [ended] at first
        obtain ⟨told, accounts⟩ := first
        refine .value_bind ended (.bind ((ih next).mono fun after others => ?_) fun _ _ _ whole =>
          .pure whole)
        obtain ⟨further, later⟩ := others
        exact ⟨told ++ further, accounts.trans later⟩
      · rw [ended] at first
        rw [Action.Reaches, Action.bind_of_error ended]
        exact ⟨[], first⟩
      · rw [ended] at first
        rw [Action.Reaches, Action.bind_of_trap ended]
        exact ⟨[], first⟩

theorem restoreAll_accounts (store : Store δ) :
    (restoreAll : Action (Store δ) StoreError _).Reaches store
      fun after => ∃ told,
        Accounts told (store.featsOfRestoringEach store.registered) store after :=
  .get_bind (restoreEach_accounts store.registered store)

/-! ## The other calls -/

/-- Only an erase that succeeds is accounted for. -/
theorem eraseSegment_accounts (store : Store δ) (segment : Segment) :
    (eraseSegment segment).Concludes store
      (fun _ after => Accounts [] [.erased segment] store after)
      (fun after => Accounts [] [] store after) := by
  have untold : (onDriver (SegmentDriver.eraseSegment segment)).Reaches store
      fun after => after.events = store.events ∧ after.stats = store.stats := ⟨rfl, rfl⟩
  refine .bind ((Action.Concludes.of_reaches untold fun _ _ _ => trivial).mono
    (fun _ _ => And.left) fun _ same => .of_same same.1 same.2) fun _ last same => ?_
  refine ⟨same.1.trans (List.append_nil _).symm, ?_, rfl, rfl⟩
  show ({ last.stats with erases := _ } : Stats) = _
  rw [same.2]
  rfl

/-- Asking the driver for ranges is not accounted for. -/
theorem ensureMapped_untold :
    Action.Leaves (fun store : Store δ => (store.events, store.stats))
      (ensureMapped : Action (Store δ) StoreError (List MapEntry)) := by
  refine .bind .get fun store => ?_
  induction store.registered with
  | nil => exact .pure _
  | cons segment rest ih =>
      rw [List.mapM_cons]
      exact .bind (fun _ => rfl) fun _ => .bind ih fun _ => .pure _

end Store

/-! ## Runs -/

/-- What can be done with a store, and what can happen to its device. -/
inductive Activity (δ : Type) where
  | occurs (occurrence : Occurrence δ)
  | restoreAll
  | inspect (segment : Segment)
  | ensureMapped
  | setAppSignature (appSignature : UInt32)

namespace Store

variable {δ : Type} [BlockDevice δ]

/-- The store after an activity, whatever it came to. -/
def perform (store : Store δ) : Activity δ → Store δ
  | .occurs (.register segment codec live) => store.register segment codec live
  | .occurs (.setLive segment live) => store.setLive segment live
  | .occurs (.markDirty segment) => store.markDirty segment
  | .occurs (.advanceClock millis) => store.advanceClock millis
  | .occurs (.setClock millis) => store.setClock millis
  | .occurs .forceCommit => (forceCommit store : Outcome StoreError Bool × _).2
  | .occurs .commitCheck => (commitCheck store : Outcome StoreError CommitReport × _).2
  | .occurs (.store segment) => (storeSegment segment store).2
  | .occurs (.restore segment) => (restore segment store : Outcome StoreError LoadOutcome × _).2
  | .occurs (.erase segment) => (eraseSegment segment store).2
  | .occurs (.setGuardBand millis) => store.setGuardBandMillis millis
  | .occurs (.disturb change) =>
    { store with driver := { store.driver with device := change store.driver.device } }
  | .restoreAll => (restoreAll store : Outcome StoreError _ × _).2
  | .inspect segment => (inspect segment store).2
  | .ensureMapped => (ensureMapped store).2
  | .setAppSignature appSignature => store.setAppSignature appSignature

/-- What an activity came to, as its result tells. Of a check that ends in a trap there is no
report, but the store has told which segments it stored before the trap. -/
def feats (store : Store δ) : Activity δ → List Feat
  | .occurs .commitCheck =>
    match (commitCheck store : Outcome StoreError CommitReport × _) with
    | (.value report, _) =>
      if report.performed then .passed :: report.stored.flatMap store.featsOfStoring else []
    | (_, after) => .passed :: (store.storedSince after).flatMap store.featsOfStoring
  | .occurs (.store segment) =>
    match storeSegment segment store with
    | (.value (), _) => store.featsOfStoring segment
    | _ => []
  | .occurs (.restore segment) =>
    match (restore segment store : Outcome StoreError LoadOutcome × _) with
    | (.value outcome, _) => store.featsOfRestoring segment outcome
    | _ => []
  | .occurs (.erase segment) =>
    match eraseSegment segment store with
    | (.value (), _) => [.erased segment]
    | _ => []
  | .restoreAll => store.featsOfRestoringEach store.registered
  | _ => []

end Store

/-- A store, and the account of what its calls came to. -/
structure Account (δ : Type) where
  store : Store δ
  feats : List Feat

namespace Account

variable {δ : Type}

/-- A new store. -/
def start (device : δ) (config : Config) (clock : Clock) : Account δ where
  store := .start device config clock
  feats := []

variable [BlockDevice δ]

/-- The account after one activity. -/
def step (account : Account δ) (activity : Activity δ) : Account δ where
  store := account.store.perform activity
  feats := account.feats ++ account.store.feats activity

/-- The account after a run. -/
def run (account : Account δ) (activities : List (Activity δ)) : Account δ :=
  activities.foldl step account

end Account

/-- Every activity is accounted for. -/
theorem Store.perform_accounts {δ : Type} [BlockDevice δ] (store : Store δ)
    (activity : Activity δ) :
    ∃ told, Accounts told (store.feats activity) store (store.perform activity) := by
  cases activity with
  | occurs occurrence =>
      cases occurrence with
      | register | markDirty | advanceClock | setClock | setGuardBand | disturb =>
          exact ⟨[], .of_same rfl rfl⟩
      | setLive segment live =>
          refine ⟨[], ?_⟩
          rw [perform, setLive]
          split <;> exact .of_same rfl rfl
      | forceCommit =>
          refine ⟨[], ?_⟩
          rw [perform, forceCommit_eq]
          exact .of_same rfl rfl
      | commitCheck =>
          have concludes := commitCheck_accounts (ε := StoreError) store
          rw [Action.Concludes] at concludes
          rw [perform, feats]
          rcases ended : (commitCheck store : Outcome StoreError CommitReport × _) with
            ⟨report | cause | _, after⟩ <;> rw [ended] at concludes <;> exact concludes
      | store segment =>
          have concludes := storeSegment_puts store segment
          rw [Action.Concludes] at concludes
          rw [perform, feats]
          rcases ended : storeSegment segment store with ⟨_ | cause | _, after⟩ <;>
            rw [ended] at concludes <;> obtain ⟨told, accounts, -⟩ := concludes.accounts
          · refine ⟨told, ?_⟩
            rwa [List.flatMap_singleton] at accounts
          · exact ⟨told, accounts⟩
          · exact ⟨told, accounts⟩
      | restore segment =>
          have concludes := restore_accounts (ε := StoreError) store segment
          rw [Action.Concludes] at concludes
          rw [perform, feats]
          rcases ended : (restore segment store : Outcome StoreError LoadOutcome × _) with
            ⟨outcome | cause | _, after⟩ <;> rw [ended] at concludes
          · exact concludes
          · exact ⟨[], concludes⟩
          · exact ⟨[], concludes⟩
      | erase segment =>
          have concludes := eraseSegment_accounts store segment
          rw [Action.Concludes] at concludes
          rw [perform, feats]
          rcases ended : eraseSegment segment store with ⟨_ | cause | _, after⟩ <;>
            rw [ended] at concludes <;> exact ⟨[], concludes⟩
  | restoreAll => exact restoreAll_accounts store
  | inspect segment => exact ⟨[], .of_same rfl rfl⟩
  | ensureMapped =>
      have untold := ensureMapped_untold store
      exact ⟨[], .of_same (congrArg Prod.fst untold) (congrArg Prod.snd untold)⟩
  | setAppSignature appSignature => exact ⟨[], .of_same rfl rfl⟩

namespace Account

variable {δ : Type} [BlockDevice δ]

/-- The events and the feats of a run account for the counts. -/
private theorem run_accounts (before : Account δ) (activities : List (Activity δ)) :
    ∃ told feats, (before.run activities).feats = before.feats ++ feats ∧
      Store.Accounts told feats before.store (before.run activities).store := by
  induction activities generalizing before with
  | nil => exact ⟨[], [], (List.append_nil _).symm, .of_same rfl rfl⟩
  | cons activity rest ih =>
      obtain ⟨told, first⟩ := before.store.perform_accounts activity
      obtain ⟨further, feats, noted, later⟩ := ih (before.step activity)
      refine ⟨told ++ further, before.store.feats activity ++ feats, ?_, first.trans later⟩
      exact noted.trans (List.append_assoc ..)

/-- After every run the counts of a store are those of the events that it has told and of what its
calls came to. What it has told to be stored or restored is what was stored or restored, in
order. -/
theorem stats_of_run (device : δ) (config : Config) (clock : Clock)
    (activities : List (Activity δ)) :
    let account := (start device config clock).run activities
    account.store.stats = .of account.store.events account.feats ∧
      account.store.events.filterMap Event.stored? =
        (account.feats.filterMap Feat.stored?).map Prod.fst ∧
      account.store.events.filterMap Event.restored? =
        (account.feats.filterMap Feat.restored?).map Prod.fst := by
  intro account
  obtain ⟨told, feats, noted, accounts⟩ := run_accounts (start device config clock) activities
  have events : account.store.events = told := accounts.events
  have noted : account.feats = feats := noted
  have stats : account.store.stats = ({} : Stats) + .of told feats := accounts.stats
  rw [events, noted, stats]
  exact ⟨Stats.nil_add _, accounts.stored, accounts.restored⟩

/-- A segment of two bytes is stored and restored. -/
def storedAndRestored : List (Activity MemoryFlash) :=
  [.occurs (.register .applicationData (.blob 8 none .full) [7, 9]),
    .occurs (.store .applicationData), .occurs (.restore .applicationData)]

/-- Storing is not counted as an erase, and of what is read the header is not counted. -/
theorem uncounted_of_run :
    let account := (start Life.blankSampleChip {} {}).run storedAndRestored
    account.feats = [.stored .applicationData [7, 9], .restored .applicationData [7, 9]] ∧
      account.store.stats.erases ≠ (account.feats.filterMap Feat.stored?).length +
        (account.feats.filterMap Feat.erased?).length ∧
      account.store.stats.bytesRead ≠
        ((account.feats.filterMap Feat.restored?).map (Header.size + ·.2.length)).sum := by
  decide +kernel

end Account

end NorStore
