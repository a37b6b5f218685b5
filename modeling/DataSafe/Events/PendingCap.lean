import DataSafe.Events.DeliveryOrder

/-!
# Dropped rows and the cap

An insert at the cap marks the oldest pending rows dropped.  The dispatcher may
hold a copy of such a row, and saves it without looking at the stored one: a
dropped row is then pending or delivered again.  While no copy of a dropped
row is saved, a row that was dropped stays so until it is purged.  The cap
holds after every insert.
-/

namespace DataSafe.Events

open Base Metadata

/-! ## Copies -/

@[simp]
theorem aggregateStatus_id (record : OutboxRecord) (now : Time) :
    (aggregateStatus record now).id = record.id := by
  unfold aggregateStatus
  split_ifs <;> rfl

@[simp]
theorem OutboxRecord.published_id
    (row : OutboxRecord) (config : DispatcherConfig) (now : Time)
    (name : String) (result : PublishResult) :
    (row.published config now name result).id = row.id := by
  unfold published
  split <;> rfl

@[simp]
theorem Delivery.visit_id
    (delivery : Delivery) (config : DispatcherConfig) (store : Outbox)
    (sinks : List String) (now : Time) (name : String)
    (result : PublishResult) :
    (delivery.visit config store sinks now name result).row.id =
      delivery.row.id := by
  unfold visit
  split_ifs
  · exact OutboxRecord.published_id _ _ _ _ _
  · rfl

theorem Tick.mem_copies {tick : Tick} {copy : OutboxRecord} :
    copy ∈ tick.copies ↔ copy ∈ tick.todo ∨
      ∃ delivery, tick.current = some delivery ∧ delivery.row = copy := by
  simp [copies]

variable {process : Process} {action : Action} {id : String}

namespace Process

/-- The process holds a copy of a row with the id. -/
def Holds (process : Process) (id : String) : Prop :=
  ∃ tick, process.tick = some tick ∧ ∃ copy ∈ tick.copies, copy.id = id

/-- A copy was held before, or has just been listed. -/
theorem holds_step
    {config : DispatcherConfig}
    (held : (process.step config action).Holds id) :
    process.Holds id ∨ ∃ row, process.store.primary.get id = some row := by
  obtain ⟨tick, found, copy, member, rfl⟩ := held
  replace found : process.nextTick config action = some tick := found
  rw [Tick.mem_copies] at member
  cases before : process.tick with
  | none =>
    cases action with
    | list now sinks =>
      simp only [nextTick, before, Option.some.injEq] at found
      subst found
      rcases member with listed | ⟨delivery, absent, _⟩
      · exact .inr ⟨copy, (Outbox.mem_listDue listed).1⟩
      · cases absent
    | _ =>
      simp only [nextTick, before] at found
      cases found
  | some old =>
    have holds : ∀ row, row ∈ old.todo ∨
        (∃ delivery, old.current = some delivery ∧ delivery.row = row) →
        process.Holds row.id := fun row listed =>
      ⟨old, before, row, Tick.mem_copies.mpr listed, rfl⟩
    left
    cases action with
    | take =>
      simp only [nextTick, before] at found
      split at found
      · next row todo idle waiting =>
          split_ifs at found
          all_goals
            cases found
            rcases member with listed | ⟨delivery, current, same⟩
          · exact holds copy (.inl (waiting ▸ .tail _ listed))
          · cases current
            exact holds copy (.inl (waiting ▸ same ▸ .head _))
          · exact holds copy (.inl (waiting ▸ .tail _ listed))
          · exact holds copy (.inr ⟨delivery, current, same⟩)
      · cases found
      · cases found
        exact holds copy member
    | visit name result =>
      simp only [nextTick, before, Option.some.injEq] at found
      subst found
      rcases member with listed | ⟨delivery, current, same⟩
      · exact holds copy (.inl listed)
      · obtain ⟨earlier, was, rfl⟩ := Option.map_eq_some_iff.mp current
        have sameID : earlier.row.id = copy.id := by
          rw [← same]
          split_ifs
          · rfl
          · exact (Delivery.visit_id _ _ _ _ _ _ _).symm
        exact sameID ▸ holds earlier.row (.inr ⟨earlier, was, rfl⟩)
    | finish saved =>
      simp only [nextTick, before, Option.some.injEq] at found
      subst found
      rcases member with listed | ⟨delivery, current, same⟩
      · exact holds copy (.inl listed)
      · exact holds copy (.inr
          ⟨delivery, (Option.filter_eq_some_iff.mp current).1, same⟩)
    | abandon =>
      simp only [nextTick, before, Option.some.injEq] at found
      subst found
      rcases member with listed | ⟨delivery, absent, _⟩
      · exact holds copy (.inl listed)
      · cases absent
    | stop => cases found
    | _ =>
      simp only [nextTick, before, Option.some.injEq] at found
      subst found
      exact holds copy member

theorem saving_holds
    {copy : OutboxRecord}
    (saved : process.saving action = some copy) : process.Holds copy.id := by
  unfold saving at saved
  split at saved
  · simp only [Option.bind_eq_some_iff] at saved
    obtain ⟨tick, found, delivery, current, done⟩ := saved
    split_ifs at done
    unfold Delivery.saving at done
    split_ifs at done
    cases done
    exact ⟨tick, found, delivery.row,
      Tick.mem_copies.mpr (.inr ⟨delivery, current, rfl⟩), by simp⟩
  · cases saved

/-- A row leaves the store only by a purge between two ticks. -/
theorem stored_step
    (config : DispatcherConfig) (action : Action) {row : OutboxRecord}
    (stored : process.store.primary.get id = some row) :
    (∃ later,
        (process.step config action).store.primary.get id = some later) ∨
      row ∈ (process.step config action).purged ∧
        (process.step config action).tick = none ∧
        (process.step config action).store.primary.get id = none := by
  have change := process.step_store config action
  generalize result : process.step config action = next at change ⊢
  generalize next_store : next.store = store at change ⊢
  cases change with
  | same => exact .inl ⟨row, stored⟩
  | insert event maxPending now newID record made =>
    rcases process.store.get_insert maxPending now newID record id with
      ⟨_, new⟩ | ⟨_, kept | ⟨_, dropped, _, _, now⟩⟩
    · exact .inl ⟨_, new⟩
    · exact .inl ⟨row, kept.trans stored⟩
    · exact .inl ⟨dropped, now⟩
  | purge status before idle =>
    rw [Outbox.get_purge, stored]
    cases ended : Outbox.expired status before row with
    | false => exact .inl ⟨row, by simp [ended]⟩
    | true =>
      refine .inr ⟨?_, ?_, by simp [ended]⟩
      · rw [← result]
        simp only [step, idle]
        refine List.mem_append_left _ (List.mem_filter.mpr ⟨?_, ended⟩)
        rw [Outbox.mem_rows_iff, process.store.row_id id row stored]
        exact stored
      · rw [← result]
        simp [step, nextTick, idle]
  | save action copy saved =>
    rw [Outbox.get_save]
    split_ifs
    · exact .inl ⟨copy, rfl⟩
    · exact .inl ⟨row, stored⟩

/-- The rows that a tick holds copies of are stored. -/
def CopiesStored (process : Process) : Prop :=
  ∀ id, process.Holds id → ∃ row, process.store.primary.get id = some row

theorem CopiesStored.step
    (copies : process.CopiesStored)
    (config : DispatcherConfig) (action : Action) :
    (process.step config action).CopiesStored := by
  intro id held
  have stored : ∃ row, process.store.primary.get id = some row :=
    (holds_step held).elim (copies id) (fun listed => listed)
  obtain ⟨row, found⟩ := stored
  rcases stored_step config action found with
    later | ⟨_, idle, _⟩
  · exact later
  · obtain ⟨tick, running, _⟩ := held
    rw [idle] at running
    cases running

theorem copiesStored_run (config : DispatcherConfig) (actions : List Action) :
    (runAll (step config) initial actions).CopiesStored :=
  runAll_invariant (by rintro id ⟨tick, running, _⟩; cases running)
    (fun _ action copies => copies.step config action) actions

/-! ## Dropped rows -/

/-- A row has the id, or had it before it was purged. -/
def Uses (process : Process) (id : String) : Prop :=
  (process.store.primary.get id).isSome = true ∨
    ∃ row ∈ process.purged, row.id = id

/--
The action does not save the copy of a row that is stored as dropped, and a
new row has an id that was not used before.
-/
def KeepsDropped (process : Process) (action : Action) : Prop :=
  (∀ copy ∈ process.saving action,
      ∀ row ∈ process.store.primary.get copy.id, row.status ≠ .dropped) ∧
    ∀ record ∈ action.inserted, ¬process.Uses record.id

instance (process : Process) (id : String) : Decidable (process.Uses id) := by
  unfold Uses
  infer_instance

instance (process : Process) (action : Action) :
    Decidable (process.KeepsDropped action) := by
  unfold KeepsDropped
  infer_instance

/-- The row is stored as dropped, or was purged. -/
def Buried (process : Process) (id : String) : Prop :=
  (∃ row, process.store.primary.get id = some row ∧ row.status = .dropped) ∨
    process.store.primary.get id = none ∧ ∃ row ∈ process.purged, row.id = id

theorem purged_step
    (config : DispatcherConfig) (process : Process) (action : Action)
    {row : OutboxRecord} (purged : row ∈ process.purged) :
    row ∈ (process.step config action).purged := by
  cases action with
  | purge status before =>
    simp only [step]
    split_ifs
    · exact List.mem_append_right _ purged
    · exact purged
  | _ => exact purged

theorem Buried.uses
    (buried : process.Buried id) :
    process.Uses id := by
  rcases buried with ⟨row, stored, _⟩ | ⟨_, gone⟩
  · exact .inl (by simp [stored])
  · exact .inr gone

theorem Buried.step
    (buried : process.Buried id) (copies : process.CopiesStored)
    (config : DispatcherConfig) (keeps : process.KeepsDropped action) :
    (process.step config action).Buried id := by
  have change := process.step_store config action
  have purged : ∀ row ∈ process.purged,
      row ∈ (process.step config action).purged := fun row member =>
    purged_step config process action member
  have unchanged : (process.step config action).store.primary.get id =
      process.store.primary.get id →
      (process.step config action).Buried id := by
    intro same
    rcases buried with ⟨row, stored, dropped⟩ | ⟨absent, row, gone, rowID⟩
    · exact .inl ⟨row, same.trans stored, dropped⟩
    · exact .inr ⟨same.trans absent, row, purged row gone, rowID⟩
  generalize next_store : (process.step config action).store = store at change
  rw [next_store] at unchanged
  cases change with
  | same => exact unchanged rfl
  | insert event maxPending now newID record made =>
    rcases process.store.get_insert maxPending now newID record id with
      ⟨sameID, _⟩ | ⟨_, kept | ⟨row, dropped, _, marked, found⟩⟩
    · -- The id of a new row is not that of a row that was dropped.
      have fresh := keeps.2 (normalizeOutbox record now newID)
        (by simp [Action.inserted, made])
      exact absurd (sameID ▸ buried.uses) fresh
    · exact unchanged kept
    · obtain ⟨_, _, rfl⟩ := marked
      exact .inl ⟨_, next_store ▸ found, rfl⟩
  | purge status before idle =>
    rcases buried with ⟨row, stored, dropped⟩ | ⟨absent, _⟩
    · rcases stored_step config (.purge status before) stored with
        ⟨later, found⟩ | gone
      · have same : later = row := by
          rw [next_store, Outbox.get_purge, stored] at found
          exact (Option.some.inj (Option.filter_eq_some_iff.mp found).1).symm
        exact .inl ⟨later, found, same ▸ dropped⟩
      · exact .inr ⟨gone.2.2, row, gone.1, process.store.row_id id row stored⟩
    · exact unchanged (by rw [Outbox.get_purge, absent]; rfl)
  | save action copy saved =>
    obtain ⟨row, stored⟩ := copies copy.id (saving_holds saved)
    have other : id ≠ copy.id := by
      rintro rfl
      rcases buried with ⟨found, here, dropped⟩ | ⟨absent, _⟩
      · exact keeps.1 copy saved found here dropped
      · rw [absent] at stored
        cases stored
    exact unchanged (by rw [Outbox.get_save, if_neg other])

theorem Buried.run
    {config : DispatcherConfig} {actions : List Action}
    (buried : process.Buried id) (copies : process.CopiesStored)
    (guarded : Guarded (Process.step config) KeepsDropped process actions) :
    (runAll (Process.step config) process actions).Buried id := by
  refine (guarded.invariant
    (motive := fun process => process.Buried id ∧ process.CopiesStored)
    ⟨buried, copies⟩ ?_).1
  intro process action held keeps
  exact ⟨held.1.step held.2 config keeps, held.2.step config action⟩

/-- After an insert under a cap no more rows are pending than it allows. -/
theorem countPending_step
    (config : DispatcherConfig) (process : Process) {event : NewEvent}
    (named : event.sinks ≠ []) {maxPending : Nat} (capped : 0 < maxPending)
    (now : Time) (newID : String) :
    (process.step config (.insert event maxPending now
      newID)).store.countPending ≤ maxPending := by
  have made : ∃ record, event.outboxRecord = some record := by
    simp [NewEvent.outboxRecord, named]
  obtain ⟨record, made⟩ := made
  simp only [step, nextStore, made]
  exact Outbox.countPending_insert process.store capped now newID record

end Process

/--
In a run that saves no copy of a dropped row, a row that was dropped is
dropped in every later state that stores it; and whatever a run did, an insert
under a cap leaves no more rows pending than the cap allows.
-/
theorem dropped_stays_dropped_and_cap_holds
    (config : DispatcherConfig) (front rest : List Action) :
    (Guarded (Process.step config) Process.KeepsDropped Process.initial
        (front ++ rest) →
      ∀ id row, (runAll (Process.step config) Process.initial
          front).store.primary.get id = some row →
        row.status = .dropped →
        ∀ later, (runAll (Process.step config) Process.initial
            (front ++ rest)).store.primary.get id = some later →
          later.status = .dropped) ∧
      ∀ event maxPending now newID, event.sinks ≠ [] → 0 < maxPending →
        ((runAll (Process.step config) Process.initial
          (front ++ rest)).step config (.insert event maxPending now
            newID)).store.countPending ≤ maxPending := by
  constructor
  · intro guarded id row stored dropped later found
    have buried := Process.Buried.run (.inl ⟨row, stored, dropped⟩)
      (Process.copiesStored_run config front) guarded.rest
    rw [← runAll_append] at buried
    rcases buried with ⟨kept, here, status⟩ | ⟨absent, _⟩
    · rw [here] at found
      cases found
      exact status
    · rw [absent] at found
      cases found
  · intro event maxPending now newID named capped
    exact Process.countPending_step config _ named capped now newID

/-- One row is allowed; it is dropped while the tick publishes it. -/
def droppedWhilePublished : List Action :=
  [.insert (createdEvent "01" "report" 1) 1 1 "",
    .list 2 ["kafka"], .take, .visit "kafka" .ok,
    .insert (createdEvent "02" "photo" 3) 1 3 ""]

/-- The copy of a row that was dropped is saved as delivered. -/
theorem dropped_row_is_delivered :
    ((runAll (Process.step defaultConfig) Process.initial
        droppedWhilePublished).store.primary.get "01").map
          OutboxRecord.status = some .dropped ∧
      ((runAll (Process.step defaultConfig) Process.initial
        (droppedWhilePublished ++ [.finish true])).store.primary.get "01").map
          OutboxRecord.status = some .delivered := by
  decide

/-- A row is dropped before the tick lists the other one. -/
def droppedBeforeTick : List Action :=
  [.insert (createdEvent "01" "report" 1) 1 1 "",
    .insert (createdEvent "02" "photo" 3) 1 3 ""]

/-- The tick that follows saves the row that was not dropped. -/
theorem dropped_stays_dropped_beside_delivery :
    ∃ row later, (runAll (Process.step defaultConfig) Process.initial
        droppedBeforeTick).store.primary.get "01" = some row ∧
      (runAll (Process.step defaultConfig) Process.initial
        (droppedBeforeTick ++ [.list 4 ["kafka"], .take, .visit "kafka" .ok,
          .finish true])).store.primary.get "01" = some later ∧
      later.status = .dropped := by
  have stored : ((runAll (Process.step defaultConfig) Process.initial
      droppedBeforeTick).store.primary.get "01").isSome = true := by
    decide
  have kept : ((runAll (Process.step defaultConfig) Process.initial
      (droppedBeforeTick ++ [.list 4 ["kafka"], .take, .visit "kafka" .ok,
        .finish true])).store.primary.get "01").isSome = true := by
    decide
  obtain ⟨row, found⟩ := Option.isSome_iff_exists.mp stored
  obtain ⟨later, there⟩ := Option.isSome_iff_exists.mp kept
  have dropped : row.status = .dropped := by
    have all : ∀ row ∈ (runAll (Process.step defaultConfig) Process.initial
        droppedBeforeTick).store.primary.get "01", row.status = .dropped := by
      decide
    exact all row found
  exact ⟨row, later, found, there,
    (dropped_stays_dropped_and_cap_holds defaultConfig droppedBeforeTick _).1
      (by decide) "01" row found dropped later there⟩

end DataSafe.Events
