import DataSafe.Events.PendingCap

/-!
# The books of the dispatcher

A row counts the attempts of each of its sinks, and its own status and time
are computed from theirs by a fold that takes a zero time for "none yet".
What one publication does to a row, whatever its result, keeps the counts
below the limit and the times away from zero; so the fold is a minimum, and a
row is due no later than any of its pending sinks.

An invariant of rows is stated once, as a rule of what `deliver` and the cap
do to a row, and holds then of every stored row and of every copy of a tick.
-/

namespace DataSafe.Events

open Base Metadata

/-! ## Rows -/

/--
The attempt is within the limit; while it is pending another failure is
allowed, its time is a real one, and the row is due by then.
-/
def SinkAttempt.Booked (attempt : SinkAttempt) (config : DispatcherConfig)
    (next : Time) : Prop :=
  attempt.attempts ≤ config.maxAttempts ∧ (attempt.stillPending = true →
      attempt.attempts < config.maxAttempts ∧
        zeroTime < attempt.nextAttemptAt ∧ next ≤ attempt.nextAttemptAt)

def OutboxRecord.Booked (row : OutboxRecord) (config : DispatcherConfig) :
    Prop :=
  ∀ name attempt, row.attempts.get name = some attempt →
    attempt.Booked config row.nextAttemptAt

/-- The row, if it has the id, has the sink delivered or dead, as stated. -/
def OutboxRecord.Keeps (row : OutboxRecord) (id sink : String)
    (status : AttemptStatus) : Prop :=
  row.id = id → ∃ attempt, row.attempts.get sink = some attempt ∧
      attempt.stillPending = false ∧ attempt.status = status

/-- The status that the attempts of a row call for. -/
structure OutboxRecord.Summed (row : OutboxRecord) : Prop where
  pending_iff : row.status = .pending ↔
    ∃ name attempt, row.attempts.get name = some attempt ∧
      attempt.stillPending = true
  dead_iff : row.status = .dead ↔
    (∀ name attempt, row.attempts.get name = some attempt →
      attempt.stillPending = false) ∧
    ∃ name attempt, row.attempts.get name = some attempt ∧
      attempt.status = .dead

/-- What `deliver` and the cap do to a row keeps the property. -/
structure RowRule (config : DispatcherConfig)
    (property : OutboxRecord → Prop) : Prop where
  dropped : ∀ row dropped, Outbox.Dropped row dropped → property row →
    property dropped
  published : ∀ store sinks now row name result, zeroTime < now →
    ready store sinks now row name = true → property row →
    property (row.published config now name result)
  aggregated : ∀ row now, property row → property (aggregateStatus row now)

/-! ### Publishing -/

variable {now : Time} {row copy : OutboxRecord} {attempt : SinkAttempt}
  {config : DispatcherConfig} {action : Action} {id sink : String}
  {process : Process}

theorem ready_pending
    {store : Outbox} {sinks : List String} {name : String}
    (allowed : ready store sinks now row name = true) :
    ∃ attempt, row.attempts.get name = some attempt ∧
      attempt.stillPending = true ∧ attempt.nextAttemptAt ≤ now := by
  simp only [ready, Bool.and_eq_true, Option.any_eq_true] at allowed
  rcases allowed with ⟨⟨⟨attempt, named, pending, due⟩, _⟩, _⟩
  exact ⟨attempt, named, pending, by simpa using due⟩

/-- A retry is later than the tick that it failed in. -/
theorem retry_delay_pos (count jitter : Int) (retryAfter : Option Time) :
    0 < min (max (backoffDuration count jitter)
      (retryAfter.getD (backoffDuration count jitter))) maxBackoff := by
  have limit : 0 < maxBackoff := by decide
  have least : 0 < 100 * millisecond := by decide
  have positive : 0 < backoffDuration count jitter :=
    Int.lt_min.mpr ⟨Int.lt_of_lt_of_le least (Int.le_max_right _ _), limit⟩
  exact Int.lt_min.mpr
    ⟨Int.lt_of_lt_of_le positive (Int.le_max_left _ _), limit⟩

/-- An attempt that was due stays within the books, whatever the result. -/
theorem SinkAttempt.Booked.published
    {later : SinkAttempt} {next : Time} {result : PublishResult}
    (booked : attempt.Booked config next)
    (pending : attempt.stillPending = true)
    (due : attempt.nextAttemptAt ≤ now)
    (made : attempt.published config now result = some later) :
    later.Booked config next := by
  rcases booked.2 pending with ⟨below, real, listed⟩
  cases result with
  | ok =>
    cases made
    exact ⟨Int.le_of_lt below, fun still => by simp [stillPending] at still⟩
  | canceled => cases made
  | terminal error =>
    cases made
    exact ⟨below, fun still => by simp [stillPending] at still⟩
  | failed error retryAfter jitter =>
    simp only [SinkAttempt.published] at made
    split_ifs at made with exhausted
    · cases made
      exact ⟨below, fun still => by simp [stillPending] at still⟩
    · cases made
      have positive :=
        retry_delay_pos (attempt.attempts + 1) jitter retryAfter
      have later := Int.le_trans due
        (Int.le_add_of_nonneg_right (Int.le_of_lt positive))
      exact ⟨below, fun _ => ⟨Int.not_le.mp exhausted,
        Int.lt_of_lt_of_le real later, Int.le_trans listed later⟩⟩

theorem OutboxRecord.published_cases
    (row : OutboxRecord) (config : DispatcherConfig) (now : Time)
    (name : String) (result : PublishResult) :
    row.published config now name result = row ∨
      ∃ attempt later, row.attempts.get name = some attempt ∧
        attempt.published config now result = some later ∧
        row.published config now name result =
          { row with attempts := row.attempts.put name later } := by
  unfold OutboxRecord.published
  split
  · next later found =>
      rcases Option.bind_eq_some_iff.mp found with ⟨attempt, named, made⟩
      exact .inr ⟨attempt, later, named, made, rfl⟩
  · exact .inl rfl

/-! ### The fold of the row's time -/

/-- While no time is zero, the fold is the least of them. -/
theorem foldl_earlierAttempt
    (attempts : List SinkAttempt) (next : Time)
    (real : ∀ attempt ∈ attempts, zeroTime < attempt.nextAttemptAt)
    (start : zeroTime ≤ next) :
    zeroTime ≤ attempts.foldl earlierAttempt next ∧
      (next ≠ zeroTime → attempts.foldl earlierAttempt next ≠ zeroTime ∧
        attempts.foldl earlierAttempt next ≤ next) ∧
      ∀ attempt ∈ attempts, attempts.foldl earlierAttempt next ≠ zeroTime ∧
          attempts.foldl earlierAttempt next ≤ attempt.nextAttemptAt := by
  induction attempts generalizing next with
  | nil => exact ⟨start, fun other => ⟨other, Int.le_refl _⟩, by simp⟩
  | cons head attempts induction =>
    have headReal := real head (.head _)
    have taken : zeroTime < earlierAttempt next head ∧
        earlierAttempt next head ≤ head.nextAttemptAt ∧
        (next ≠ zeroTime → earlierAttempt next head ≤ next) := by
      simp only [earlierAttempt, Bool.or_eq_true, decide_eq_true_eq]
      split_ifs with first
      · refine ⟨headReal, Int.le_refl _, fun other => ?_⟩
        exact Int.le_of_lt (first.resolve_left other)
      · rcases not_or.mp first with ⟨other, before⟩
        exact ⟨lt_of_le_of_ne start (Ne.symm other), Int.not_lt.mp before,
          fun _ => Int.le_refl _⟩
    rcases induction (earlierAttempt next head)
      (fun attempt member => real attempt (.tail _ member))
      (Int.le_of_lt taken.1) with ⟨least, onward, others⟩
    have bound := onward (Int.ne_of_gt taken.1)
    refine ⟨least, fun other => ⟨bound.1, ?_⟩, ?_⟩
    · exact Int.le_trans bound.2 (taken.2.2 other)
    · intro attempt member
      rcases List.mem_cons.mp member with rfl | member
      · exact ⟨bound.1, Int.le_trans bound.2 taken.2.1⟩
      · exact others attempt member

theorem OutboxRecord.mem_openAttempts :
    attempt ∈ row.openAttempts ↔ ∃ name,
      row.attempts.get name = some attempt ∧
        attempt.stillPending = true := by
  simp only [openAttempts, List.mem_filter, List.mem_map, Prod.exists,
    exists_eq_right, Table.mem_entries_iff, exists_and_right]

theorem aggregateStatus_attempts (row : OutboxRecord) (now : Time) :
    (aggregateStatus row now).attempts = row.attempts := by
  unfold aggregateStatus
  split_ifs <;> rfl

theorem OutboxRecord.Booked.aggregated
    (booked : row.Booked config) (now : Time) :
    (aggregateStatus row now).Booked config := by
  intro name attempt named
  rw [aggregateStatus_attempts] at named
  have kept := booked name attempt named
  refine ⟨kept.1, fun pending => ?_⟩
  rcases kept.2 pending with ⟨below, timed, listed⟩
  refine ⟨below, timed, ?_⟩
  have opened : attempt ∈ row.openAttempts :=
    OutboxRecord.mem_openAttempts.mpr ⟨name, named, pending⟩
  have real : ∀ other ∈ row.openAttempts,
      zeroTime < other.nextAttemptAt := by
    intro other member
    rcases OutboxRecord.mem_openAttempts.mp member with ⟨sink, found, still⟩
    exact ((booked sink other found).2 still).2.1
  have least := (foldl_earlierAttempt row.openAttempts zeroTime real
    (Int.le_refl _)).2.2 attempt opened
  have some : row.openAttempts ≠ [] := List.ne_nil_of_mem opened
  unfold aggregateStatus
  split_ifs with dropped
  · exact listed
  · simpa only [if_neg least.1] using least.2

theorem aggregateStatus_status
    (held : row.status ≠ .dropped) (now : Time) :
    (aggregateStatus row now).status =
      if row.openAttempts ≠ [] then .pending
      else if row.attempts.entries.any (fun entry =>
        entry.2.status = .dead) then .dead
      else .delivered := by
  simp only [aggregateStatus, if_neg held, apply_ite OutboxRecord.status]

theorem summed_aggregateStatus
    (held : row.status ≠ .dropped) (now : Time) :
    (aggregateStatus row now).Summed := by
  have noneOpen : row.openAttempts = [] → ∀ name attempt,
      row.attempts.get name = some attempt →
        attempt.stillPending = false := by
    intro none name attempt named
    cases still : attempt.stillPending with
    | false => rfl
    | true =>
      have opened := OutboxRecord.mem_openAttempts.mpr ⟨name, named, still⟩
      rw [none] at opened
      cases opened
  have anyDead : row.attempts.entries.any
      (fun entry => entry.2.status = .dead) = true ↔
      ∃ name attempt, row.attempts.get name = some attempt ∧
        attempt.status = .dead := by
    simp only [List.any_eq_true, Prod.exists, Table.mem_entries_iff,
      decide_eq_true_eq]
  constructor
  · rw [aggregateStatus_attempts, aggregateStatus_status held]
    split_ifs with opened dead
    · simp only [true_iff]
      rcases List.exists_mem_of_ne_nil _ opened with ⟨attempt, member⟩
      rcases OutboxRecord.mem_openAttempts.mp member with ⟨name, both⟩
      exact ⟨name, attempt, both⟩
    all_goals
      simp only [false_iff]
      rintro ⟨name, attempt, named, still⟩
      simp [noneOpen (not_not.mp opened) name attempt named] at still
  · rw [aggregateStatus_attempts, aggregateStatus_status held]
    split_ifs with opened dead
    · simp only [false_iff]
      rintro ⟨none, _⟩
      rcases List.exists_mem_of_ne_nil _ opened with ⟨attempt, member⟩
      rcases OutboxRecord.mem_openAttempts.mp member with
        ⟨name, named, still⟩
      simp [none name attempt named] at still
    · simp only [true_iff]
      exact ⟨noneOpen (not_not.mp opened), anyDead.mp dead⟩
    · simp only [false_iff]
      rintro ⟨_, found⟩
      exact dead (anyDead.mpr found)

/-! ### The two rules -/

theorem booked_rule (config : DispatcherConfig) :
    RowRule config (fun row => row.Booked config) where
  dropped := by
    rintro row dropped ⟨_, now, rfl⟩ booked
    exact booked
  published := by
    intro store sinks now row name result clock allowed booked
    rcases ready_pending allowed with ⟨attempt, named, pending, due⟩
    rcases row.published_cases config now name result with
      same | ⟨tried, later, found, made, changed⟩
    · rwa [same]
    · rw [changed]
      intro other found' stored
      rw [named] at found
      cases found
      rw [Table.get_put] at stored
      split_ifs at stored
      · cases stored
        exact (booked name attempt named).published pending due made
      · exact booked other found' stored
  aggregated := fun _ now booked => booked.aggregated now

/-- A sink that is not pending is not published to. -/
theorem keeps_rule (config : DispatcherConfig) (id sink : String)
    (status : AttemptStatus) :
    RowRule config (fun row => row.Keeps id sink status) where
  dropped := by
    rintro row dropped ⟨_, now, rfl⟩ keeps
    exact keeps
  published := by
    intro store sinks now row name result _ allowed keeps
    rcases ready_pending allowed with ⟨attempt, named, pending, _⟩
    rcases row.published_cases config now name result with
      same | ⟨tried, later, _, _, changed⟩
    · rwa [same]
    · rw [changed]
      intro sameID
      rcases keeps sameID with ⟨ended, found, over', same⟩
      have other : sink ≠ name := by
        rintro rfl
        rw [named] at found
        cases found
        rw [pending] at over'
        cases over'
      exact ⟨ended, by simpa [Table.get_put, other] using found, over', same⟩
  aggregated := by
    intro row now keeps sameID
    rw [aggregateStatus_id] at sameID
    rw [aggregateStatus_attempts]
    exact keeps sameID

/-! ## Ticks -/

/-- The rows that are due are listed once each. -/
theorem Outbox.listDue_nodup (outbox : Outbox) (now : Time) (limit : Nat) :
    ((outbox.listDue now limit).map OutboxRecord.id).Nodup := by
  have keys : (((outbox.due.scan DueKey.before).takeWhile (fun entry =>
      !decide (now < entry.1.next))).map Prod.fst).Nodup := by
    have perm := List.perm_insertionSort
      (fun left right => DueKey.before left.1 right.1) outbox.due.entries
    have all := (perm.map Prod.fst).nodup_iff.mpr outbox.due.distinct
    exact all.sublist ((List.takeWhile_sublist _).map Prod.fst)
  have stored : ∀ entry ∈ (outbox.due.scan DueKey.before).takeWhile
      (fun entry => !decide (now < entry.1.next)),
      ∀ row, outbox.primary.get entry.2 = some row →
        row.dueKey = entry.1 := by
    rintro ⟨key, id⟩ member row found
    have listed := (Table.mem_scan_iff _ _ _ _).mp
      ((List.takeWhile_sublist _).subset member)
    rcases (outbox.due_iff key id).mp listed with ⟨other, here, _, same⟩
    rw [found] at here
    cases here
    exact same
  apply List.Nodup.sublist (((List.take_sublist _ _).trans
    List.filter_sublist).map OutboxRecord.id)
  generalize (outbox.due.scan DueKey.before).takeWhile
    (fun entry => !decide (now < entry.1.next)) = entries at keys stored
  induction entries with
  | nil => exact List.nodup_nil
  | cons entry entries induction =>
    rw [List.map_cons, List.nodup_cons] at keys
    have rest := induction keys.2
      (fun other member => stored other (.tail _ member))
    cases found : outbox.primary.get entry.2 with
    | none => simpa only [List.filterMap_cons, found] using rest
    | some row =>
      simp only [List.filterMap_cons, found, List.map_cons, List.nodup_cons]
      refine ⟨fun again => keys.1 ?_, rest⟩
      rcases List.mem_map.mp again with ⟨twin, member, sameID⟩
      rcases List.mem_filterMap.mp member with ⟨other, inside, here⟩
      have otherID := outbox.row_id _ _ here
      have rowID := outbox.row_id _ _ found
      -- One id is stored once, so both entries are the key of one row.
      have sameRow : twin = row := by
        have same : other.2 = entry.2 := by
          rw [← otherID, ← rowID, sameID]
        rw [same, found] at here
        exact (Option.some.inj here).symm
      have left := stored other (.tail _ inside) twin here
      have right := stored entry (.head _) row found
      rw [← right, ← sameRow, left]
      exact List.mem_map_of_mem inside

namespace Process

/-- What an action can do to the tick. -/
inductive TickStep (config : DispatcherConfig) (process : Process) :
    Action → Option Tick → Prop where
  | none (action : Action) : TickStep config process action none
  | same (action : Action) (tick : Tick)
      (running : process.tick = some tick) :
      TickStep config process action (some tick)
  | list (now : Time) (sinks : List String) :
      TickStep config process (.list now sinks)
        (some { now, sinks, todo := process.store.listDue now batchSize })
  | take (tick : Tick) (row : OutboxRecord) (todo : List OutboxRecord)
      (running : process.tick = some tick) (idle : tick.current = .none)
      (waiting : tick.todo = row :: todo) (pending : row.status = .pending) :
      TickStep config process .take
        (some { tick with todo, current := some { row := row } })
  | skip (tick : Tick) (row : OutboxRecord) (todo : List OutboxRecord)
      (running : process.tick = some tick) (idle : tick.current = .none)
      (waiting : tick.todo = row :: todo) :
      TickStep config process .take (some { tick with todo })
  | visit (tick : Tick) (delivery : Delivery) (name : String)
      (result : PublishResult) (running : process.tick = some tick)
      (current : tick.current = some delivery) :
      TickStep config process (.visit name result)
        (some { tick with current := some (delivery.visit config
          process.store tick.sinks tick.now name result) })
  | leave (action : Action) (tick : Tick)
      (running : process.tick = some tick) :
      TickStep config process action (some { tick with current := .none })

theorem step_tick (config : DispatcherConfig) (process : Process)
    (action : Action) :
    TickStep config process action (process.step config action).tick := by
  show TickStep config process action (process.nextTick config action)
  cases before : process.tick with
  | none =>
    cases action with
    | list now sinks =>
      simp only [nextTick, before]
      exact .list now sinks
    | _ =>
      simp only [nextTick, before]
      exact .none _
  | some tick =>
    cases action with
    | take =>
      simp only [nextTick, before]
      split
      · next row todo idle waiting =>
          split_ifs with pending
          · exact .take tick row todo before idle waiting pending
          · exact .skip tick row todo before idle waiting
      · exact .none _
      · exact .same _ tick before
    | visit name result =>
      simp only [nextTick, before]
      cases current : tick.current with
      | none =>
        have same : { tick with current := none } = tick := by
          rw [← current]
        simp only [Option.map_none, same]
        exact .same _ tick before
      | some delivery =>
        simp only [Option.map_some]
        split_ifs
        · have same : { tick with current := some delivery } =
              tick := by
            rw [← current]
          rw [same]
          exact .same _ tick before
        · exact .visit tick delivery name result before current
    | finish saved =>
      simp only [nextTick, before]
      cases current : tick.current with
      | none => exact .leave _ tick before
      | some delivery =>
        simp only [Option.filter_some]
        split_ifs
        · have same : { tick with current := some delivery } =
              tick := by
            rw [← current]
          rw [same]
          exact .same _ tick before
        · exact .leave _ tick before
    | abandon =>
      simp only [nextTick, before]
      exact .leave _ tick before
    | stop => exact .none _
    | _ =>
      simp only [nextTick, before]
      exact .same _ tick before

end Process

/-- The copies of a tick have the property and are of different rows. -/
structure Tick.Sound (tick : Tick) (property : OutboxRecord → Prop) :
    Prop where
  clock : zeroTime < tick.now
  todo : ∀ row ∈ tick.todo, property row
  current : ∀ delivery, tick.current = some delivery →
    property delivery.row ∧ delivery.row.status = .pending
  distinct : (tick.copies.map OutboxRecord.id).Nodup

/-- Every stored row and every copy has the property. -/
structure Process.Sound (process : Process)
    (property : OutboxRecord → Prop) : Prop where
  stored : ∀ id row, process.store.primary.get id = some row → property row
  tick : ∀ tick, process.tick = some tick → tick.Sound property

theorem OutboxRecord.published_status
    (row : OutboxRecord) (config : DispatcherConfig) (now : Time)
    (name : String) (result : PublishResult) :
    (row.published config now name result).status = row.status := by
  unfold OutboxRecord.published
  split <;> rfl

section Runs

variable {config : DispatcherConfig} {property : OutboxRecord → Prop}
  {process : Process}

theorem Delivery.visit_property
    (rule : RowRule config property) {delivery : Delivery}
    (held : property delivery.row ∧ delivery.row.status = .pending)
    (store : Outbox) (sinks : List String)
    (clock : zeroTime < now) (name : String) (result : PublishResult) :
    property (delivery.visit config store sinks now name result).row ∧
      (delivery.visit config store sinks now name result).row.status =
        .pending := by
  unfold Delivery.visit
  split_ifs with allowed
  · exact ⟨rule.published store sinks now _ name result clock allowed held.1,
      (OutboxRecord.published_status _ _ _ _ _).trans held.2⟩
  · exact held

namespace Process

/-- Events and ticks have a time after the zero time. -/
def ClockOf : Action → Prop
  | .insert event _ _ _ => zeroTime < event.now
  | .list now _ => zeroTime < now
  | _ => True

/-- The clock has been set, and a new row has an id not used before. -/
def Timely (process : Process) (action : Action) : Prop :=
  ClockOf action ∧ ∀ record ∈ action.inserted, ¬process.Uses record.id

instance (action : Action) : Decidable (ClockOf action) := by
  unfold ClockOf
  split <;> infer_instance

instance (process : Process) (action : Action) :
    Decidable (process.Timely action) := by
  unfold Timely
  infer_instance

section

variable (sound : process.Sound property) (rule : RowRule config property)

include sound rule

theorem Sound.next_tick
    (clock : ClockOf action) :
    ∀ tick, (process.step config action).tick = some tick →
      tick.Sound property := by
  have change := process.step_tick config action
  generalize (process.step config action).tick = next at change
  rintro tick rfl
  cases change with
  | same _ tick running => exact sound.tick tick running
  | list now sinks =>
    constructor
    · exact clock
    · intro row listed
      exact sound.stored row.id row (Outbox.mem_listDue listed).1
    · intro delivery absent
      cases absent
    · simpa [Tick.copies] using Outbox.listDue_nodup process.store now _
  | take old row todo running idle waiting pending =>
    have held := sound.tick old running
    constructor
    · exact held.clock
    · intro other listed
      exact held.todo other (waiting ▸ .tail _ listed)
    · rintro delivery ⟨⟩
      exact ⟨held.todo row (waiting ▸ .head _), pending⟩
    · have distinct := held.distinct
      simp only [Tick.copies, idle, waiting, Option.toList_none,
        List.map_nil, List.append_nil] at distinct
      exact ((List.perm_append_singleton row todo).map _).nodup_iff.mpr
        distinct
  | skip old row todo running idle waiting =>
    have held := sound.tick old running
    constructor
    · exact held.clock
    · intro other listed
      exact held.todo other (waiting ▸ .tail _ listed)
    · exact held.current
    · have shorter : todo.Sublist old.todo :=
        waiting ▸ List.sublist_cons_self row todo
      exact held.distinct.sublist ((shorter.append_right _).map _)
  | visit old delivery name result running current =>
    have held := sound.tick old running
    constructor
    · exact held.clock
    · exact held.todo
    · rintro later ⟨⟩
      exact Delivery.visit_property rule (held.current delivery current)
        process.store old.sinks held.clock name result
    · have distinct := held.distinct
      simp only [Tick.copies, current] at distinct
      simpa only [Tick.copies, Option.toList_some, List.map_append,
        List.map_cons, Delivery.visit_id] using distinct
  | leave _ old running =>
    have held := sound.tick old running
    constructor
    · exact held.clock
    · exact held.todo
    · intro delivery absent
      cases absent
    · have fewer : Tick.copies { old with current := none } = old.todo :=
        List.append_nil _
      rw [fewer]
      exact held.distinct.sublist ((List.sublist_append_left _ _).map _)

omit sound rule in
/-- What a save stores: the copy of the current row, summed up. -/
theorem saving_cases
    (config : DispatcherConfig) (saved : process.saving action = some copy) :
    ∃ tick delivery, process.tick = some tick ∧
      tick.current = some delivery ∧
      copy = aggregateStatus delivery.row tick.now ∧
      (process.step config action).tick =
        some { tick with current := none } := by
  unfold saving at saved
  split at saved
  · simp only [Option.bind_eq_some_iff] at saved
    rcases saved with ⟨tick, running, delivery, current, made⟩
    split_ifs at made with visited
    unfold Delivery.saving at made
    split_ifs at made
    cases made
    refine ⟨tick, delivery, running, current, rfl, ?_⟩
    show nextTick config process (.finish true) = _
    simp only [nextTick, running, current, Option.filter_some, visited,
      Bool.not_true, Bool.false_eq_true, if_false]
  · cases saved

theorem Sound.saved
    (saved : process.saving action = some copy) :
    property copy ∧ copy.Summed := by
  rcases saving_cases config saved with
    ⟨tick, delivery, running, current, rfl, _⟩
  rcases (sound.tick tick running).current delivery current with
    ⟨held, pending⟩
  refine ⟨rule.aggregated _ _ held, summed_aggregateStatus ?_ _⟩
  rw [pending]
  decide

/-- One action keeps a property of rows that the new row has too. -/
theorem Sound.step
    (clock : ClockOf action)
    (inserted : ∀ record ∈ action.inserted, property record) :
    (process.step config action).Sound property := by
  refine ⟨?_, sound.next_tick rule clock⟩
  have change := process.step_store config action
  generalize (process.step config action).store = store at change
  intro id row stored
  cases change with
  | same => exact sound.stored id row stored
  | insert event maxPending now newID record made =>
    rcases process.store.get_insert maxPending now newID record id with
      ⟨_, new⟩ | ⟨_, kept | ⟨old, dropped, found, marked, gone⟩⟩
    · rw [new] at stored
      cases stored
      exact inserted _ (by simp [Action.inserted, made])
    · exact sound.stored id row (kept.symm.trans stored)
    · rw [gone] at stored
      cases stored
      exact rule.dropped old _ marked (sound.stored id old found)
  | purge status before idle =>
    rw [Outbox.get_purge] at stored
    exact sound.stored id row (Option.filter_eq_some_iff.mp stored).1
  | save action copy saved =>
    rw [Outbox.get_save] at stored
    split_ifs at stored
    · cases stored
      exact (sound.saved rule saved).1
    · exact sound.stored id row stored

end

/-! ## Runs -/

theorem uses_step
    (used : process.Uses id) (config : DispatcherConfig)
    (action : Action) : (process.step config action).Uses id := by
  rcases used with stored | ⟨row, gone, rowID⟩
  · rcases Option.isSome_iff_exists.mp stored with ⟨row, found⟩
    rcases stored_step config action found with ⟨later, here⟩ | ⟨gone, _⟩
    · exact .inl (Option.isSome_iff_exists.mpr ⟨later, here⟩)
    · exact .inr ⟨row, gone, process.store.row_id id row found⟩
  · exact .inr ⟨row, purged_step config process action gone, rowID⟩

end Process

end Runs

theorem normalizeOutbox_nextAttemptAt
    (record : OutboxRecord) (now : Time) (newID : String) :
    (normalizeOutbox record now newID).nextAttemptAt =
      orNow record.nextAttemptAt now := by
  simp only [normalizeOutbox, apply_ite OutboxRecord.nextAttemptAt, ite_self]

theorem NewEvent.get_attempts
    {event : NewEvent} {name : String}
    (named : event.attempts.get name = some attempt) :
    attempt = { status := .pending, nextAttemptAt := event.now } := by
  have fold : ∀ (sinks : List String) (table : Table String SinkAttempt),
      (∀ found, table.get name = some found →
        found = { status := .pending, nextAttemptAt := event.now }) →
      ∀ found, (sinks.foldl (fun attempts name => attempts.put name
        { status := .pending, nextAttemptAt := event.now }) table).get name =
          some found →
        found = { status := .pending, nextAttemptAt := event.now } := by
    intro sinks
    induction sinks with
    | nil => exact fun table given => given
    | cons sink sinks induction =>
      intro table given
      apply induction
      intro found stored
      rw [Table.get_put] at stored
      split_ifs at stored
      · exact (Option.some.inj stored).symm
      · exact given found stored
  exact fold event.sinks Table.empty (by simp) attempt named

/-- A new row is in order. -/
theorem Action.inserted_booked
    (limit : 1 ≤ config.maxAttempts) (clock : Process.ClockOf action)
    {record : OutboxRecord} (inserted : record ∈ action.inserted) :
    record.Booked config := by
  cases action with
  | insert event maxPending now newID =>
    rcases Option.map_eq_some_iff.mp inserted with ⟨made, built, rfl⟩
    unfold NewEvent.outboxRecord at built
    split_ifs at built
    cases built
    have next : (normalizeOutbox (normalizeOutbox
        { id := ""
          createdAt := event.now
          eventType := event.eventType
          bucket := event.bucket
          key := event.key
          versionID := event.versionID
          tenantID := event.tenantID
          payload := event.payload
          attempts := event.attempts } event.now event.id) now
        newID).nextAttemptAt = event.now := by
      simp only [normalizeOutbox_nextAttemptAt, orNow, if_true,
        if_neg (Int.ne_of_gt clock)]
    intro name attempt named
    simp only [normalizeOutbox_attempts] at named
    rw [NewEvent.get_attempts named, next]
    exact ⟨Int.le_of_lt limit, fun _ => ⟨limit, clock, Int.le_refl _⟩⟩
  | _ => cases inserted

namespace Process

variable {config : DispatcherConfig}

theorem booked_run
    (limit : 1 ≤ config.maxAttempts) {actions : List Action}
    (guarded : Guarded (step config) Timely initial actions) :
    (runAll (step config) initial actions).Sound
      (fun row => row.Booked config) := by
  refine guarded.invariant (motive := fun process =>
    process.Sound (fun row => row.Booked config)) ?_ ?_
  · constructor
    · intro id row absent
      cases absent
    · intro tick absent
      cases absent
  · intro process action sound timely
    exact sound.step (booked_rule config) timely.1
      (fun record inserted => Action.inserted_booked limit timely.1 inserted)

theorem store_of_saving
    (saved : process.saving action = some copy) :
    (process.step config action).store = process.store.save copy := by
  show process.nextStore action = _
  cases action with
  | finish done => simp only [nextStore, saved]
  | _ => cases saved

/-- After a save, the status of a settled sink is the same in every copy. -/
theorem Sound.keeps_after_save
    (config : DispatcherConfig) {property : OutboxRecord → Prop}
    (sound : process.Sound property)
    (saved : process.saving action = some copy)
    (named : copy.attempts.get sink = some attempt)
    (ended : attempt.stillPending = false) :
    (process.step config action).Sound
      (fun row => row.Keeps copy.id sink attempt.status) := by
  have keeps : copy.Keeps copy.id sink attempt.status :=
    fun _ => ⟨attempt, named, ended, rfl⟩
  constructor
  · intro id row stored sameID
    rw [store_of_saving saved, Outbox.get_save] at stored
    split_ifs at stored with same
    · cases stored
      exact keeps rfl
    · exact absurd ((process.store.row_id id row stored).symm.trans sameID)
        same
  · intro next running
    rcases saving_cases config saved with
      ⟨tick, delivery, held, current, made, after⟩
    rw [after] at running
    cases running
    have before := sound.tick tick held
    have distinct := before.distinct
    simp only [Tick.copies, current, List.map_append,
      List.nodup_append] at distinct
    constructor
    · exact before.clock
    · intro row waiting sameID
      -- The copies that are left are of other rows.
      have other := distinct.2.2 row.id (List.mem_map_of_mem waiting)
        delivery.row.id (.head _)
      rw [made, aggregateStatus_id] at sameID
      exact absurd sameID other
    · intro other absent
      cases absent
    · simp only [Tick.copies, Option.toList_none, List.map_nil,
        List.append_nil]
      exact distinct.1

section

variable {status : AttemptStatus}
  (sound : process.Sound (fun row => row.Keeps id sink status))

include status sound

theorem keeps_run
    (used : process.Uses id) {actions : List Action}
    (guarded : Guarded (step config) Timely process actions) :
    (runAll (step config) process actions).Sound
      (fun row => row.Keeps id sink status) := by
  refine (guarded.invariant (motive := fun process =>
    process.Sound (fun row => row.Keeps id sink status) ∧ process.Uses id)
    ⟨sound, used⟩ ?_).1
  rintro process action ⟨sound, used⟩ timely
  refine ⟨sound.step (keeps_rule config id sink status) timely.1 ?_,
    uses_step used config action⟩
  intro record inserted sameID
  exact absurd (sameID ▸ used) (timely.2 record inserted)

theorem Sound.not_sent
    (sent : process.sends action = some (row, sink)) : row.id ≠ id := by
  intro sameID
  unfold sends at sent
  split at sent
  · simp only [Option.bind_eq_some_iff] at sent
    rcases sent with ⟨tick, running, delivery, current, made⟩
    split_ifs at made with allowed
    cases made
    rcases ready_pending allowed.2 with ⟨attempt, named, pending, _⟩
    rcases ((sound.tick tick running).current delivery current).1 sameID with
      ⟨kept, found, ended, _⟩
    rw [named] at found
    cases found
    rw [pending] at ended
    cases ended
  · cases sent

end

end Process

/-- What a save of `deliver` leaves, and what stays so afterwards. -/
structure Kept (config : DispatcherConfig) (saved : OutboxRecord)
    (after : Process) (rest : List Action) : Prop where
  attempts_le : ∀ name attempt, saved.attempts.get name = some attempt →
    attempt.attempts ≤ config.maxAttempts
  summed : saved.Summed
  due_by : saved.status = .pending → ∀ name attempt,
    saved.attempts.get name = some attempt → attempt.stillPending = true →
      saved.nextAttemptAt ≤ attempt.nextAttemptAt
  settled : ∀ name attempt, saved.attempts.get name = some attempt →
    attempt.status = .delivered ∨ attempt.status = .dead →
    ∀ middle, middle <+: rest → (∀ row, (runAll (Process.step config) after
          middle).store.primary.get saved.id = some row →
        ∃ later, row.attempts.get name = some later ∧
          later.status = attempt.status) ∧
      ∀ action row, middle ++ [action] <+: rest →
        (runAll (Process.step config) after middle).sends action =
          some (row, name) → row.id ≠ saved.id

/--
In every run of inserts and ticks of one leader whose clock has been set, the
row that `deliver` saves is in order: no sink has more attempts than the
limit, the status of the row is the sum of those of its sinks, the row is due
no later than any pending sink, and a sink that is delivered or dead stays so
in every later state and is not published to again.  A stored row that is
pending stands in the due index under a time that no pending sink precedes.
-/
theorem delivery_bookkeeping
    (config : DispatcherConfig) (limit : 1 ≤ config.maxAttempts)
    (front : List Action) (action : Action) (rest : List Action)
    (guarded : Guarded (Process.step config) Process.Timely Process.initial
      (front ++ action :: rest)) :
    (∀ saved,
      (runAll (Process.step config) Process.initial front).saving action =
        some saved →
      Kept config saved ((runAll (Process.step config) Process.initial
        front).step config action) rest) ∧
    ∀ id row, (runAll (Process.step config) Process.initial
        front).store.primary.get id = some row → row.status = .pending →
      (runAll (Process.step config) Process.initial front).store.due.get
          row.dueKey = some id ∧
        ∀ name attempt, row.attempts.get name = some attempt →
          attempt.stillPending = true →
          row.dueKey.next ≤ attempt.nextAttemptAt := by
  have sound := Process.booked_run limit
    (guarded.mono (List.prefix_append front (action :: rest)))
  have later := (guarded_cons_iff.mp guarded.rest).2
  generalize runAll (Process.step config) Process.initial front = process
    at sound later ⊢
  constructor
  · intro saved saving
    rcases sound.saved (booked_rule config) saving with ⟨booked, summed⟩
    constructor
    · exact fun name attempt named => (booked name attempt named).1
    · exact summed
    · exact fun _ name attempt named still =>
        ((booked name attempt named).2 still).2.2
    · intro name attempt named status middle made
      have ended : attempt.stillPending = false := by
        rcases status with status | status <;>
          simp [SinkAttempt.stillPending, status]
      have keeps := sound.keeps_after_save config saving named ended
      have used : (process.step config action).Uses saved.id := by
        left
        rw [Process.store_of_saving saving]
        simp
      have kept := Process.keeps_run keeps used (later.mono made)
      constructor
      · intro row stored
        have rowID := Outbox.row_id _ _ _ stored
        rcases kept.stored _ row stored rowID with ⟨last, found, _, same⟩
        exact ⟨last, found, same⟩
      · intro other row _ sent
        exact kept.not_sent sent
  · intro id row stored pending
    constructor
    · exact (process.store.due_iff _ _).mpr ⟨row, stored, pending, rfl⟩
    · intro name attempt named still
      exact ((sound.stored id row stored name attempt named).2 still).2.2

/-- Two failures of two allowed: the sink is dead after the second tick. -/
def twiceFailed : List Action :=
  [.insert (createdEvent "01" "report" 1) 0 1 "", .list 2 ["kafka"], .take,
    .visit "kafka" (.failed "unreachable" none 0), .finish true, .take,
    .list maxBackoff ["kafka"], .take,
    .visit "kafka" (.failed "unreachable" none 0)]

theorem second_failure_is_kept :
    let config : DispatcherConfig := { defaultConfig with maxAttempts := 2 }
    ((runAll (Process.step config) Process.initial twiceFailed).saving
      (.finish true)).isSome = true ∧
    ∀ saved, (runAll (Process.step config) Process.initial
        twiceFailed).saving (.finish true) = some saved →
      Kept config saved ((runAll (Process.step config) Process.initial
        twiceFailed).step config (.finish true)) [.take] :=
  ⟨by decide, (delivery_bookkeeping
    { defaultConfig with maxAttempts := 2 } (by decide) twiceFailed
    (.finish true) [.take] (by decide)).1⟩

end DataSafe.Events
