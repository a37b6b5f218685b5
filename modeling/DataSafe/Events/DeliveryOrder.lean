import DataSafe.Events.Dispatcher

/-!
# The order of deliveries

A sink is sent a row of a key only when every earlier row of the same tenant,
bucket and key that names the sink is settled for it: delivered, dead or
dropped.  The query of the dispatcher looks at pending rows alone, so the
argument needs that a row which left the pending status without being dropped
has no attempt open; `aggregateStatus` and `normalizeOutbox` are the only
places that set a status.
-/

namespace DataSafe.Events

open Base Metadata

/-- A row that is not pending was dropped or has no open attempt. -/
def OutboxRecord.Concluded (row : OutboxRecord) : Prop :=
  row.status = .pending ∨ row.status = .dropped ∨
    ∀ name attempt, row.attempts.get name = some attempt →
      attempt.stillPending = false

/-- The row is dropped, or delivered to the sink or dead for it. -/
def OutboxRecord.SettledFor (row : OutboxRecord) (sink : String) : Prop :=
  row.status = .dropped ∨ ∃ attempt, row.attempts.get sink = some attempt ∧
      (attempt.status = .delivered ∨ attempt.status = .dead)

theorem SinkAttempt.stillPending_eq_false
    {attempt : SinkAttempt} (ended : attempt.stillPending = false) :
    attempt.status = .delivered ∨ attempt.status = .dead := by
  unfold stillPending at ended
  cases status : attempt.status <;> simp [status] at ended ⊢

/-! ## Statuses -/

theorem aggregateStatus_concluded (record : OutboxRecord) (now : Time) :
    (aggregateStatus record now).Concluded := by
  unfold aggregateStatus
  split_ifs with dropped opened dead
  · exact .inr (.inl dropped)
  · exact .inl rfl
  all_goals
    refine .inr (.inr fun name attempt named => ?_)
    have member := (Table.mem_entries_iff _ _ _).mpr named
    have closed := List.filter_eq_nil_iff.mp (not_not.mp opened) attempt
      (List.mem_map.mpr ⟨(name, attempt), member, rfl⟩)
    simpa using closed

variable {record : OutboxRecord} {row : OutboxRecord} {sink : String}

theorem normalizeOutbox_concluded
    (given : record.status = .unset ∨ record.Concluded)
    (now : Time) (newID : String) :
    (normalizeOutbox record now newID).Concluded := by
  unfold OutboxRecord.Concluded
  rw [normalizeOutbox_status, normalizeOutbox_attempts]
  split_ifs with status unnamed
  · exact given.resolve_left status
  · refine .inr (.inr fun name attempt named => ?_)
    have member := (Table.mem_entries_iff _ _ _).mpr named
    simp [unnamed] at member
  · exact .inl rfl

theorem NewEvent.outboxRecord_concluded
    {event : NewEvent}
    (made : event.outboxRecord = some record) : record.Concluded := by
  unfold outboxRecord at made
  split_ifs at made
  cases made
  exact normalizeOutbox_concluded (.inl rfl) _ _

variable {process : Process}

theorem Process.saving_concluded
    {action : Action} {copy : OutboxRecord}
    (saved : process.saving action = some copy) : copy.Concluded := by
  unfold Process.saving at saved
  split at saved
  · simp only [Option.bind_eq_some_iff] at saved
    obtain ⟨tick, _, delivery, _, done⟩ := saved
    split_ifs at done
    unfold Delivery.saving at done
    split_ifs at done
    cases done
    exact aggregateStatus_concluded _ _
  · cases saved

/-! ## Runs -/

/--
Every stored row has concluded, and a row that was purged is settled for the
sinks that it names.
-/
structure Process.Orderly (process : Process) : Prop where
  concluded : ∀ id row, process.store.primary.get id = some row →
    row.Concluded
  purged : ∀ row ∈ process.purged, ∀ sink,
    (row.attempts.get sink).isSome = true → row.SettledFor sink

theorem OutboxRecord.Concluded.settledFor
    (concluded : row.Concluded) (ended : row.status ≠ .pending)
    (named : (row.attempts.get sink).isSome = true) :
    row.SettledFor sink := by
  rcases concluded with pending | dropped | closed
  · exact absurd pending ended
  · exact .inl dropped
  · obtain ⟨attempt, found⟩ := Option.isSome_iff_exists.mp named
    exact .inr ⟨attempt, found,
      SinkAttempt.stillPending_eq_false (closed sink attempt found)⟩

theorem Process.Orderly.step
    (orderly : process.Orderly)
    (config : DispatcherConfig) (action : Action) :
    (process.step config action).Orderly := by
  constructor
  · intro id row stored
    have change := process.step_store config action
    generalize (process.step config action).store = store at change stored
    cases change with
    | same => exact orderly.concluded id row stored
    | insert event maxPending now newID record made =>
      rcases process.store.get_insert maxPending now newID record id with
        ⟨_, new⟩ | ⟨_, kept | ⟨old, dropped, _, ⟨_, _, marked⟩, now⟩⟩
      · rw [new] at stored
        cases stored
        exact normalizeOutbox_concluded
          (.inr (NewEvent.outboxRecord_concluded made)) _ _
      · exact orderly.concluded id row (kept ▸ stored)
      · rw [now] at stored
        cases stored
        subst marked
        exact .inr (.inl rfl)
    | purge status before idle =>
      rw [Outbox.get_purge] at stored
      exact orderly.concluded id row (Option.filter_eq_some_iff.mp stored).1
    | save action copy saved =>
      rw [Outbox.get_save] at stored
      split_ifs at stored
      · cases stored
        exact Process.saving_concluded saved
      · exact orderly.concluded id row stored
  · intro row member sink named
    cases action with
    | purge status before =>
      simp only [Process.step] at member
      split_ifs at member
      · rcases List.mem_append.mp member with now | earlier
        · obtain ⟨listed, isExpired⟩ := List.mem_filter.mp now
          have stored := (process.store.mem_rows_iff row).mp listed
          exact (orderly.concluded row.id row stored).settledFor
            (Outbox.expired_status isExpired) named
        · exact orderly.purged row earlier sink named
      · exact orderly.purged row member sink named
    | _ => exact orderly.purged row member sink named

theorem Process.orderly_run (config : DispatcherConfig)
    (actions : List Action) :
    (runAll (Process.step config) Process.initial actions).Orderly :=
  runAll_invariant
    { concluded := by simp [Process.initial, Outbox.empty]
      purged := by simp [Process.initial] }
    (fun _ action orderly => orderly.step config action) actions

/-- A row that is stored, or was until it was purged. -/
def Process.Knows (process : Process) (row : OutboxRecord) : Prop :=
  process.store.primary.get row.id = some row ∨ row ∈ process.purged

theorem Process.sends_ready
    {action : Action} (sent : process.sends action = some (row, sink)) :
    ∃ sinks now, ready process.store sinks now row sink = true := by
  unfold Process.sends at sent
  split at sent
  · simp only [Option.bind_eq_some_iff] at sent
    obtain ⟨tick, _, delivery, _, allowed⟩ := sent
    split_ifs at allowed with both
    cases allowed
    exact ⟨tick.sinks, tick.now, both.2⟩
  · cases sent

/-- A write of an object that one sink is told about. -/
def createdEvent (id key : String) (now : Time) : NewEvent where
  id := id
  eventType := "ObjectCreated"
  bucket := "docs"
  key := key
  versionID := ""
  tenantID := ""
  payload := ""
  sinks := ["kafka"]
  now := now

/-- The row of `createdEvent` with the state of its attempt. -/
def createdRow (id key : String) (now : Time) (status : RowStatus)
    (attempt : SinkAttempt) : OutboxRecord where
  id := id
  createdAt := now
  eventType := "ObjectCreated"
  bucket := "docs"
  key := key
  payload := "\x7b\x7d"
  status := status
  attempts := Table.empty.put "kafka" attempt
  nextAttemptAt := now
  updatedAt := now

def defaultConfig : DispatcherConfig where
  maxAttempts := 20
  retention := 24 * 3600 * second
  deadRetention := 168 * 3600 * second

/-- Two rows of one key; a tick delivers the first of them. -/
def firstDelivered : List Action :=
  [.insert (createdEvent "01" "report" 1) 0 1 "",
    .insert (createdEvent "02" "report" 2) 0 2 "",
    .list 3 ["kafka"], .take, .visit "kafka" .ok, .finish true, .take]

/-- The first of these rows after its delivery. -/
def deliveredRow : OutboxRecord :=
  { createdRow "01" "report" 1 .delivered
      { status := .delivered, nextAttemptAt := 1 } with
    deliveredAt := some 3
    updatedAt := 3 }

end DataSafe.Events
