import DataSafe.Events.DeliveryOrder

/-!
# Rows that name different sinks

A row of a key waits for the earlier pending rows of the key, sink by sink.
The attempts of a row are a map from the sinks that it names, and a sink that
it does not name reads as the zero attempt.  `SinkStillPending` takes the
empty status of that attempt for a pending one, and so does the `COALESCE` of
the SQL query: a row holds back every sink that it does not name for as long
as it is pending.

`ready` is the dispatcher on the Bolt store.  `readyWith` has the query as a
parameter, so that the same conditions are those of the dispatcher on the
Postgres store.
-/

namespace DataSafe.Events

open Base Metadata

/-! ## The query of the Postgres store -/

/--
`EarlierPending` of the Postgres store over the rows of `event_outbox`.  The
order of two ids is that of the collation of the column.
-/
def pgEarlierPending (idBefore : String → String → Bool)
    (rows : List OutboxRecord) (tenantID bucket key sink id : String)
    (createdAt : Time) : Bool :=
  key ≠ "" && rows.any (fun row =>
    row.isPending && row.key ≠ "" && row.key = key && row.bucket = bucket &&
      row.tenantID = tenantID && row.id ≠ id &&
      (decide (row.createdAt < createdAt) ||
        (decide (row.createdAt = createdAt) && idBefore row.id id)) &&
      -- A missing path of the document is NULL, which COALESCE makes empty.
      ((row.attempts.get sink).map SinkAttempt.status).getD .unset ∈
        [AttemptStatus.pending, .unset])

/-- The conditions of `deliver` for a publication, over either store. -/
def readyWith
    (earlierPending : (tenantID bucket key sink id : String) → Time → Bool)
    (sinks : List String) (now : Time) (row : OutboxRecord)
    (name : String) : Bool :=
  (row.attempts.get name).any (fun attempt =>
      attempt.stillPending && !decide (now < attempt.nextAttemptAt)) &&
    !(decide (row.key ≠ "") && earlierPending row.tenantID row.bucket row.key
      name row.id row.createdAt) &&
    decide (name ∈ sinks)

theorem ready_eq_readyWith (store : Outbox) :
    ready store = readyWith store.earlierPending := rfl

/-! ## The rows ahead of a row -/

/-- The pending rows of the same key that were created before a row. -/
structure OutboxRecord.Ahead
    (before : Time → String → Time → String → Bool)
    (row other : OutboxRecord) : Prop where
  pending : other.status = .pending
  differs : other.id ≠ row.id
  named : row.key ≠ ""
  key : other.key = row.key
  bucket : other.bucket = row.bucket
  tenant : other.tenantID = row.tenantID
  earlier : before other.createdAt other.id row.createdAt row.id = true

/-- The row names the sink. -/
def OutboxRecord.Names (row : OutboxRecord) (sink : String) : Prop :=
  (row.attempts.get sink).isSome

/-- The row names the sink, and the delivery is neither done nor dead. -/
def OutboxRecord.Holds (row : OutboxRecord) (sink : String) : Prop :=
  ∃ attempt, row.attempts.get sink = some attempt ∧
    attempt.status ≠ .delivered ∧ attempt.status ≠ .dead

theorem SinkAttempt.stillPending_iff (attempt : SinkAttempt) :
    attempt.stillPending = true ↔
      attempt.status ≠ .delivered ∧ attempt.status ≠ .dead := by
  unfold stillPending
  cases attempt.status <;> simp

theorem OutboxRecord.all_stillPending_iff
    (row : OutboxRecord) (sink : String) :
    (row.attempts.get sink).all SinkAttempt.stillPending = true ↔
      row.Names sink → row.Holds sink := by
  unfold Names Holds
  cases row.attempts.get sink with
  | none => simp
  | some attempt => simp [SinkAttempt.stillPending_iff]

/-- `CreatedBefore` in the SQL query. -/
def pgBefore (idBefore : String → String → Bool)
    (otherCreated : Time) (otherID : String) (createdAt : Time)
    (id : String) : Bool :=
  decide (otherCreated < createdAt) ||
    (decide (otherCreated = createdAt) && idBefore otherID id)

/--
What both queries look for: a row ahead that has the sink open or does not
name it.
-/
def Screened (before : Time → String → Time → String → Bool)
    (rows : List OutboxRecord) (row : OutboxRecord) (sink : String) : Prop :=
  ∃ other ∈ rows, row.Ahead before other ∧
    (other.Names sink → other.Holds sink)

theorem Outbox.earlierPending_screened
    (outbox : Outbox) (row : OutboxRecord) (sink : String) :
    outbox.earlierPending row.tenantID row.bucket row.key sink row.id
        row.createdAt = true ↔
      Screened createdBefore outbox.rows row sink := by
  rw [earlierPending_iff]
  constructor
  · rintro ⟨named, other, stored, pending, differs, sameKey, sameBucket,
      sameTenant, earlier, isOpen⟩
    exact ⟨other, (outbox.mem_rows_iff other).mpr stored,
      ⟨pending, differs, named, sameKey, sameBucket, sameTenant, earlier⟩,
      (other.all_stillPending_iff sink).mp isOpen⟩
  · rintro ⟨other, stored, ahead, isOpen⟩
    exact ⟨ahead.named, other, (outbox.mem_rows_iff other).mp stored,
      ahead.pending, ahead.differs, ahead.key, ahead.bucket, ahead.tenant,
      ahead.earlier, (other.all_stillPending_iff sink).mpr isOpen⟩

theorem coalesce_mem_iff (attempt : Option SinkAttempt) :
    (attempt.map SinkAttempt.status).getD .unset ∈
        [AttemptStatus.pending, .unset] ↔
      attempt.all SinkAttempt.stillPending = true := by
  cases attempt with
  | none => simp
  | some attempt => simp [SinkAttempt.stillPending]

theorem pgEarlierPending_screened
    (idBefore : String → String → Bool) (rows : List OutboxRecord)
    (row : OutboxRecord) (sink : String) :
    pgEarlierPending idBefore rows row.tenantID row.bucket row.key sink
        row.id row.createdAt = true ↔
      Screened (pgBefore idBefore) rows row sink := by
  simp only [pgEarlierPending, coalesce_mem_iff, Bool.and_eq_true,
    decide_eq_true_eq, List.any_eq_true, OutboxRecord.isPending,
    OutboxRecord.all_stillPending_iff]
  constructor
  · rintro ⟨named, other, member, ⟨⟨⟨⟨⟨⟨pending, _⟩, sameKey⟩, sameBucket⟩,
      sameTenant⟩, differs⟩, earlier⟩, isOpen⟩
    exact ⟨other, member, ⟨pending, differs, named, sameKey, sameBucket,
      sameTenant, earlier⟩, isOpen⟩
  · rintro ⟨other, member, ahead, isOpen⟩
    exact ⟨ahead.named, other, member, ⟨⟨⟨⟨⟨⟨ahead.pending,
      ahead.key ▸ ahead.named⟩, ahead.key⟩, ahead.bucket⟩, ahead.tenant⟩,
      ahead.differs⟩, ahead.earlier⟩, isOpen⟩

/-! ## Which sinks wait -/

/-- An attempt that could be published is held back by the query alone. -/
theorem readyWith_eq_false_iff
    {query : (tenantID bucket key sink id : String) → Time → Bool}
    {before : Time → String → Time → String → Bool} {rows : List OutboxRecord}
    {sinks : List String} {now : Time} {row : OutboxRecord} {sink : String}
    {attempt : SinkAttempt}
    (screened : query row.tenantID row.bucket row.key sink row.id
      row.createdAt = true ↔ Screened before rows row sink)
    (named : row.attempts.get sink = some attempt)
    (isOpen : attempt.stillPending = true)
    (due : ¬now < attempt.nextAttemptAt) (registered : sink ∈ sinks) :
    readyWith query sinks now row sink = false ↔
      Screened before rows row sink := by
  rw [← screened]
  have holdsKey : query row.tenantID row.bucket row.key sink row.id
      row.createdAt = true → row.key ≠ "" := by
    intro blocked
    obtain ⟨_, _, ahead, _⟩ := screened.mp blocked
    exact ahead.named
  cases blocked : query row.tenantID row.bucket row.key sink row.id
      row.createdAt with
  | false =>
    simp [readyWith, named, isOpen, due, registered, blocked]
  | true =>
    simp [readyWith, blocked, holdsKey blocked]

/-- A row that does not name the sink is the one way to wait for nothing. -/
theorem screened_by_holder_iff
    (before : Time → String → Time → String → Bool)
    (rows : List OutboxRecord) (row : OutboxRecord) (sink : String) :
    (Screened before rows row sink →
        ∃ other ∈ rows, row.Ahead before other ∧ other.Holds sink) ↔
      (∃ other ∈ rows, row.Ahead before other ∧ other.Holds sink) ∨
        ∀ other ∈ rows, row.Ahead before other → other.Names sink := by
  constructor
  · intro isolated
    by_cases held :
        ∃ other ∈ rows, row.Ahead before other ∧ other.Holds sink
    · exact .inl held
    · refine .inr (fun other member ahead => ?_)
      by_contra unnamed
      exact held (isolated ⟨other, member, ahead,
        fun named => absurd named unnamed⟩)
  · rintro (held | allName) screened
    · exact held
    · obtain ⟨other, member, ahead, isOpen⟩ := screened
      exact ⟨other, member, ahead, isOpen (allName other member ahead)⟩

/--
A delivery that is due waits only for earlier rows that name its sink and have
it open, if and only if there is such a row or every row ahead names the sink.
The same holds of both stores.
-/
theorem sinks_wait_for_holders_iff
    (outbox : Outbox) (idBefore : String → String → Bool)
    (rows : List OutboxRecord) (sinks : List String) (now : Time)
    (row : OutboxRecord) (sink : String) (attempt : SinkAttempt)
    (named : row.attempts.get sink = some attempt)
    (isOpen : attempt.stillPending = true)
    (due : ¬now < attempt.nextAttemptAt) (registered : sink ∈ sinks) :
    ((ready outbox sinks now row sink = false →
        ∃ other ∈ outbox.rows, row.Ahead createdBefore other ∧
          other.Holds sink) ↔
      (∃ other ∈ outbox.rows, row.Ahead createdBefore other ∧
          other.Holds sink) ∨
        ∀ other ∈ outbox.rows, row.Ahead createdBefore other →
          other.Names sink) ∧
    ((readyWith (pgEarlierPending idBefore rows) sinks now row sink = false →
        ∃ other ∈ rows, row.Ahead (pgBefore idBefore) other ∧
          other.Holds sink) ↔
      (∃ other ∈ rows, row.Ahead (pgBefore idBefore) other ∧
          other.Holds sink) ∨
        ∀ other ∈ rows, row.Ahead (pgBefore idBefore) other →
          other.Names sink) := by
  constructor
  · rw [ready_eq_readyWith, readyWith_eq_false_iff
      (outbox.earlierPending_screened row sink) named isOpen due registered]
    exact screened_by_holder_iff createdBefore outbox.rows row sink
  · rw [readyWith_eq_false_iff
      (pgEarlierPending_screened idBefore rows row sink) named isOpen due
      registered]
    exact screened_by_holder_iff (pgBefore idBefore) rows row sink

/-- The row of an event of the key `report` that one sink is told about. -/
def reportRow (id sink : String) (now : Time) : OutboxRecord :=
  { createdRow id "report" now .pending
      { status := .pending, nextAttemptAt := now } with
    attempts := Table.empty.put sink
      { status := .pending, nextAttemptAt := now } }

/-- A row for the webhook, and after it one for Kafka. -/
def webhookThenKafka : Outbox :=
  (Outbox.empty.save (reportRow "01" "webhook" 1)).save
    (reportRow "02" "kafka" 2)

/-- The row for Kafka waits for a row that Kafka is not told about. -/
theorem unnamed_sink_delays :
    ready webhookThenKafka ["webhook", "kafka"] 3
        (reportRow "02" "kafka" 2) "kafka" = false ∧
      (∀ other ∈ webhookThenKafka.rows,
        (reportRow "02" "kafka" 2).Ahead createdBefore other →
          ¬other.Names "kafka") ∧
      readyWith (pgEarlierPending (fun left right => decide (left < right))
          [reportRow "01" "webhook" 1, reportRow "02" "kafka" 2])
        ["webhook", "kafka"] 3 (reportRow "02" "kafka" 2) "kafka" =
          false := by
  have rows : webhookThenKafka.rows =
      [reportRow "01" "webhook" 1, reportRow "02" "kafka" 2] := by
    decide
  refine ⟨by decide, ?_, by decide⟩
  rw [rows]
  intro other member ahead
  simp only [List.mem_cons, List.not_mem_nil, or_false] at member
  rcases member with rfl | rfl
  · unfold OutboxRecord.Names
    decide
  · exact absurd rfl ahead.differs

/-- A row for Kafka waits for an earlier one, and rightly so. -/
theorem sinks_wait_for_holders_kafka :
    ∃ other ∈ [reportRow "01" "kafka" 1, reportRow "02" "kafka" 2],
      (reportRow "02" "kafka" 2).Ahead
          (pgBefore (fun left right => decide (left < right))) other ∧
        other.Holds "kafka" := by
  refine (sinks_wait_for_holders_iff webhookThenKafka
    (fun left right => decide (left < right))
    [reportRow "01" "kafka" 1, reportRow "02" "kafka" 2] ["kafka"] 3
    (reportRow "02" "kafka" 2) "kafka"
    { status := .pending, nextAttemptAt := 2 } (by decide)
    (by decide) (by decide) (by decide)).2.mpr (.inr ?_) (by decide)
  intro other member _
  simp only [List.mem_cons, List.not_mem_nil, or_false] at member
  unfold OutboxRecord.Names
  rcases member with rfl | rfl <;> decide

end DataSafe.Events
