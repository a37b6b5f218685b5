import DataSafe.Metadata.Records

/-!
# The event outbox

A notification is one row, with an attempt for each sink that it is to be
delivered to.  The Bolt store keeps the rows in `event_outbox` and an index of
the pending ones in `event_outbox_due`, ordered by the time of the next
attempt.  `Outbox` carries what its transactions keep: a row is stored under
its id, and the index lists exactly the pending rows.

When the number of pending rows reaches the cap, an insert marks the oldest
of them dropped.
-/

namespace DataSafe.Events

open Base Metadata

/-! ## Rows -/

inductive AttemptStatus where
  | unset
  | pending
  | delivered
  | dead
deriving DecidableEq

inductive RowStatus where
  | unset
  | pending
  | delivered
  | dead
  | dropped
deriving DecidableEq

/-- The delivery of a row to one sink. -/
structure SinkAttempt where
  attempts : Int := 0
  status : AttemptStatus
  nextAttemptAt : Time
  lastError : String := ""
deriving DecidableEq

structure OutboxRecord where
  id : String
  createdAt : Time
  eventType : String
  bucket : String := ""
  key : String := ""
  versionID : String := ""
  tenantID : String := ""
  payload : String := ""
  status : RowStatus := .unset
  attempts : Table String SinkAttempt
  nextAttemptAt : Time := zeroTime
  dropReason : String := ""
  deliveredAt : Option Time := none
  deadAt : Option Time := none
  updatedAt : Time := zeroTime
deriving DecidableEq

/-- `SinkStillPending`: a status that was never filled is pending. -/
def SinkAttempt.stillPending (attempt : SinkAttempt) : Bool :=
  attempt.status = .pending || attempt.status = .unset

def OutboxRecord.isPending (record : OutboxRecord) : Bool :=
  record.status = .pending

/-- `CreatedBefore`: equal times are told apart by the id. -/
def createdBefore (otherCreated : Time) (otherID : String)
    (createdAt : Time) (id : String) : Bool :=
  decide (otherCreated < createdAt) ||
    (decide (otherCreated = createdAt) && decide (otherID < id))

/-- A zero time is replaced. -/
def orNow (time now : Time) : Time := if time = zeroTime then now else time

/-- `NormalizeOutbox`, where `newID` is the ULID that it may draw. -/
def normalizeOutbox (record : OutboxRecord) (now : Time)
    (newID : String) : OutboxRecord :=
  let filled : OutboxRecord :=
    { record with
      id := if record.id = "" then newID else record.id
      createdAt := orNow record.createdAt now
      updatedAt := orNow record.updatedAt now
      payload := if record.payload = "" then "\x7b\x7d" else record.payload
      nextAttemptAt := orNow record.nextAttemptAt now }
  if record.status ≠ .unset then filled
  else if record.attempts.entries = [] then
    { filled with status := .delivered, deliveredAt := some now }
  else { filled with status := .pending }

@[simp]
theorem normalizeOutbox_attempts
    (record : OutboxRecord) (now : Time) (newID : String) :
    (normalizeOutbox record now newID).attempts = record.attempts := by
  simp only [normalizeOutbox, apply_ite OutboxRecord.attempts, ite_self]

@[simp]
theorem normalizeOutbox_status
    (record : OutboxRecord) (now : Time) (newID : String) :
    (normalizeOutbox record now newID).status =
      if record.status ≠ .unset then record.status
      else if record.attempts.entries = [] then .delivered
      else .pending := by
  simp only [normalizeOutbox, apply_ite OutboxRecord.status]

/-- The earlier of two attempt times; a zero time does not count. -/
def earlierAttempt (next : Time) (attempt : SinkAttempt) : Time :=
  if next = zeroTime || decide (attempt.nextAttemptAt < next) then
    attempt.nextAttemptAt
  else next

/-- The attempts of a row that have not come to an end. -/
def OutboxRecord.openAttempts (record : OutboxRecord) : List SinkAttempt :=
  (record.attempts.entries.map Prod.snd).filter SinkAttempt.stillPending

/-- `AggregateStatus` -/
def aggregateStatus (record : OutboxRecord) (now : Time) : OutboxRecord :=
  if record.status = .dropped then record
  else
    let touched := { record with updatedAt := now }
    let next := record.openAttempts.foldl earlierAttempt zeroTime
    if record.openAttempts ≠ [] then
      { touched with
        status := .pending
        nextAttemptAt :=
          if next = zeroTime then record.nextAttemptAt else next }
    else if record.attempts.entries.any (fun entry =>
        entry.2.status = .dead) then
      { touched with
        status := .dead
        deadAt := some (record.deadAt.getD now) }
    else
      { touched with
        status := .delivered
        deliveredAt := some (record.deliveredAt.getD now) }

/-! ## The store -/

/-- The key of the due index: the time of the next attempt, then the id. -/
structure DueKey where
  next : Time
  id : String
deriving DecidableEq

/--
The order of the times as they are printed with leading zeros: a sign comes
before every digit, and what follows it is compared without it.
-/
def printedBefore (left right : Time) : Bool :=
  if left < 0 then decide (0 ≤ right) || decide (right < left)
  else decide (0 ≤ right) && decide (left < right)

def DueKey.before (left right : DueKey) : Bool :=
  printedBefore left.next right.next ||
    (decide (left.next = right.next) && decide (left.id ≤ right.id))

/-- The key under which a row is listed while it is pending. -/
def OutboxRecord.dueKey (record : OutboxRecord) : DueKey :=
  ⟨record.nextAttemptAt, record.id⟩

structure Outbox where
  primary : Table String OutboxRecord
  due : Table DueKey String
  row_id : ∀ id row, primary.get id = some row → row.id = id
  due_iff : ∀ key id, due.get key = some id ↔
    ∃ row, primary.get id = some row ∧ row.status = .pending ∧
      row.dueKey = key

namespace Outbox

def empty : Outbox where
  primary := Table.empty
  due := Table.empty
  row_id := by simp
  due_iff := by simp

/-- The rows in the order of their ids. -/
def rows (outbox : Outbox) : List OutboxRecord :=
  (outbox.primary.scan (fun left right => left ≤ right)).map Prod.snd

variable (records : List OutboxRecord) (maxPending : Nat) (outbox : Outbox)
  (status : RowStatus) (now : Time) (before : Time) (record : OutboxRecord)
  (id : String)

theorem mem_rows_iff (row : OutboxRecord) :
    row ∈ outbox.rows ↔ outbox.primary.get row.id = some row := by
  constructor
  · intro member
    obtain ⟨⟨id, found⟩, scanned, rfl⟩ := List.mem_map.mp member
    have stored := (Table.mem_scan_iff _ _ _ _).mp scanned
    rwa [outbox.row_id id found stored]
  · intro stored
    exact List.mem_map.mpr
      ⟨(row.id, row), (Table.mem_scan_iff _ _ _ _).mpr stored, rfl⟩

/-- The due index without the entry of a pending row. -/
def unlisted (outbox : Outbox) (id : String) : Table DueKey String :=
  match outbox.primary.get id with
  | some old =>
    if old.status = .pending then outbox.due.delete old.dueKey
    else outbox.due
  | none => outbox.due

theorem get_unlisted
    (key : DueKey) (other : String) :
    (outbox.unlisted id).get key = some other ↔
      other ≠ id ∧ outbox.due.get key = some other := by
  have listed := outbox.due_iff key other
  unfold unlisted
  cases found : outbox.primary.get id with
  | none =>
    refine ⟨fun present => ⟨?_, present⟩, fun both => both.2⟩
    rintro rfl
    obtain ⟨row, stored, _⟩ := listed.mp present
    rw [found] at stored
    cases stored
  | some old =>
    have oldID := outbox.row_id id old found
    simp only
    split_ifs with pending
    · constructor
      · intro present
        have apart : key ≠ old.dueKey := by
          rintro rfl
          rw [Table.get_delete_self] at present
          cases present
        rw [Table.get_delete_of_ne _ apart] at present
        refine ⟨?_, present⟩
        rintro rfl
        obtain ⟨row, stored, _, same⟩ := listed.mp present
        rw [found] at stored
        cases stored
        exact apart same.symm
      · rintro ⟨distinct, present⟩
        obtain ⟨row, stored, _, same⟩ := listed.mp present
        rw [Table.get_delete_of_ne _ ?_]
        · exact present
        · rintro rfl
          have rowID := outbox.row_id other row stored
          have ids := congrArg DueKey.id same
          exact distinct (rowID.symm.trans (ids.trans oldID))
    · refine ⟨fun present => ⟨?_, present⟩, fun both => both.2⟩
      rintro rfl
      obtain ⟨row, stored, isPending, _⟩ := listed.mp present
      rw [found] at stored
      cases stored
      exact pending isPending

/-- `saveOutboxBolt`: the row replaces one with its id, whatever it says. -/
def save (outbox : Outbox) (record : OutboxRecord) : Outbox where
  primary := outbox.primary.put record.id record
  due :=
    if record.status = .pending then
      (outbox.unlisted record.id).put record.dueKey record.id
    else outbox.unlisted record.id
  row_id := by
    intro id row stored
    rw [Table.get_put] at stored
    split_ifs at stored with same
    · cases stored
      exact same.symm
    · exact outbox.row_id id row stored
  due_iff := by
    intro key id
    have rest := get_unlisted outbox record.id key id
    have listed := outbox.due_iff key id
    by_cases same : id = record.id
    · subst same
      rw [Table.get_put_self]
      split_ifs with pending
      · rw [Table.get_put]
        split_ifs with here
        · simp [pending, here]
        · simp [rest, pending, Ne.symm here]
      · simp [rest, pending]
    · rw [Table.get_put_of_ne _ _ same, ← listed]
      split_ifs with pending
      · rw [Table.get_put]
        split_ifs with here
        · -- Another row cannot be listed under the key of this one.
          refine ⟨fun impossible => absurd
            (Option.some.inj impossible).symm same, fun present => ?_⟩
          obtain ⟨row, stored, _, sameKey⟩ := listed.mp present
          have rowID := outbox.row_id id row stored
          rw [here] at sameKey
          exact absurd (rowID.symm.trans (congrArg DueKey.id sameKey)) same
        · simp [rest, same]
      · simp [rest, same]

/-- `deleteOutboxBolt` -/
def delete (outbox : Outbox) (id : String) : Outbox where
  primary := outbox.primary.delete id
  due := outbox.unlisted id
  row_id := by
    intro other row stored
    unfold Table.delete at stored
    rw [Table.get_restrict] at stored
    split_ifs at stored
    exact outbox.row_id other row stored
  due_iff := by
    intro key other
    rw [get_unlisted, outbox.due_iff]
    by_cases same : other = id
    · simp [same]
    · simp [same, Table.get_delete_of_ne _ same]

@[simp]
theorem get_save :
    (outbox.save record).primary.get id =
      if id = record.id then some record else outbox.primary.get id :=
  Table.get_put _ _ _ _

theorem get_delete (id other : String) :
    (outbox.delete id).primary.get other =
      if other = id then none else outbox.primary.get other := by
  split_ifs with same
  · rw [same]
    exact Table.get_delete_self _ _
  · exact Table.get_delete_of_ne _ same

/-! ## Inserting -/

/-- `countPendingBolt` -/
def countPending (outbox : Outbox) : Nat :=
  (outbox.rows.filter OutboxRecord.isPending).length

/-- The older of two rows, by creation and then by id. -/
def older (oldest : Option OutboxRecord) (record : OutboxRecord) :
    Option OutboxRecord :=
  match oldest with
  | none => some record
  | some other =>
    if createdBefore record.createdAt record.id other.createdAt other.id
      then some record
    else oldest

def dropReasonCap : String := "pending cap exceeded"

/-- `dropOldestPendingBolt` -/
def dropOldestPending (outbox : Outbox) (now : Time) : Option Outbox :=
  ((outbox.rows.filter OutboxRecord.isPending).foldl older none).map (fun oldest =>
    outbox.save { oldest with
      status := .dropped
      dropReason := dropReasonCap
      updatedAt := now })

/-- Drop pending rows, of which there are `pending`, until one more fits. -/
def makeRoom (maxPending : Nat) (now : Time) : Nat → Outbox → Outbox
  | 0, outbox => outbox
  | pending + 1, outbox =>
    if maxPending ≤ pending + 1 then
      match outbox.dropOldestPending now with
      | none => outbox
      | some dropped => makeRoom maxPending now pending dropped
    else outbox

/-- `insertOutboxBolt` of one row, under a cap unless it is zero. -/
def insert (outbox : Outbox) (maxPending : Nat) (now : Time)
    (newID : String) (record : OutboxRecord) : Outbox :=
  let record := normalizeOutbox record now newID
  if maxPending = 0 then outbox.save record
  else (outbox.makeRoom maxPending now outbox.countPending).save record

/-! ## Reading and purging -/

/-- `ListDueOutbox` -/
def listDue (outbox : Outbox) (now : Time) (limit : Nat) :
    List OutboxRecord :=
  let due := (outbox.due.scan DueKey.before).takeWhile (fun entry =>
    !decide (now < entry.1.next))
  ((due.filterMap (fun entry => outbox.primary.get entry.2)).filter
    OutboxRecord.isPending).take (if limit = 0 then 64 else limit)

/-- `EarlierPending` -/
def earlierPending (outbox : Outbox)
    (tenantID bucket key sink id : String) (createdAt : Time) : Bool :=
  key ≠ "" && outbox.rows.any (fun row =>
    row.id ≠ id && row.isPending && row.key = key && row.bucket = bucket &&
      row.tenantID = tenantID &&
      createdBefore row.createdAt row.id createdAt id &&
      -- A sink that the row does not name has the zero attempt, which is
      -- pending.
      ((row.attempts.get sink).all SinkAttempt.stillPending))

/-- The time from which a row that came to an end is kept. -/
def retentionTime (record : OutboxRecord) : Option Time :=
  match record.status with
  | .delivered => record.deliveredAt
  | .dead => record.deadAt
  | .dropped => some record.updatedAt
  | _ => none

def expired (status : RowStatus) (before : Time) (record : OutboxRecord) :
    Bool :=
  decide (record.status = status) && (retentionTime record).any (fun time =>
      time ≠ zeroTime && decide (time < before))

/-- `PurgeOutbox` -/
def purge (outbox : Outbox) (status : RowStatus) (before : Time) : Outbox :=
  (outbox.rows.filter (expired status before)).foldl
    (fun outbox row => outbox.delete row.id) outbox

/-! ## What the operations do -/

theorem mem_listDue
    {outbox : Outbox} {now : Time} {limit : Nat} {row : OutboxRecord}
    (listed : row ∈ outbox.listDue now limit) :
    outbox.primary.get row.id = some row ∧ row.status = .pending := by
  have member := List.mem_of_mem_take listed
  rw [List.mem_filter, List.mem_filterMap] at member
  obtain ⟨⟨entry, _, stored⟩, pending⟩ := member
  rw [outbox.row_id _ _ stored]
  exact ⟨stored, by simpa [OutboxRecord.isPending] using pending⟩

/-- The query finds a pending row of the key that has the sink pending. -/
theorem earlierPending_iff
    {outbox : Outbox} {tenantID bucket key sink id : String}
    {createdAt : Time} :
    outbox.earlierPending tenantID bucket key sink id createdAt = true ↔
      key ≠ "" ∧ ∃ row, outbox.primary.get row.id = some row ∧
        row.status = .pending ∧ row.id ≠ id ∧ row.key = key ∧
        row.bucket = bucket ∧ row.tenantID = tenantID ∧
        createdBefore row.createdAt row.id createdAt id = true ∧
        (row.attempts.get sink).all SinkAttempt.stillPending = true := by
  simp only [earlierPending, Bool.and_eq_true, decide_eq_true_eq,
    List.any_eq_true, mem_rows_iff, OutboxRecord.isPending]
  constructor
  · rintro ⟨named, row, stored, ⟨⟨⟨⟨⟨⟨other, pending⟩, sameKey⟩, sameBucket⟩,
      sameTenant⟩, earlier⟩, isOpen⟩⟩
    exact ⟨named, row, stored, pending, other, sameKey, sameBucket,
      sameTenant, earlier, isOpen⟩
  · rintro ⟨named, row, stored, pending, other, sameKey, sameBucket,
      sameTenant, earlier, isOpen⟩
    exact ⟨named, row, stored, ⟨⟨⟨⟨⟨⟨other, pending⟩, sameKey⟩, sameBucket⟩,
      sameTenant⟩, earlier⟩, isOpen⟩⟩

theorem foldl_older_mem
    (start : Option OutboxRecord) :
    (records.foldl older start = none ↔ start = none ∧ records = []) ∧
      ∀ oldest, records.foldl older start = some oldest →
        start = some oldest ∨ oldest ∈ records := by
  induction records generalizing start with
  | nil => simp
  | cons record records induction =>
    obtain ⟨absent, member⟩ := induction (older start record)
    have chosen : ∃ best, older start record = some best ∧
        (best = record ∨ start = some best) := by
      unfold older
      cases start with
      | none => exact ⟨record, rfl, .inl rfl⟩
      | some other =>
        simp only
        split_ifs
        · exact ⟨record, rfl, .inl rfl⟩
        · exact ⟨other, rfl, .inr rfl⟩
    obtain ⟨best, best_eq, source⟩ := chosen
    rw [best_eq] at absent
    refine ⟨by simp [best_eq, absent], fun oldest found => ?_⟩
    rcases member oldest found with first | later
    · rw [best_eq] at first
      cases first
      rcases source with rfl | started
      · exact .inr List.mem_cons_self
      · exact .inl started
    · exact .inr (List.mem_cons_of_mem _ later)

theorem mem_of_foldl_older
    {records : List OutboxRecord} {oldest : OutboxRecord}
    (found : records.foldl older none = some oldest) : oldest ∈ records :=
  ((foldl_older_mem records none).2 oldest found).resolve_left (by simp)

/-- A drop marks one pending row, if there is any. -/
theorem dropOldestPending_spec :
    (outbox.dropOldestPending now = none ∧
        ∀ row, outbox.primary.get row.id = some row →
          row.status ≠ .pending) ∨
      ∃ oldest, outbox.primary.get oldest.id = some oldest ∧
        oldest.status = .pending ∧
        outbox.dropOldestPending now = some (outbox.save { oldest with
          status := .dropped
          dropReason := dropReasonCap
          updatedAt := now }) := by
  obtain ⟨absent, -⟩ := foldl_older_mem
    (outbox.rows.filter OutboxRecord.isPending) none
  cases found : (outbox.rows.filter OutboxRecord.isPending).foldl older
      none with
  | none =>
    refine .inl ⟨by simp [dropOldestPending, found], ?_⟩
    intro row stored pending
    have listed : row ∈ outbox.rows.filter OutboxRecord.isPending :=
      List.mem_filter.mpr ⟨(outbox.mem_rows_iff row).mpr stored,
        by simp [OutboxRecord.isPending, pending]⟩
    rw [(absent.mp found).2] at listed
    cases listed
  | some oldest =>
    have listed := mem_of_foldl_older found
    obtain ⟨row, pending⟩ := List.mem_filter.mp listed
    exact .inr ⟨oldest, (outbox.mem_rows_iff oldest).mp row,
      by simpa [OutboxRecord.isPending] using pending,
      by simp [dropOldestPending, found]⟩

/-- The row of a drop: the pending row, marked. -/
def Dropped (row dropped : OutboxRecord) : Prop :=
  row.status = .pending ∧ ∃ now, dropped = { row with
    status := .dropped
    dropReason := dropReasonCap
    updatedAt := now }

/-- Making room leaves a row as it is, or drops it while it is pending. -/
theorem get_makeRoom
    (now : Time) (pending : Nat) (outbox : Outbox) (id : String) :
    (outbox.makeRoom maxPending now pending).primary.get id =
        outbox.primary.get id ∨
      ∃ row dropped, outbox.primary.get id = some row ∧ Dropped row dropped ∧
        (outbox.makeRoom maxPending now pending).primary.get id =
          some dropped := by
  induction pending generalizing outbox with
  | zero => exact .inl rfl
  | succ pending induction =>
    unfold makeRoom
    split_ifs
    · rcases outbox.dropOldestPending_spec now with
        ⟨absent, _⟩ | ⟨oldest, stored, isPending, done⟩
      · rw [absent]
        exact .inl rfl
      · rw [done]
        have later := induction (outbox.save { oldest with
          status := .dropped
          dropReason := dropReasonCap
          updatedAt := now })
        simp only [get_save] at later
        by_cases same : id = oldest.id
        · -- The row that was dropped is no longer pending.
          simp only [same] at later
          subst same
          refine .inr ⟨oldest, _, stored, ⟨isPending, now, rfl⟩, ?_⟩
          rcases later with kept | ⟨row, dropped, found, again, _⟩
          · exact kept
          · cases found
            cases again.1
        · simpa only [same, if_false] using later
    · exact .inl rfl

/-- What an insert leaves: its row, and the others as making room does. -/
theorem get_insert
    (outbox : Outbox) (maxPending : Nat) (now : Time) (newID : String)
    (record : OutboxRecord) (id : String) :
    (id = (normalizeOutbox record now newID).id ∧
        (outbox.insert maxPending now newID record).primary.get id =
          some (normalizeOutbox record now newID)) ∨
      id ≠ (normalizeOutbox record now newID).id ∧
        ((outbox.insert maxPending now newID record).primary.get id =
            outbox.primary.get id ∨
          ∃ row dropped, outbox.primary.get id = some row ∧
            Dropped row dropped ∧
            (outbox.insert maxPending now newID record).primary.get id =
              some dropped) := by
  unfold insert
  by_cases same : id = (normalizeOutbox record now newID).id
  · refine .inl ⟨same, ?_⟩
    split_ifs <;> simp [same]
  · refine .inr ⟨same, ?_⟩
    split_ifs
    · simp [same]
    · simpa only [get_save, same, if_false] using
        get_makeRoom maxPending now outbox.countPending outbox id

theorem get_foldl_delete :
    (records.foldl (fun outbox row => outbox.delete row.id)
        outbox).primary.get id =
      if ∃ row ∈ records, row.id = id then none
      else outbox.primary.get id := by
  induction records generalizing outbox with
  | nil => simp
  | cons record records induction =>
    rw [List.foldl_cons, induction, get_delete]
    by_cases later : ∃ row ∈ records, row.id = id
    · simp [later]
    · by_cases first : record.id = id
      · simp [first]
      · simp [first, Ne.symm first]

theorem due_delete
    {id : String}
    (ended : ∀ row, outbox.primary.get id = some row →
      row.status ≠ .pending) :
    (outbox.delete id).due = outbox.due := by
  show outbox.unlisted id = outbox.due
  unfold unlisted
  cases stored : outbox.primary.get id with
  | none => rfl
  | some row => exact if_neg (ended row stored)

/-- Deleting rows that came to an end leaves the due index alone. -/
theorem due_foldl_delete
    (ended : ∀ record ∈ records, ∀ row,
      outbox.primary.get record.id = some row → row.status ≠ .pending) :
    (records.foldl (fun outbox row => outbox.delete row.id) outbox).due =
      outbox.due := by
  induction records generalizing outbox with
  | nil => rfl
  | cons record records induction =>
    rw [List.foldl_cons, induction, due_delete]
    · exact ended record List.mem_cons_self
    · intro other member row stored
      rw [get_delete] at stored
      split_ifs at stored
      exact ended other (List.mem_cons_of_mem _ member) row stored

theorem expired_status
    {status : RowStatus} {before : Time} {row : OutboxRecord}
    (isExpired : expired status before row = true) :
    row.status ≠ .pending := by
  intro pending
  simp [expired, retentionTime, pending] at isExpired

theorem due_purge :
    (outbox.purge status before).due = outbox.due := by
  refine due_foldl_delete _ outbox ?_
  intro record member row stored
  obtain ⟨listed, isExpired⟩ := List.mem_filter.mp member
  rw [(outbox.mem_rows_iff record).mp listed] at stored
  cases stored
  exact expired_status isExpired

/-- A purge removes the rows that are expired. -/
theorem get_purge :
    (outbox.purge status before).primary.get id =
      (outbox.primary.get id).filter (fun row =>
        !expired status before row) := by
  unfold purge
  rw [get_foldl_delete]
  cases stored : outbox.primary.get id with
  | none => simp
  | some row =>
    have rowID := outbox.row_id id row stored
    have member : (∃ other ∈ outbox.rows.filter (expired status before),
        other.id = id) ↔ expired status before row = true := by
      constructor
      · rintro ⟨other, listed, rfl⟩
        obtain ⟨present, isExpired⟩ := List.mem_filter.mp listed
        rw [(outbox.mem_rows_iff other).mp present] at stored
        cases stored
        exact isExpired
      · intro isExpired
        refine ⟨row, List.mem_filter.mpr ⟨?_, isExpired⟩, rowID⟩
        rw [mem_rows_iff, rowID]
        exact stored
    rw [if_congr member rfl rfl]
    cases ended : expired status before row <;>
      simp [Option.filter, ended]

/-- A purge keeps the pending rows. -/
theorem get_purge_pending
    (id : String) (row : OutboxRecord) :
    ((outbox.purge status before).primary.get id = some row ∧
        row.status = .pending) ↔
      outbox.primary.get id = some row ∧ row.status = .pending := by
  rw [get_purge, Option.filter_eq_some_iff]
  constructor
  · rintro ⟨⟨stored, _⟩, pending⟩
    exact ⟨stored, pending⟩
  · rintro ⟨stored, pending⟩
    refine ⟨⟨stored, ?_⟩, pending⟩
    cases ended : expired status before row with
    | false => rfl
    | true => exact absurd pending (expired_status ended)

theorem countPending_eq :
    outbox.countPending =
      outbox.primary.entries.countP (fun entry => entry.2.isPending) := by
  unfold countPending rows Table.scan
  rw [← List.countP_eq_length_filter, List.countP_map]
  exact (List.perm_insertionSort _ _).countP_eq _

/-- Saving a row counts the new status in place of the old one. -/
theorem countPending_save :
    (outbox.save record).countPending +
        (if (outbox.primary.get record.id).any OutboxRecord.isPending then 1
          else 0) =
      outbox.countPending + (if record.isPending then 1 else 0) := by
  have deleted := outbox.primary.countP_delete record.id
    (fun entry => entry.2.isPending)
  have saved : (outbox.save record).primary.entries =
      (record.id, record) :: (outbox.primary.delete record.id).entries :=
    rfl
  rw [countPending_eq, countPending_eq, saved, List.countP_cons, ← deleted]
  exact Nat.add_right_comm _ _ _

theorem countPending_makeRoom
    (positive : 0 < maxPending) (pending : Nat) (outbox : Outbox)
    (counted : outbox.countPending = pending) :
    (outbox.makeRoom maxPending now pending).countPending < maxPending := by
  induction pending generalizing outbox with
  | zero =>
    unfold makeRoom
    omega
  | succ pending induction =>
    unfold makeRoom
    split_ifs with full
    · rcases outbox.dropOldestPending_spec now with
        ⟨absent, without⟩ | ⟨oldest, stored, isPending, done⟩
      · have none : outbox.countPending = 0 := by
          unfold countPending
          rw [List.length_eq_zero_iff, List.filter_eq_nil_iff]
          intro row member
          have status := without row ((outbox.mem_rows_iff row).mp member)
          simpa [OutboxRecord.isPending] using status
        omega
      · rw [done]
        refine induction _ ?_
        have saved := outbox.countPending_save { oldest with
          status := .dropped
          dropReason := dropReasonCap
          updatedAt := now }
        simp only [OutboxRecord.isPending, stored, Option.any_some,
          isPending, decide_true, if_true, reduceCtorEq, decide_false,
          if_false] at saved
        omega
    · omega

/-- After an insert under a cap, no more rows are pending than it allows. -/
theorem countPending_insert
    {maxPending : Nat} (positive : 0 < maxPending)
    (now : Time) (newID : String) (record : OutboxRecord) :
    (outbox.insert maxPending now newID record).countPending ≤
      maxPending := by
  unfold insert
  rw [if_neg (Nat.ne_of_gt positive)]
  have room := countPending_makeRoom maxPending now positive _ outbox rfl
  have saved := (outbox.makeRoom maxPending now
    outbox.countPending).countPending_save (normalizeOutbox record now newID)
  split_ifs at saved <;> omega

end Outbox

end DataSafe.Events
