import DataSafe.Base.Machine
import DataSafe.Events.Outbox

/-!
# The dispatcher

One process, the leader, delivers the rows of the outbox.  A tick purges rows
that came to an end, lists up to 64 due rows and delivers them one after the
other from its copies of them: it visits the sinks that a row names, publishes
to those that are due, registered and not held back by an earlier row of the
same key, and saves its copy.

`processOnce` is a whole tick.  The machine of the last section takes a tick
apart, so that inserts of other requests fall between its store accesses; the
query for an earlier row and the publication that it allows are one step,
since the publication reads no row.
-/

namespace DataSafe.Events

open Base Metadata

/-! ## New rows -/

/-- What a request says about the event that it records. -/
structure NewEvent where
  id : String
  eventType : String
  bucket : String
  key : String
  versionID : String
  tenantID : String
  payload : String
  sinks : List String
  now : Time
deriving DecidableEq

/-- The attempts of a new row: every sink is pending and due. -/
def NewEvent.attempts (event : NewEvent) : Table String SinkAttempt :=
  event.sinks.foldl (fun attempts name =>
    attempts.put name { status := .pending, nextAttemptAt := event.now })
    Table.empty

/-- `outboxRecords`: an event that no sink receives makes no row. -/
def NewEvent.outboxRecord (event : NewEvent) : Option OutboxRecord :=
  if event.sinks = [] then none
  else some (normalizeOutbox
    { id := ""
      createdAt := event.now
      eventType := event.eventType
      bucket := event.bucket
      key := event.key
      versionID := event.versionID
      tenantID := event.tenantID
      payload := event.payload
      attempts := event.attempts } event.now event.id)

/-! ## Publishing -/

/-- How the `Publish` of a sink returns. -/
inductive PublishResult where
  | ok
  /-- The process is shutting down. -/
  | canceled
  | terminal (error : String)
  /-- Any other error, with the delay that the sink may ask for. -/
  | failed (error : String) (retryAfter : Option Time) (jitter : Time)
deriving DecidableEq

structure DispatcherConfig where
  maxAttempts : Int
  retention : Time
  deadRetention : Time

def millisecond : Time := 1000000

def second : Time := 1000 * millisecond

def baseBackoff : Time := second

def maxBackoff : Time := 5 * 60 * second

/-- `BackoffDuration`, where `jitter` is the random part that it adds. -/
def backoffDuration (attempt : Int) (jitter : Time) : Time :=
  let shift := min (max attempt 1 - 1).toNat 16
  let delay := min (baseBackoff * 2 ^ shift) maxBackoff
  min (max (delay + jitter) (100 * millisecond)) maxBackoff

/-- The attempt that a publication leaves, unless it leaves it alone. -/
def SinkAttempt.published (attempt : SinkAttempt) (config : DispatcherConfig)
    (now : Time) : PublishResult → Option SinkAttempt
  | .ok => some { attempt with status := .delivered, lastError := "" }
  | .canceled => none
  | .terminal error => some
      { attempt with
        attempts := attempt.attempts + 1
        status := .dead
        lastError := error }
  | .failed error retryAfter jitter =>
    let count := attempt.attempts + 1
    if config.maxAttempts ≤ count then some
      { attempt with attempts := count, status := .dead, lastError := error }
    else
      let backoff := backoffDuration count jitter
      let delay := max backoff (retryAfter.getD backoff)
      some
        { attempts := count
          status := .pending
          nextAttemptAt := now + min delay maxBackoff
          lastError := error }

/-- The dispatcher's copy of a row while it is delivered. -/
structure Delivery where
  row : OutboxRecord
  visited : List String := []
  /-- The sinks that it was published to. -/
  published : List String := []
deriving DecidableEq

/--
The conditions of `deliver` for a publication: the attempt is pending and due,
no earlier row of the key has the sink pending, and the sink is registered.
-/
def ready (store : Outbox) (sinks : List String) (now : Time)
    (row : OutboxRecord) (name : String) : Bool :=
  (row.attempts.get name).any (fun attempt =>
      attempt.stillPending && !decide (now < attempt.nextAttemptAt)) &&
    !(decide (row.key ≠ "") && store.earlierPending row.tenantID row.bucket
      row.key name row.id row.createdAt) &&
    decide (name ∈ sinks)

/-- The copy after a publication to a sink that it names. -/
def OutboxRecord.published (row : OutboxRecord) (config : DispatcherConfig)
    (now : Time) (name : String) (result : PublishResult) : OutboxRecord :=
  match (row.attempts.get name).bind (fun attempt =>
      attempt.published config now result) with
  | some attempt => { row with attempts := row.attempts.put name attempt }
  | none => row

/-- The body of the loop of `deliver` over the attempts. -/
def Delivery.visit (delivery : Delivery) (config : DispatcherConfig)
    (store : Outbox) (sinks : List String) (now : Time) (name : String)
    (result : PublishResult) : Delivery :=
  if ready store sinks now delivery.row name then
    { row := delivery.row.published config now name result
      visited := name :: delivery.visited
      published := name :: delivery.published }
  else { delivery with visited := name :: delivery.visited }

/-- The row that `deliver` saves at its end, if a publication made it dirty. -/
def Delivery.saving (delivery : Delivery) (now : Time) :
    Option OutboxRecord :=
  if delivery.published = [] then none
  else some (aggregateStatus delivery.row now)

/-! ## A whole tick -/

/-- What a tick meets: time, sinks, orders of the maps and results. -/
structure TickEnv where
  now : Time
  sinks : List String
  purge : Bool
  /-- The order in which the attempts of a row are visited. -/
  order : OutboxRecord → List String
  order_mem : ∀ row name,
    name ∈ order row ↔ (row.attempts.get name).isSome = true
  order_nodup : ∀ row, (order row).Nodup
  publish : OutboxRecord → String → PublishResult
  /-- Whether the save of a row succeeds. -/
  saves : OutboxRecord → Bool

/-- `purge` of the dispatcher. -/
def purgeExpired (config : DispatcherConfig) (now : Time) (store : Outbox) :
    Outbox :=
  let deadBefore := now - config.deadRetention
  ((store.purge .delivered (now - config.retention)).purge .dead
    deadBefore).purge .dropped deadBefore

/-- The visits of `deliver`. -/
def deliveryOf (config : DispatcherConfig) (env : TickEnv) (store : Outbox)
    (row : OutboxRecord) : Delivery :=
  (env.order row).foldl (fun delivery name =>
    delivery.visit config store env.sinks env.now name
      (env.publish row name)) { row := row }

/-- `deliver`, with what it published. -/
def deliver (config : DispatcherConfig) (env : TickEnv) (store : Outbox)
    (row : OutboxRecord) : Outbox × List (OutboxRecord × String) :=
  if row.status ≠ .pending then (store, [])
  else
    let delivery := deliveryOf config env store row
    (match delivery.saving env.now with
      | some saved => if env.saves row then store.save saved else store
      | none => store,
      delivery.published.map (fun name => (row, name)))

/-- The number of rows that a tick lists. -/
def batchSize : Nat := 64

/-- The body of the loop of `ProcessOnce` over the due rows. -/
def deliverNext (config : DispatcherConfig) (env : TickEnv)
    (made : Outbox × List (OutboxRecord × String)) (row : OutboxRecord) :
    Outbox × List (OutboxRecord × String) :=
  let (store, sent) := deliver config env made.1 row
  (store, made.2 ++ sent)

/-- `ProcessOnce` of the leader, with what it published. -/
def processOnce (config : DispatcherConfig) (env : TickEnv)
    (store : Outbox) : Outbox × List (OutboxRecord × String) :=
  let store := if env.purge then purgeExpired config env.now store else store
  (store.listDue env.now batchSize).foldl (deliverNext config env) (store, [])

/-! ## Ticks among inserts -/

/-- A tick that has listed its rows. -/
structure Tick where
  now : Time
  sinks : List String
  todo : List OutboxRecord
  current : Option Delivery := none
deriving DecidableEq

/-- The copies that a tick still holds. -/
def Tick.copies (tick : Tick) : List OutboxRecord :=
  tick.todo ++ tick.current.toList.map Delivery.row

/-- The store and the leader.  `purged` remembers the rows that are gone. -/
structure Process where
  store : Outbox
  tick : Option Tick
  purged : List OutboxRecord

def Process.initial : Process :=
  { store := Outbox.empty, tick := none, purged := [] }

inductive Action where
  /-- `InsertOutbox` under a cap, at the time of its transaction. -/
  | insert (event : NewEvent) (maxPending : Nat) (now : Time) (newID : String)
  | purge (status : RowStatus) (before : Time)
  /-- `ListDueOutbox` at the start of a tick. -/
  | list (now : Time) (sinks : List String)
  /-- `deliver` begins with the next copy. -/
  | take
  | visit (name : String) (result : PublishResult)
  /-- `deliver` ends; its save may fail. -/
  | finish (saved : Bool)
  /-- The query for an earlier row fails, and the copy is left. -/
  | abandon
  /-- The tick ends early: the process stops or is no longer the leader. -/
  | stop
deriving DecidableEq

/-- The row that an insert stores. -/
def Action.inserted : Action → Option OutboxRecord
  | .insert event _ now newID =>
    event.outboxRecord.map (fun record => normalizeOutbox record now newID)
  | _ => none

namespace Process

/-- The copy that an action saves. -/
def saving (process : Process) : Action → Option OutboxRecord
  | .finish true => process.tick.bind (fun tick =>
    tick.current.bind (fun delivery =>
      -- The loop over the attempts has come to its end.
      if delivery.row.attempts.entries.all (fun entry =>
          entry.1 ∈ delivery.visited) then
        delivery.saving tick.now
      else none))
  | _ => none

/-- What an action publishes: the copy and the sink. -/
def sends (process : Process) : Action → Option (OutboxRecord × String)
  | .visit name _ => process.tick.bind (fun tick =>
    tick.current.bind (fun delivery =>
      if name ∉ delivery.visited ∧
          ready process.store tick.sinks tick.now delivery.row name then
        some (delivery.row, name)
      else none))
  | _ => none

/-- The tick after an action. -/
def nextTick (config : DispatcherConfig) (process : Process)
    (action : Action) : Option Tick :=
  match action, process.tick with
  | .list now sinks, none =>
    some { now, sinks, todo := process.store.listDue now batchSize }
  | .take, some tick =>
    match tick.current, tick.todo with
    | none, row :: todo =>
      if row.status = .pending then
        some { tick with todo, current := some { row := row } }
      else some { tick with todo }
    | none, [] => none
    | some _, _ => some tick
  | .visit name result, some tick =>
    some { tick with current := tick.current.map (fun delivery =>
      if name ∈ delivery.visited then delivery
      else delivery.visit config process.store tick.sinks tick.now name
        result) }
  | .finish _, some tick =>
    some { tick with current := tick.current.filter (fun delivery =>
      !delivery.row.attempts.entries.all (fun entry =>
        entry.1 ∈ delivery.visited)) }
  | .abandon, some tick => some { tick with current := none }
  | .stop, _ => none
  | _, tick => tick

/-- The store after an action. -/
def nextStore (process : Process) (action : Action) : Outbox :=
  match action with
  | .insert event maxPending now newID =>
    match event.outboxRecord with
    | some record => process.store.insert maxPending now newID record
    | none => process.store
  -- Rows are purged before the tick lists any.
  | .purge status before =>
    if process.tick = none then process.store.purge status before
    else process.store
  | action =>
    match process.saving action with
    | some copy => process.store.save copy
    | none => process.store

/-- One action. -/
def step (config : DispatcherConfig) (process : Process) (action : Action) :
    Process where
  store := process.nextStore action
  tick := process.nextTick config action
  purged :=
    match action with
    | .purge status before =>
      if process.tick = none then
        process.store.rows.filter (Outbox.expired status before) ++
          process.purged
      else process.purged
    | _ => process.purged

/-- What an action can do to the store. -/
inductive StoreStep (process : Process) : Action → Outbox → Prop where
  | same (action : Action) : StoreStep process action process.store
  | insert (event : NewEvent) (maxPending : Nat) (now : Time)
      (newID : String) (record : OutboxRecord)
      (made : event.outboxRecord = some record) :
      StoreStep process (.insert event maxPending now newID)
        (process.store.insert maxPending now newID record)
  | purge (status : RowStatus) (before : Time)
      (idle : process.tick = none) :
      StoreStep process (.purge status before)
        (process.store.purge status before)
  | save (action : Action) (copy : OutboxRecord)
      (saved : process.saving action = some copy) :
      StoreStep process action (process.store.save copy)

theorem step_store (config : DispatcherConfig) (process : Process)
    (action : Action) :
    StoreStep process action (process.step config action).store := by
  show StoreStep process action (process.nextStore action)
  cases action with
  | insert event maxPending now newID =>
    cases made : event.outboxRecord with
    | some record =>
      simp only [nextStore, made]
      exact .insert event maxPending now newID record made
    | none =>
      simp only [nextStore, made]
      exact .same _
  | purge status before =>
    simp only [nextStore]
    split_ifs with idle
    · exact .purge status before idle
    · exact .same _
  | finish saved =>
    cases saving : process.saving (.finish saved) with
    | some copy =>
      simp only [nextStore, saving]
      exact .save _ copy saving
    | none =>
      simp only [nextStore, saving]
      exact .same _
  | _ => exact .same _

end Process

end DataSafe.Events
