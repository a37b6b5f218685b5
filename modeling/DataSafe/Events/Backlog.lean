import DataSafe.Events.DeliveryOrder
import Mathlib.Data.String.Basic

/-!
# Keys behind a backlog

A tick lists 64 due rows, in the order of their next attempts, and looks at no
other.  A row that is held back by an earlier row of its key, or names a sink
that is not registered, keeps its place in that order.  So a row that could be
delivered is attempted exactly when the batch reaches such a row: fewer than
64 pending rows are ahead of one of them.
-/

namespace DataSafe.Events

open Base Metadata

/-! ## The order of the due index -/

namespace DueKey

theorem printedBefore_total (left right : Time) :
    printedBefore left right = true ∨ left = right ∨
      printedBefore right left = true := by
  grind [printedBefore]

theorem printedBefore_trans
    {left middle right : Time} (first : printedBefore left middle = true)
    (second : printedBefore middle right = true) :
    printedBefore left right = true := by
  grind [printedBefore]

theorem printedBefore_asymm
    {left right : Time} (first : printedBefore left right = true) :
    printedBefore right left = false := by
  grind [printedBefore]

theorem before_total (left right : DueKey) :
    left.before right = true ∨ right.before left = true := by
  unfold before
  simp only [Bool.or_eq_true, Bool.and_eq_true, decide_eq_true_eq]
  rcases printedBefore_total left.next right.next with
    first | same | second
  · exact .inl (.inl first)
  · rcases le_total left.id right.id with smaller | greater
    · exact .inl (.inr ⟨same, smaller⟩)
    · exact .inr (.inr ⟨same.symm, greater⟩)
  · exact .inr (.inl second)

theorem before_trans
    (left middle right : DueKey) (first : left.before middle = true)
    (second : middle.before right = true) : left.before right = true := by
  unfold before at *
  simp only [Bool.or_eq_true, Bool.and_eq_true, decide_eq_true_eq] at *
  rcases first with first | ⟨same, first⟩
  · rcases second with second | ⟨equal, _⟩
    · exact .inl (printedBefore_trans first second)
    · exact .inl (equal ▸ first)
  · rcases second with second | ⟨equal, second⟩
    · exact .inl (same ▸ second)
    · exact .inr ⟨same.trans equal, first.trans second⟩

theorem before_antisymm
    (left right : DueKey) (first : left.before right = true)
    (second : right.before left = true) : left = right := by
  unfold before at *
  simp only [Bool.or_eq_true, Bool.and_eq_true, decide_eq_true_eq] at *
  have apart : ∀ {early late : Time}, printedBefore early late = true →
      printedBefore late early = true → False := by
    intro early late forth back
    rw [printedBefore_asymm forth] at back
    cases back
  have irreflexive : ∀ time : Time, printedBefore time time = true → False :=
    fun time forth => apart forth forth
  rcases first with first | ⟨same, first⟩
  · rcases second with second | ⟨equal, _⟩
    · exact (apart first second).elim
    · rw [equal] at first
      exact (irreflexive _ first).elim
  · rcases second with second | ⟨_, second⟩
    · rw [same] at second
      exact (irreflexive _ second).elim
    · cases left
      cases right
      cases same
      cases le_antisymm first second
      rfl

end DueKey

namespace Outbox

/-- The number of pending rows with an earlier place in the due index. -/
def ahead (outbox : Outbox) (row : OutboxRecord) : Nat :=
  outbox.due.entries.countP (fun entry =>
    entry.1.before row.dueKey && !row.dueKey.before entry.1)

/--
A batch of the given size reaches the row: it is due with every row ahead of
it, and fewer rows than the size are ahead.
-/
def Reaches (outbox : Outbox) (now : Time) (size : Nat) (row : OutboxRecord) :
    Prop :=
  (∀ key id, outbox.due.get key = some id → key.before row.dueKey = true →
      ¬now < key.next) ∧
    outbox.ahead row < size

/-- A bounded walk along entries that all have a row takes as many rows. -/
theorem take_rows
    {Entry Row : Type} (rowOf : Entry → Option Row) (wanted : Row → Bool)
    (entries : List Entry)
    (each : ∀ entry ∈ entries, ∃ row, rowOf entry = some row ∧
      wanted row = true) (limit : Nat) :
    ((entries.filterMap rowOf).filter wanted).take limit =
      (entries.take limit).filterMap rowOf := by
  induction entries generalizing limit with
  | nil => simp
  | cons entry entries induction =>
    obtain ⟨row, found, isWanted⟩ := each entry List.mem_cons_self
    have rest := induction fun other member =>
      each other (List.mem_cons_of_mem _ member)
    cases limit with
    | zero => simp
    | succ limit =>
      rw [List.filterMap_cons_some found, List.filter_cons_of_pos isWanted,
        List.take_succ_cons, List.take_succ_cons,
        List.filterMap_cons_some found, rest]

variable (outbox : Outbox) (status : RowStatus)

theorem mem_listDue_iff
    (now : Time) {limit : Nat} (positive : limit ≠ 0) (row : OutboxRecord) :
    row ∈ outbox.listDue now limit ↔
      outbox.primary.get row.id = some row ∧ row.status = .pending ∧
        outbox.Reaches now limit row := by
  have each : ∀ entry ∈ (outbox.due.scan DueKey.before).takeWhile
      (fun entry => !decide (now < entry.1.next)),
      ∃ row, outbox.primary.get entry.2 = some row ∧ row.isPending = true := by
    rintro ⟨key, id⟩ member
    have listed := (Table.mem_scan_iff _ _ _ _).mp
      ((List.takeWhile_sublist _).subset member)
    obtain ⟨found, stored, pending, _⟩ := (outbox.due_iff key id).mp listed
    exact ⟨found, stored, by simp [OutboxRecord.isPending, pending]⟩
  have walk := fun key id => Table.mem_take_takeWhile_scan_iff outbox.due
    DueKey.before_total DueKey.before_trans DueKey.before_antisymm
    (fun entry => !decide (now < entry.1.next)) limit key id
  simp only [listDue, if_neg positive]
  rw [take_rows (fun entry : DueKey × String => outbox.primary.get entry.2)
    OutboxRecord.isPending _ each, List.mem_filterMap]
  constructor
  · rintro ⟨⟨key, id⟩, member, stored⟩
    obtain ⟨listed, due, few⟩ := (walk key id).mp member
    obtain ⟨found, here, pending, sameKey⟩ := (outbox.due_iff key id).mp listed
    cases here.symm.trans stored
    refine ⟨?_, pending, ?_, ?_⟩
    · rw [outbox.row_id id row stored]
      exact stored
    · intro other otherID otherListed earlier
      simpa using due other otherID otherListed (sameKey ▸ earlier)
    · rw [ahead, sameKey]
      exact few
  · rintro ⟨stored, pending, due, few⟩
    have listed : outbox.due.get row.dueKey = some row.id :=
      (outbox.due_iff _ _).mpr ⟨row, stored, pending, rfl⟩
    refine ⟨(row.dueKey, row.id), (walk _ _).mpr ⟨listed, ?_, few⟩, stored⟩
    intro other otherID otherListed earlier
    simpa using due other otherID otherListed earlier

theorem listDue_purge
    (before now : Time) (limit : Nat) :
    (outbox.purge status before).listDue now limit =
      outbox.listDue now limit := by
  have rows : ∀ entry ∈ (outbox.due.scan DueKey.before).takeWhile
      (fun entry => !decide (now < entry.1.next)),
      (outbox.purge status before).primary.get entry.2 =
        outbox.primary.get entry.2 := by
    rintro ⟨key, id⟩ member
    have listed := (Table.mem_scan_iff _ _ _ _).mp
      ((List.takeWhile_sublist _).subset member)
    obtain ⟨row, stored, pending, _⟩ := (outbox.due_iff key id).mp listed
    have kept := (outbox.get_purge_pending status before id row).mpr
      ⟨stored, pending⟩
    exact kept.1.trans stored.symm
  simp only [listDue, due_purge]
  rw [List.filterMap_congr rows]

theorem earlierPending_purge
    (before : Time)
    (tenantID bucket key sink id : String) (createdAt : Time) :
    (outbox.purge status before).earlierPending tenantID bucket key sink id
        createdAt =
      outbox.earlierPending tenantID bucket key sink id createdAt := by
  rw [Bool.eq_iff_iff, earlierPending_iff, earlierPending_iff]
  simp only [← and_assoc, get_purge_pending]

end Outbox

/-! ## A tick -/

variable (config : DispatcherConfig) (store : Outbox) (sinks : List String)

theorem ready_purgeExpired
    (purgedAt now : Time) (row : OutboxRecord) (name : String) :
    ready (purgeExpired config purgedAt store) sinks now row name =
      ready store sinks now row name := by
  simp only [ready, purgeExpired, Outbox.earlierPending_purge]

variable {name : String} {row : OutboxRecord}

/-- A publication to another sink does not change whether a sink is ready. -/
theorem ready_published_of_ne
    (now : Time) (row : OutboxRecord) {other : String}
    (distinct : name ≠ other) (result : PublishResult) :
    ready store sinks now (row.published config now other result) name =
      ready store sinks now row name := by
  unfold OutboxRecord.published
  split
  · simp only [ready, Table.get_put_of_ne _ _ distinct]
  · rfl

/-- The visits publish to the sinks that were ready before them. -/
theorem mem_published_foldl_visit
    (config : DispatcherConfig) (store : Outbox) (sinks : List String)
    (now : Time) (row : OutboxRecord) (result : String → PublishResult)
    {names : List String} (distinct : names.Nodup) (delivery : Delivery)
    (same : ∀ name ∈ names, ready store sinks now delivery.row name =
      ready store sinks now row name) (name : String) :
    name ∈ (names.foldl (fun delivery name =>
        delivery.visit config store sinks now name (result name))
        delivery).published ↔
      name ∈ delivery.published ∨
        name ∈ names ∧ ready store sinks now row name = true := by
  induction names generalizing delivery with
  | nil => simp
  | cons head names induction =>
    obtain ⟨absent, later⟩ := List.nodup_cons.mp distinct
    have others : ∀ name ∈ names, ready store sinks now
        (delivery.visit config store sinks now head (result head)).row
          name = ready store sinks now row name := by
      intro other member
      have apart : other ≠ head := by
        rintro rfl
        exact absent member
      rw [← same other (List.mem_cons_of_mem _ member)]
      unfold Delivery.visit
      split_ifs
      · exact ready_published_of_ne config store sinks now _ apart _
      · rfl
    rw [List.foldl_cons, induction later _ others]
    have first := same head List.mem_cons_self
    unfold Delivery.visit
    by_cases isReady : ready store sinks now row head = true
    · rw [if_pos (first.trans isReady)]
      by_cases here : name = head
      · simp [here, isReady]
      · simp [here]
    · rw [if_neg (first ▸ isReady)]
      by_cases here : name = head
      · simp [here, isReady]
      · simp [here]

theorem ready_named
    {store : Outbox} {sinks : List String} {now : Time}
    (isReady : ready store sinks now row name = true) :
    (row.attempts.get name).isSome = true := by
  simp only [ready] at isReady
  cases found : row.attempts.get name with
  | some attempt => rfl
  | none => simp [found] at isReady

section Tick

variable (config : DispatcherConfig) (env : TickEnv)

theorem mem_published_deliveryOf
    (store : Outbox) (row : OutboxRecord) (name : String) :
    name ∈ (deliveryOf config env store row).published ↔
      ready store env.sinks env.now row name = true := by
  unfold deliveryOf
  rw [mem_published_foldl_visit config store env.sinks env.now row
    (env.publish row) (env.order_nodup row) _ (fun _ _ => rfl)]
  constructor
  · rintro (absent | ⟨_, isReady⟩)
    · cases absent
    · exact isReady
  · intro isReady
    exact .inr ⟨(env.order_mem row name).mpr (ready_named isReady), isReady⟩

theorem mem_deliver_iff
    (store : Outbox) (row other : OutboxRecord) (name : String) :
    (other, name) ∈ (deliver config env store row).2 ↔
      other = row ∧ row.status = .pending ∧
        ready store env.sinks env.now row name = true := by
  have published := mem_published_deliveryOf config env store row name
  by_cases pending : row.status = .pending
  · have sent : (deliver config env store row).2 =
        (deliveryOf config env store row).published.map
          (fun name => (row, name)) := by
      unfold deliver
      rw [if_neg (not_not.mpr pending)]
    rw [sent, List.mem_map]
    constructor
    · rintro ⟨found, member, same⟩
      cases same
      exact ⟨rfl, pending, published.mp member⟩
    · rintro ⟨rfl, _, isReady⟩
      exact ⟨name, published.mpr isReady, rfl⟩
  · simp [deliver, pending]

/-- A row with no sink ready is left alone. -/
theorem deliver_idle
    (store : Outbox) (row : OutboxRecord)
    (idle : ∀ name, ready store env.sinks env.now row name = false) :
    deliver config env store row = (store, []) := by
  have nothing : (deliveryOf config env store row).published = [] := by
    rw [List.eq_nil_iff_forall_not_mem]
    intro name member
    rw [mem_published_deliveryOf, idle name] at member
    cases member
  by_cases pending : row.status = .pending
  · simp [deliver, Delivery.saving, nothing]
  · simp [deliver, pending]

theorem mem_foldl_deliverNext
    (rows : List OutboxRecord) (made : Outbox × List (OutboxRecord × String))
    (sent : (row, name) ∈ (rows.foldl (deliverNext config env) made).2) :
    (row, name) ∈ made.2 ∨ row ∈ rows := by
  induction rows generalizing made with
  | nil => exact .inl sent
  | cons head rows induction =>
    rcases induction _ sent with before | later
    · rcases List.mem_append.mp before with earlier | now
      · exact .inl earlier
      · obtain ⟨same, _⟩ := (mem_deliver_iff config env _ _ _ _).mp now
        exact .inr (same ▸ List.mem_cons_self)
    · exact .inr (List.mem_cons_of_mem _ later)

theorem sent_subset_foldl_deliverNext
    (rows : List OutboxRecord) (made : Outbox × List (OutboxRecord × String)) :
    made.2 ⊆ (rows.foldl (deliverNext config env) made).2 := by
  induction rows generalizing made with
  | nil => exact fun _ member => member
  | cons head rows induction =>
    exact List.Subset.trans (List.subset_append_left _ _)
      (induction (deliverNext config env made head))

/--
The first row with a sink that is ready is published: the rows before it
leave the store as it was.
-/
theorem foldl_deliverNext_publishes
    (rows : List OutboxRecord) (store : Outbox)
    (sent : List (OutboxRecord × String))
    (pending : ∀ row ∈ rows, row.status = .pending) (listed : row ∈ rows)
    (isReady : ready store env.sinks env.now row name = true) :
    ∃ first ∈ rows, ∃ sink, ready store env.sinks env.now first sink = true ∧
        (first, sink) ∈ (rows.foldl (deliverNext config env)
          (store, sent)).2 := by
  induction rows generalizing sent with
  | nil => cases listed
  | cons head rows induction =>
    by_cases idle : ∀ name, ready store env.sinks env.now head name = false
    · have skipped : deliverNext config env (store, sent) head =
          (store, sent) := by
        simp [deliverNext, deliver_idle config env store head idle]
      have later : row ∈ rows := by
        rcases List.mem_cons.mp listed with rfl | later
        · rw [idle name] at isReady
          cases isReady
        · exact later
      obtain ⟨first, member, sink, found⟩ := induction sent
        (fun other member => pending other (List.mem_cons_of_mem _ member))
        later
      rw [List.foldl_cons, skipped]
      exact ⟨first, List.mem_cons_of_mem _ member, sink, found⟩
    · obtain ⟨sink, found⟩ := not_forall.mp idle
      rw [Bool.not_eq_false] at found
      refine ⟨head, List.mem_cons_self, sink, found, ?_⟩
      refine sent_subset_foldl_deliverNext config env rows _ ?_
      exact List.mem_append_right _ ((mem_deliver_iff config env _ _ _ _).mpr
        ⟨rfl, pending head List.mem_cons_self, found⟩)

end Tick

/-- The row could be delivered to the sink: it is stored, pending and ready. -/
def Deliverable (store : Outbox) (sinks : List String) (now : Time)
    (row : OutboxRecord) (sink : String) : Prop :=
  store.primary.get row.id = some row ∧ row.status = .pending ∧
    ready store sinks now row sink = true

/-- What a tick lists and finds ready does not depend on its purge. -/
theorem processOnce_eq
    (config : DispatcherConfig) (env : TickEnv) (store : Outbox) :
    ∃ purged, processOnce config env store =
        (store.listDue env.now batchSize).foldl (deliverNext config env)
          (purged, []) ∧
      ∀ row name, ready purged env.sinks env.now row name =
        ready store env.sinks env.now row name := by
  unfold processOnce
  cases env.purge with
  | false => exact ⟨store, rfl, fun _ _ => rfl⟩
  | true =>
    refine ⟨purgeExpired config env.now store, ?_, fun row name =>
      ready_purgeExpired config store env.sinks env.now env.now row name⟩
    simp only [if_true, purgeExpired, Outbox.listDue_purge]

/-- A tick of the leader with one sink, which accepts every row. -/
def acceptingTick (now : Time) : TickEnv where
  now := now
  sinks := ["kafka"]
  purge := false
  order row := row.attempts.entries.map Prod.fst
  order_mem := by
    intro row name
    simp [Table.mem_entries_iff, Option.isSome_iff_exists]
  order_nodup row := row.attempts.distinct
  publish _ _ := .ok
  saves _ := true

/--
The delivery of a row fails; 64 more rows of its key are inserted, and one of
another key.
-/
def stuckKey : List Action :=
  [.insert (createdEvent "a" "stuck" 1) 0 1 "", .list 1 ["kafka"], .take,
    .visit "kafka" (.failed "timeout" none 0), .finish true] ++
  (List.range 64).map (fun index =>
    .insert (createdEvent (String.ofList ['b', Char.ofNat (112 - index)])
      "stuck" 2) 0 2 "") ++
  [.insert (createdEvent "c" "other" 3) 0 3 ""]

end DataSafe.Events
