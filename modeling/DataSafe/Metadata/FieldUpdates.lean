import DataSafe.Base.Machine
import DataSafe.Metadata.Store

/-!
# Updates of single fields

`SetObjectLegalHold`, `SetObjectRetention`, `SetObjectTags` and
`UpdateObjectMeta` each read a record in one transaction and write the whole
record back in another.  The calls of this module are made at the same time on
one object version; a step is one of these transactions.

A call that writes a copy undoes what was written since it read it, except in
the fields that it sets itself.  When nothing else was written in between, the
calls have the effect of being made one after the other in the order of their
writes.
-/

namespace DataSafe.Metadata

open Base

/-! ## Updates -/

inductive Update where
  | legalHold (hold : Bool)
  /-- The mode has been trimmed and is in upper case. -/
  | retention (retainUntil : Time) (mode : String)
  | tags (tags : List (String × String))
  | objectMeta (metadata : Option (List (String × String)))
      (contentType : String)
deriving DecidableEq

/-- What an update does to a record. -/
def Update.apply : Update → ObjectRecord → ObjectRecord
  | .legalHold hold, record => { record with legalHold := hold }
  | .retention retainUntil mode, record =>
    { record with
      retentionUntil := some retainUntil
      retentionMode := if mode ≠ "" then mode else record.retentionMode }
  | .tags pairs, record => { record with tags := pairs }
  | .objectMeta metadata contentType, record =>
    { record with
      metadata := metadata.getD record.metadata
      contentType :=
        if contentType ≠ "" then contentType else record.contentType }

/-- The fields that the updates are about. -/
inductive Field where
  | legalHold
  | retentionUntil
  | retentionMode
  | tags
  | metadata
  | contentType
deriving DecidableEq

def Field.all : List Field :=
  [.legalHold, .retentionUntil, .retentionMode, .tags, .metadata,
    .contentType]

theorem Field.mem_all (field : Field) : field ∈ Field.all := by
  cases field <;> decide

instance (holds : Field → Prop) [DecidablePred holds] :
    Decidable (∀ field, holds field) :=
  decidable_of_iff (∀ field ∈ Field.all, holds field)
    ⟨fun all field => all field field.mem_all, fun all field _ => all field⟩

/-- Two records have the same value of the field. -/
def Field.Same : Field → ObjectRecord → ObjectRecord → Prop
  | .legalHold, left, right => left.legalHold = right.legalHold
  | .retentionUntil, left, right => left.retentionUntil = right.retentionUntil
  | .retentionMode, left, right => left.retentionMode = right.retentionMode
  | .tags, left, right => left.tags = right.tags
  | .metadata, left, right => left.metadata = right.metadata
  | .contentType, left, right => left.contentType = right.contentType

/-- The update gives the field a value. -/
def Update.sets : Update → Field → Bool
  | .legalHold _, .legalHold => true
  | .retention _ _, .retentionUntil => true
  | .retention _ mode, .retentionMode => mode ≠ ""
  | .tags _, .tags => true
  | .objectMeta metadata _, .metadata => metadata.isSome
  | .objectMeta _ contentType, .contentType => contentType ≠ ""
  | _, _ => false

/-- The effect of some updates, one after the other. -/
def applyAll (updates : List Update) (record : ObjectRecord) : ObjectRecord :=
  updates.foldl (fun record update => update.apply record) record

theorem applyAll_append
    (front rest : List Update) (record : ObjectRecord) :
    applyAll (front ++ rest) record = applyAll rest (applyAll front record) :=
  List.foldl_append

variable {field : Field} {update : Update} {left right record : ObjectRecord}
  {store : Store} {bucket key versionID : String}

theorem Field.same_apply_of_not_sets
    (unset : update.sets field = false)
    (record : ObjectRecord) : field.Same (update.apply record) record := by
  cases update <;> cases field <;>
    simp_all [Field.Same, Update.apply, Update.sets]

/-- The value that an update gives to a field does not depend on the record. -/
theorem Field.same_apply_of_sets
    (set : update.sets field = true) (left right : ObjectRecord) :
    field.Same (update.apply left) (update.apply right) := by
  cases update with
  | objectMeta metadata contentType =>
    cases metadata <;> cases field <;>
      simp_all [Field.Same, Update.apply, Update.sets]
  | _ => cases field <;> simp_all [Field.Same, Update.apply, Update.sets]

theorem Field.Same.trans
    {middle : ObjectRecord}
    (first : field.Same left middle) (second : field.Same middle right) :
    field.Same left right := by
  cases field <;> exact Eq.trans first second

theorem Field.Same.symm
    (same : field.Same left right) : field.Same right left := by
  cases field <;> exact Eq.symm same

/-- The record without the fields that updates are about. -/
def ObjectRecord.unset (record : ObjectRecord) : ObjectRecord :=
  { record with
    legalHold := false
    retentionUntil := none
    retentionMode := ""
    tags := []
    metadata := []
    contentType := "" }

theorem ObjectRecord.eq_of_fields
    (rest : left.unset = right.unset)
    (fields : ∀ field, Field.Same field left right) : left = right := by
  have hold := fields .legalHold
  have date := fields .retentionUntil
  have mode := fields .retentionMode
  have tags := fields .tags
  have metadata := fields .metadata
  have contentType := fields .contentType
  cases left
  cases right
  simp_all [unset, Field.Same]

@[simp]
theorem Update.apply_unset (update : Update) (record : ObjectRecord) :
    (update.apply record).unset = record.unset := by
  cases update <;> rfl

/-- An update hides an earlier one that sets no other field. -/
theorem Update.apply_apply_of_sets
    {earlier : Update}
    (covers : ∀ field, earlier.sets field = true → update.sets field = true)
    (record : ObjectRecord) :
    update.apply (earlier.apply record) = update.apply record := by
  refine ObjectRecord.eq_of_fields (by simp) fun field => ?_
  cases set : update.sets field with
  | true => exact Field.same_apply_of_sets set _ _
  | false =>
    have unset : earlier.sets field = false :=
      Bool.eq_false_iff.mpr fun sets =>
        Bool.eq_false_iff.mp set (covers field sets)
    have hidden := Field.same_apply_of_not_sets set (earlier.apply record)
    exact (hidden.trans (Field.same_apply_of_not_sets unset record)).trans
      (Field.same_apply_of_not_sets set record).symm

theorem Update.apply_applyAll_of_sets
    {earlier : List Update}
    (covers : ∀ other ∈ earlier, ∀ field, other.sets field = true →
      update.sets field = true) (record : ObjectRecord) :
    update.apply (applyAll earlier record) = update.apply record := by
  induction earlier generalizing record with
  | nil => rfl
  | cons first rest induction =>
    have hidden := induction
      (fun other member => covers other (List.mem_cons_of_mem _ member))
      (first.apply record)
    exact hidden.trans
      (apply_apply_of_sets (covers first List.mem_cons_self) record)

/--
The field has the value of the last of some updates that set it, or its first
value when none of them does.
-/
def LastSet (field : Field) (updates : List Update)
    (first record : ObjectRecord) : Prop :=
  ((∀ update ∈ updates, update.sets field = false) ∧
      field.Same record first) ∨
    ∃ before update after, updates = before ++ update :: after ∧
      update.sets field = true ∧
      (∀ later ∈ after, later.sets field = false) ∧
      field.Same record (update.apply record)

theorem applyAll_lastSet
    (field : Field) (updates : List Update) (record : ObjectRecord) :
    LastSet field updates record (applyAll updates record) := by
  induction updates using List.reverseRecOn with
  | nil => exact .inl ⟨by simp, by cases field <;> rfl⟩
  | append_singleton updates update induction =>
    have made : applyAll (updates ++ [update]) record =
        update.apply (applyAll updates record) :=
      applyAll_append updates [update] record
    rw [made]
    cases set : update.sets field with
    | true =>
      exact .inr ⟨updates, update, [], rfl, set, by simp,
        Field.same_apply_of_sets set _ _⟩
    | false =>
      have kept := Field.same_apply_of_not_sets set (applyAll updates record)
      rcases induction with ⟨none, same⟩ | ⟨before, last, after, parts,
        sets, unset, same⟩
      · refine .inl ⟨?_, kept.trans same⟩
        intro other member
        rcases List.mem_append.mp member with old | new
        · exact none other old
        · cases List.mem_singleton.mp new
          exact set
      · refine .inr ⟨before, last, after ++ [update], by simp [parts],
          sets, ?_, ?_⟩
        · intro other member
          rcases List.mem_append.mp member with old | new
          · exact unset other old
          · cases List.mem_singleton.mp new
            exact set
        · exact (kept.trans same).trans (Field.same_apply_of_sets sets _ _)

/-! ## Calls at the same time -/

/-- A call: the version that it names and what it sets. -/
structure SetterCall where
  versionID : String
  update : Update
deriving DecidableEq

/-- What a call read, and how many updates had been written by then. -/
structure SetterCopy where
  record : ObjectRecord
  seen : Nat
deriving DecidableEq

/-- The store, the updates written so far and the copies that calls hold. -/
structure Setters where
  store : Store
  written : List Update
  copies : Table Nat SetterCopy

/-- The two transactions of a call. -/
inductive SetterStep where
  | read (call : Nat)
  | write (call : Nat)
deriving DecidableEq

/-- The setter that a call is. -/
def Store.setter (store : Store) (bucket key : String)
    (call : SetterCall) : Except StoreErr Store :=
  match call.update with
  | .legalHold hold =>
    store.setObjectLegalHold bucket key call.versionID hold
  | .retention retainUntil mode =>
    store.setObjectRetention bucket key call.versionID retainUntil mode
  | .tags pairs => store.setObjectTags bucket key call.versionID pairs
  | .objectMeta metadata contentType =>
    store.updateObjectMeta bucket key call.versionID metadata contentType

/-- The second transaction of a call that read a record. -/
def Store.writeCopy (store : Store) (call : SetterCall)
    (record : ObjectRecord) : Except StoreErr Store :=
  store.putObject (call.update.apply record)
    (call.versionID ≠ "" || record.versionID.text ≠ "")

/-- A setter is its two transactions, one right after the other. -/
theorem Store.setter_eq
    (store : Store) (bucket key : String) (call : SetterCall) :
    store.setter bucket key call =
      match store.getObjectVersion bucket key call.versionID with
      | some record => store.writeCopy call record
      | none => .error .notFound := by
  have rewritten : store.setter bucket key call =
      store.rewriteObject bucket key call.versionID call.update.apply := by
    unfold Store.setter
    cases call.update <;> rfl
  rw [rewritten]
  unfold Store.rewriteObject Store.writeCopy
  cases store.getObjectVersion bucket key call.versionID <;> rfl

namespace Setters

section Step

variable (bucket key : String) (calls : Nat → SetterCall)

def step (setters : Setters) : SetterStep → Setters
  | .read call =>
    match setters.store.getObjectVersion bucket key
        (calls call).versionID with
    | some record =>
      { setters with
        copies := setters.copies.put call
          ⟨record, setters.written.length⟩ }
    | none => setters
  | .write call =>
    match setters.copies.get call with
    | some copy =>
      let returned := setters.copies.delete call
      match setters.store.writeCopy (calls call) copy.record with
      | .ok stored =>
        { store := stored
          written := setters.written ++ [(calls call).update]
          copies := returned }
      | .error _ => { setters with copies := returned }
    | none => setters

/--
A call writes only if every update that was written since it read sets no
field but those that it sets itself.
-/
def Covers (setters : Setters) : SetterStep → Prop
  | .read _ => True
  | .write call =>
    ∀ copy ∈ setters.copies.get call,
      ∀ other ∈ setters.written.drop copy.seen,
        ∀ field, other.sets field = true →
          (calls call).update.sets field = true

instance (setters : Setters) (action : SetterStep) :
    Decidable (setters.Covers calls action) :=
  match action with
  | .read _ => isTrue trivial
  | .write call => inferInstanceAs (Decidable
      (∀ copy ∈ setters.copies.get call,
        ∀ other ∈ setters.written.drop copy.seen,
          ∀ field, other.sets field = true →
            (calls call).update.sets field = true))

end Step

end Setters

/-! ## The row of the object version -/

/--
The version that the calls are about: a record in its own row, which every
call resolves to.
-/
structure Resolves (store : Store) (bucket key versionID : String)
    (record : ObjectRecord) : Prop where
  row : store.objects.get ⟨store.normalizeObjectBucket bucket, key,
    record.versionID.text⟩ = some record
  wanted : store.versionRow (store.normalizeObjectBucket bucket) key
      (store.wantedID (store.normalizeObjectBucket bucket) key versionID) =
    if record.versionID.text = "" then none else some record

theorem Resolves.of_found
    (found : store.getObjectVersion bucket key versionID = some record)
    (flat : ∀ other, store.objects.get ⟨store.normalizeObjectBucket bucket,
      key, ""⟩ = some other → other.versionID.text = "") :
    Resolves store bucket key versionID record := by
  unfold Store.getObjectVersion at found
  simp only at found
  split at found
  · cases found
  · rename_i other lookup
    split_ifs at found
    cases found
    rcases Option.or_eq_some_iff.mp lookup with versioned | ⟨absent, here⟩
    · obtain ⟨named, row⟩ := Store.versionRow_eq_some_iff.mp versioned
      have text := (store.object_row _ record row).2.2 named
      constructor
      · rw [text]
        exact row
      · rw [versioned, if_neg (text ▸ named)]
    · have unnamed := flat record here
      constructor
      · rw [unnamed]
        exact here
      · rw [absent, if_pos unnamed]

/-- What a lookup finds later is the record of the row. -/
theorem Resolves.getObjectVersion
    {other : ObjectRecord}
    (resolves : Resolves store bucket key versionID record)
    (found : store.getObjectVersion bucket key versionID = some other) :
    other = record := by
  have row := resolves.row
  simp only [Store.getObjectVersion, resolves.wanted] at found
  by_cases unnamed : record.versionID.text = ""
  · rw [unnamed] at row
    simp only [unnamed, if_true, Option.none_or, row] at found
    split_ifs at found
    exact (Option.some.inj found).symm
  · simp only [unnamed, if_false, Option.some_or] at found
    split_ifs at found
    exact (Option.some.inj found).symm

/-- Two records are of the same version of an object. -/
structure SameVersion (left right : ObjectRecord) : Prop where
  bucket : left.bucket = right.bucket
  key : left.key = right.key
  versionID : left.versionID = right.versionID

theorem SameVersion.apply (update : Update) (record : ObjectRecord) :
    SameVersion (update.apply record) record := by
  cases update <;> exact ⟨rfl, rfl, rfl⟩

theorem SameVersion.trans
    {middle : ObjectRecord} (first : SameVersion left middle)
    (second : SameVersion middle right) : SameVersion left right :=
  ⟨first.bucket.trans second.bucket, first.key.trans second.key,
    first.versionID.trans second.versionID⟩

theorem SameVersion.applyAll (updates : List Update) (record : ObjectRecord) :
    SameVersion (applyAll updates record) record := by
  induction updates generalizing record with
  | nil => exact ⟨rfl, rfl, rfl⟩
  | cons first rest induction =>
    exact (induction (first.apply record)).trans
      (SameVersion.apply first record)

/-- A write of a copy of the record keeps every call resolved to it. -/
theorem Resolves.writeCopy
    {stored : Store} {copy : ObjectRecord} {call : SetterCall}
    (resolves : Resolves store bucket key versionID record)
    (same : SameVersion copy record)
    (done : store.writeCopy call copy = .ok stored) :
    Resolves stored bucket key versionID (call.update.apply copy) := by
  have identity := (SameVersion.apply call.update copy).trans same
  have fits := store.object_row _ record resolves.row
  have newBucket : (call.update.apply copy).bucket =
      store.normalizeObjectBucket bucket := identity.bucket.trans fits.1
  have newKey : (call.update.apply copy).key = key :=
    identity.key.trans fits.2.1
  have filed : store.filed (call.update.apply copy) =
      call.update.apply copy := by
    unfold Store.filed
    rw [newBucket, store.normalizeObjectBucket_idem, ← newBucket]
  unfold Store.writeCopy Store.putObject at done
  rw [filed, same.versionID] at done
  have normal : stored.normalizeObjectBucket bucket =
      store.normalizeObjectBucket bucket :=
    Store.normalizeObjectBucket_congr (Store.putObjectTx_sameRest done).buckets
      bucket
  by_cases unnamed : record.versionID.text = ""
  · by_cases direct : call.versionID = ""
    · -- The flat row replaces every row of the key.
      simp only [direct, unnamed] at done
      have rows := Store.get_putObjectTx_flat done
      constructor
      · rw [normal, identity.versionID, unnamed, rows, newBucket, newKey,
          if_pos rfl]
      · rw [normal, identity.versionID]
        unfold Store.versionRow
        split_ifs with wanted
        · rw [rows, newBucket, newKey, if_neg, if_pos ⟨rfl, rfl⟩]
          intro flat
          exact wanted (RowKey.mk.inj flat).2.2
        · rfl
    · -- A version cannot be stored without an id.
      simp only [direct, ne_eq] at done
      have named := Store.putObjectTx_versioned_ok_iff.mp ⟨stored, done⟩
      rw [identity.versionID] at named
      exact absurd unnamed named
  · simp only [ne_eq, unnamed, not_false_eq_true, decide_true,
      Bool.or_true] at done
    have rows := Store.get_putObjectTx_versioned done
    have latest := Store.latest_putObjectTx_versioned done
    have kept : ∀ object, stored.latest.get object =
        store.latest.get object := by
      intro object
      rw [latest, newBucket, newKey, identity.versionID, resolves.row]
      simp
    have wanted := resolves.wanted
    rw [if_neg unnamed] at wanted
    obtain ⟨named, target⟩ := Store.versionRow_eq_some_iff.mp wanted
    have text := (store.object_row _ record target).2.2 named
    constructor
    · rw [normal, rows, newBucket, newKey, if_pos rfl]
    · have sameWanted : stored.wantedID (store.normalizeObjectBucket bucket)
          key versionID = store.wantedID (store.normalizeObjectBucket bucket)
            key versionID := by
        unfold Store.wantedID
        rw [kept]
      rw [normal, sameWanted, identity.versionID, if_neg unnamed,
        Store.versionRow_eq_some_iff]
      refine ⟨named, ?_⟩
      rw [rows, newBucket, newKey, identity.versionID, if_pos]
      rw [text]

/-! ## Runs -/

namespace Setters

/--
The row holds the effect of the updates written so far, and a copy that of
the updates that had been written when it was read.
-/
structure Serial (bucket key : String) (calls : Nat → SetterCall)
    (first : ObjectRecord) (setters : Setters) : Prop where
  resolves : ∀ call, Resolves setters.store bucket key (calls call).versionID
    (applyAll setters.written first)
  copies : ∀ call copy, setters.copies.get call = some copy →
    copy.seen ≤ setters.written.length ∧
      copy.record = applyAll (setters.written.take copy.seen) first

section Run

variable {bucket key : String} {calls : Nat → SetterCall}
  {first : ObjectRecord} {setters : Setters}

section

variable (serial : Serial bucket key calls first setters)

include serial

private theorem Serial.read
    (call : Nat) :
    Serial bucket key calls first (setters.step bucket key calls
      (.read call)) := by
  cases found : setters.store.getObjectVersion bucket key
      (calls call).versionID with
  | none =>
    simp only [step, found]
    exact serial
  | some record =>
    simp only [step, found]
    refine ⟨serial.resolves, ?_⟩
    intro other copy held
    rw [Table.get_put] at held
    split_ifs at held
    · cases held
      refine ⟨le_rfl, ?_⟩
      rw [List.take_length]
      exact (serial.resolves call).getObjectVersion found
    · exact serial.copies other copy held

private theorem Serial.write
    {call : Nat} (covers : setters.Covers calls (.write call)) :
    Serial bucket key calls first (setters.step bucket key calls
      (.write call)) := by
  cases held : setters.copies.get call with
  | none =>
    simp only [step, held]
    exact serial
  | some copy =>
    obtain ⟨_, record⟩ := serial.copies call copy held
    have remaining : ∀ other kept,
        (setters.copies.delete call).get other = some kept →
        setters.copies.get other = some kept := by
      intro other kept present
      unfold Table.delete at present
      rw [Table.get_restrict] at present
      split_ifs at present
      exact present
    cases written : setters.store.writeCopy (calls call) copy.record with
    | error _ =>
      simp only [step, held, written]
      exact ⟨serial.resolves, fun other kept present =>
        serial.copies other kept (remaining other kept present)⟩
    | ok stored =>
      -- What was written since the read is hidden by the update.
      have effect : (calls call).update.apply copy.record =
          applyAll (setters.written ++ [(calls call).update]) first := by
        have hidden := Update.apply_applyAll_of_sets
          (covers copy held) (applyAll (setters.written.take copy.seen)
            first)
        rw [record, ← hidden, ← applyAll_append, List.take_append_drop,
          applyAll_append]
        rfl
      have same : SameVersion copy.record
          (applyAll setters.written first) := by
        have old := SameVersion.applyAll
          (setters.written.take copy.seen) first
        have new := SameVersion.applyAll setters.written first
        rw [record]
        exact ⟨old.bucket.trans new.bucket.symm, old.key.trans new.key.symm,
          old.versionID.trans new.versionID.symm⟩
      simp only [step, held, written]
      constructor
      · intro other
        rw [← effect]
        exact (serial.resolves other).writeCopy same written
      · intro other kept present
        obtain ⟨seen, content⟩ :=
          serial.copies other kept (remaining other kept present)
        refine ⟨seen.trans (by simp), ?_⟩
        rw [content, List.take_append_of_le_length seen]

theorem Serial.run
    {steps : List SetterStep}
    (guarded : Guarded (step bucket key calls) (Covers calls) setters steps) :
    Serial bucket key calls first
      (runAll (step bucket key calls) setters steps) := by
  refine guarded.invariant serial fun state action held covers => ?_
  cases action with
  | read call => exact held.read call
  | write call => exact held.write covers

end

end Run

/-- No call has begun. -/
def start (store : Store) : Setters := ⟨store, [], Table.empty⟩

end Setters

theorem LastSet.legalHold
    {updates : List Update} {first : ObjectRecord}
    (last : LastSet .legalHold updates first record)
    (held : .legalHold true ∈ updates) (kept : .legalHold false ∉ updates) :
    record.legalHold = true := by
  rcases last with ⟨none, _⟩ | ⟨before, update, after, parts, sets, _, same⟩
  · have unset := none _ held
    cases unset
  · have member : update ∈ updates := by simp [parts]
    cases update with
    | legalHold hold =>
      cases hold with
      | true => exact same
      | false => exact absurd member kept
    | _ => cases sets

/--
However the transactions of the calls are mixed: if no call writes after an
update of a field that it does not set was written since its read, then in the
end every field of the object version has the value of the last call that set
it, and a legal hold that some call set and none cleared is set.
-/
theorem setters_keep_fields
    (bucket key : String) (calls : Nat → SetterCall) (store : Store)
    (first : ObjectRecord)
    (found : ∀ call, store.getObjectVersion bucket key (calls call).versionID
      = some first)
    (flat : ∀ other, store.objects.get ⟨store.normalizeObjectBucket bucket,
      key, ""⟩ = some other → other.versionID.text = "")
    (steps : List SetterStep)
    (guarded : Guarded (Setters.step bucket key calls) (Setters.Covers calls)
      (Setters.start store) steps) :
    ∃ record, (runAll (Setters.step bucket key calls) (Setters.start store)
        steps).store.objects.get ⟨(runAll (Setters.step bucket key calls)
          (Setters.start store) steps).store.normalizeObjectBucket bucket, key,
            first.versionID.text⟩ = some record ∧
      (∀ field, LastSet field (runAll (Setters.step bucket key calls)
        (Setters.start store) steps).written first record) ∧
      (.legalHold true ∈ (runAll (Setters.step bucket key calls)
          (Setters.start store) steps).written →
        .legalHold false ∉ (runAll (Setters.step bucket key calls)
          (Setters.start store) steps).written →
        record.legalHold = true) := by
  have begun : Setters.Serial bucket key calls first (Setters.start store) :=
    { resolves := fun call => Resolves.of_found (found call) flat
      copies := by simp [Setters.start] }
  have serial := begun.run guarded
  generalize runAll (Setters.step bucket key calls) (Setters.start store)
    steps = final at serial
  have last := fun field => applyAll_lastSet field final.written first
  refine ⟨applyAll final.written first, ?_, last, fun held kept =>
    (last .legalHold).legalHold held kept⟩
  rw [← (SameVersion.applyAll final.written first).versionID]
  exact (serial.resolves 0).row

/-- An object without versions, and the store that has it. -/
def reportRecord : ObjectRecord where
  bucket := "docs"
  key := "report"
  size := 3
  etag := "900150983cd24fb0d6963f7d28e17f72"
  contentType := "text/plain"
  versionID := .null
  lastModified := 1

def reportStore : Store :=
  match Store.empty.putObject reportRecord false with
  | .ok store => store
  | .error _ => Store.empty

/-- One call sets a legal hold, the others set tags. -/
def holdAndTags (call : Nat) : SetterCall where
  versionID := ""
  update := if call = 0 then .legalHold true else .tags [("class", "audit")]

/-- Tags that are set in an older copy clear the legal hold. -/
theorem legal_hold_is_lost :
    (runAll (Setters.step "docs" "report" holdAndTags)
        (Setters.start reportStore)
        [.read 1, .read 0, .write 0, .write 1]).written =
      [.legalHold true, .tags [("class", "audit")]] ∧
      ((runAll (Setters.step "docs" "report" holdAndTags)
        (Setters.start reportStore) [.read 1, .read 0, .write 0,
          .write 1]).store.getObjectVersion "docs" "report" "").map
            ObjectRecord.legalHold = some false := by
  decide

/-- The same calls one after the other keep the hold. -/
theorem setters_keep_fields_in_turn :
    ∃ record, (runAll (Setters.step "docs" "report" holdAndTags)
        (Setters.start reportStore) [.read 0, .write 0, .read 1,
          .write 1]).store.objects.get
            ⟨(runAll (Setters.step "docs" "report" holdAndTags)
              (Setters.start reportStore) [.read 0, .write 0, .read 1,
                .write 1]).store.normalizeObjectBucket "docs", "report",
              ""⟩ = some record ∧ record.legalHold = true := by
  have flat : ∀ other, reportStore.objects.get
      ⟨reportStore.normalizeObjectBucket "docs", "report", ""⟩ = some other →
        other.versionID.text = "" := by
    have all : ∀ other ∈ reportStore.objects.get
        ⟨reportStore.normalizeObjectBucket "docs", "report", ""⟩,
          other.versionID.text = "" := by
      decide
    exact all
  have found : reportStore.getObjectVersion "docs" "report" "" =
      some reportRecord := by
    decide
  obtain ⟨record, row, _, held⟩ := setters_keep_fields "docs" "report"
    holdAndTags reportStore reportRecord (fun _ => found) flat
    [.read 0, .write 0, .read 1, .write 1] (by decide)
  exact ⟨record, row, held (by decide) (by decide)⟩

end DataSafe.Metadata
