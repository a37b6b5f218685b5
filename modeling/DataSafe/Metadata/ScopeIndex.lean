import DataSafe.Base.Machine
import DataSafe.Base.Table

/-!
# The scope index of buckets

A bucket has a name within a scope, the tenant it belongs to or its owner.
`bucket_scope_index` maps scopes and names to storage keys.  `PutBucket`
writes an entry and `DeleteBucket` removes the one that it computes from the
record.  `UpdateBucket` stores a record and leaves the index alone, although
the scope of the record may be another one.

The result is about runs: the index fits the records in every state of a run
exactly if every update keeps the scope and the name of its record.
-/

namespace DataSafe.Metadata.ScopeIndex

open Base

/-! ## Scopes -/

inductive BucketScope where
  | tenant (tenantID : String)
  | owner (ownerID : String)
deriving DecidableEq

def defaultTenantID : String := "default"

def isTenantScoped (tenantID : String) : Bool :=
  decide (tenantID ≠ "" ∧ tenantID ≠ defaultTenantID)

def bucketScopeForRecord (tenantID ownerID : String) : BucketScope :=
  if isTenantScoped tenantID then .tenant tenantID else .owner ownerID

def sanitizeScopePart (part : String) : String :=
  part.map (fun rune =>
    if rune = ':' ∨ rune = '\\' ∨ rune = '/' ∨ rune = '\x00' then '_'
    else rune)

def makeStorageKey (scope : BucketScope) (name : String) : String :=
  match scope with
  | .tenant tenantID =>
    "t__" ++ sanitizeScopePart tenantID ++ "__" ++ sanitizeScopePart name
  | .owner ownerID =>
    if ownerID = "" then name
    else "o__" ++ sanitizeScopePart ownerID ++ "__" ++ sanitizeScopePart name

def scopeIndexKey (scope : BucketScope) (name : String) : String :=
  match scope with
  | .tenant tenantID => "t\x00" ++ tenantID ++ "\x00" ++ name
  | .owner ownerID => "o\x00" ++ ownerID ++ "\x00" ++ name

/-! ## Records -/

/-- A bucket with its settings, which scopes do not depend on. -/
structure Bucket (Settings : Type) where
  storageKey : String := ""
  name : String
  owner : String := ""
  ownerID : String := ""
  teamID : String := ""
  tenantID : String := ""
  settings : Settings

namespace Bucket

variable {Settings : Type}

def effectiveStorageKey (bucket : Bucket Settings) : String :=
  if bucket.storageKey ≠ "" then bucket.storageKey else bucket.name

def legacyBucket (bucket : Bucket Settings) : Bool :=
  decide (bucket.storageKey = "" ∨ bucket.storageKey = bucket.name)

def scope (bucket : Bucket Settings) : BucketScope :=
  bucketScopeForRecord bucket.tenantID bucket.ownerID

/-- The key of the index for the scope and the name of a record. -/
def indexKey (bucket : Bucket Settings) : String :=
  scopeIndexKey bucket.scope bucket.name

end Bucket

/-! ## The tables -/

structure Tables (Settings : Type) where
  buckets : Table String (Bucket Settings)
  index : Table String String

inductive TableErr where
  | notFound
  | bucketExists
  | bucketNotEmpty
  | keyRequired
deriving DecidableEq

variable {Settings : Type}

def Tables.empty : Tables Settings :=
  ⟨Table.empty, Table.empty⟩

/-- `putBucketTx` on a record that has its storage key. -/
def putBucketTx (tables : Tables Settings) (bucket : Bucket Settings) :
    Except TableErr (Tables Settings) :=
  if (tables.index.get bucket.indexKey).isSome then .error .bucketExists
  else if (tables.buckets.get bucket.storageKey).isSome then
    .error .bucketExists
  else if bucket.storageKey = "" then .error .keyRequired
  else
    .ok ⟨tables.buckets.put bucket.storageKey bucket,
      tables.index.put bucket.indexKey bucket.storageKey⟩

def putBucket (tables : Tables Settings) (bucket : Bucket Settings) :
    Except TableErr (Tables Settings) :=
  putBucketTx tables (if bucket.storageKey = "" then
      { bucket with
        storageKey := makeStorageKey bucket.scope bucket.name }
    else bucket)

def resolveBucket (tables : Tables Settings) (scope : BucketScope)
    (name : String) : Option (Bucket Settings) :=
  match tables.index.get (scopeIndexKey scope name) with
  | some key => tables.buckets.get key
  | none =>
    match scope with
    | .tenant _ => none
    | .owner ownerID =>
      (tables.buckets.get name).filter (fun bucket =>
        bucket.legacyBucket && decide (bucket.ownerID = ownerID))

def updateBucket (tables : Tables Settings) (bucket : Bucket Settings) :
    Except TableErr (Tables Settings) :=
  if (tables.buckets.get bucket.effectiveStorageKey).isSome then
    .ok ⟨tables.buckets.put bucket.effectiveStorageKey bucket, tables.index⟩
  else .error .notFound

/-- `deleteBucketTx`; `occupied` if the object tables hold rows of it. -/
def deleteBucket (tables : Tables Settings) (storageKey : String)
    (occupied : Bool) : Except TableErr (Tables Settings) :=
  match tables.buckets.get storageKey with
  | none => .error .notFound
  | some bucket =>
    if occupied then .error .bucketNotEmpty
    else
      .ok ⟨tables.buckets.delete storageKey,
        tables.index.delete bucket.indexKey⟩

/-- The record of a row with its storage key. -/
def keyed (key : String) (bucket : Bucket Settings) : Bucket Settings :=
  if bucket.storageKey = "" then { bucket with storageKey := key }
  else bucket

/-- `migrateBucketScopeIndex` for one row. -/
def migrateRow (tables : Tables Settings) (key : String)
    (bucket : Bucket Settings) : Tables Settings :=
  let record := keyed key bucket
  let index :=
    if (tables.index.get record.indexKey).isSome then tables.index
    else tables.index.put record.indexKey record.storageKey
  if key ≠ record.storageKey then
    ⟨(tables.buckets.put record.storageKey record).delete key, index⟩
  else ⟨tables.buckets.put key record, index⟩

/-- Opening the store walks along the rows in the order of their keys. -/
def reopen (tables : Tables Settings) : Tables Settings :=
  (tables.buckets.scan (fun left right => left ≤ right)).foldl
    (fun tables row => migrateRow tables row.1 row.2) tables

/-! ## What the server changes -/

/-- What the server knows about the user who created a bucket. -/
structure Creator where
  username : String
  userID : String
  /-- The team of the user, empty if they have none or are not known. -/
  teamID : String
  /-- `primaryTenantIDForUser` -/
  tenantID : String

/-- The record that `stampBucketOwnership` writes, if it differs. -/
def stampBucketOwnership (creator : Creator) (bucket : Bucket Settings) :
    Option (Bucket Settings) :=
  if (bucket.owner = "" ∧ creator.username ≠ "") ∨
      (bucket.ownerID = "" ∧ creator.userID ≠ "") ∨
      (bucket.teamID = "" ∧ creator.teamID ≠ "") ∨
      bucket.tenantID ≠ creator.tenantID then
    some { bucket with
      owner := if bucket.owner = "" then creator.username else bucket.owner
      ownerID :=
        if bucket.ownerID = "" then creator.userID else bucket.ownerID
      teamID := if bucket.teamID = "" then creator.teamID else bucket.teamID
      tenantID := creator.tenantID }
  else none

/-- The record that the assignment to a tenant group writes. -/
def assignTenant (tenantID : String) (bucket : Bucket Settings) :
    Option (Bucket Settings) :=
  if bucket.tenantID ≠ tenantID then
    some { bucket with tenantID := tenantID }
  else none

/-! ## Runs -/

inductive Operation (Settings : Type) where
  | put (bucket : Bucket Settings)
  | update (bucket : Bucket Settings)
  | stamp (storageKey : String) (creator : Creator)
  | assign (storageKey tenantID : String)
  | delete (storageKey : String) (occupied : Bool)
  | reopen

/-- The record that an operation hands to `UpdateBucket`. -/
def updatedRecord (tables : Tables Settings) :
    Operation Settings → Option (Bucket Settings)
  | .update bucket => some bucket
  | .stamp storageKey creator =>
    (tables.buckets.get storageKey).bind (stampBucketOwnership creator)
  | .assign storageKey tenantID =>
    (tables.buckets.get storageKey).bind (assignTenant tenantID)
  | _ => none

/-- A transaction that fails leaves the tables as they were. -/
def committed (tables : Tables Settings) :
    Except TableErr (Tables Settings) → Tables Settings
  | .ok after => after
  | .error _ => tables

def updateRecord (tables : Tables Settings) :
    Option (Bucket Settings) → Tables Settings
  | some bucket => committed tables (updateBucket tables bucket)
  | none => tables

def step (tables : Tables Settings) :
    Operation Settings → Tables Settings
  | .put bucket => committed tables (putBucket tables bucket)
  | .delete storageKey occupied =>
    committed tables (deleteBucket tables storageKey occupied)
  | .reopen => reopen tables
  | .update bucket =>
    updateRecord tables (updatedRecord tables (.update bucket))
  | .stamp storageKey creator =>
    updateRecord tables (updatedRecord tables (.stamp storageKey creator))
  | .assign storageKey tenantID =>
    updateRecord tables (updatedRecord tables (.assign storageKey tenantID))

/-! ## The index and the records -/

/-- The index fits the records. -/
structure Indexed (tables : Tables Settings) : Prop where
  resolves : ∀ key bucket, tables.buckets.get key = some bucket →
    resolveBucket tables bucket.scope bucket.name = some bucket
  distinct : ∀ key other bucket twin, tables.buckets.get key = some bucket →
      tables.buckets.get other = some twin →
        bucket.scope = twin.scope → bucket.name = twin.name → key = other
  entries : ∀ entry key, tables.index.get entry = some key →
    ∃ bucket, tables.buckets.get key = some bucket ∧
      scopeIndexKey bucket.scope bucket.name = entry

/-- Every row is filed under its keys in both tables. -/
structure Filed (tables : Tables Settings) : Prop where
  keyed : ∀ key bucket, tables.buckets.get key = some bucket →
    bucket.effectiveStorageKey = key
  indexed : ∀ key bucket, tables.buckets.get key = some bucket →
    tables.index.get bucket.indexKey = some key
  entries : ∀ entry key, tables.index.get entry = some key →
    ∃ bucket, tables.buckets.get key = some bucket ∧ bucket.indexKey = entry

/-- An update keeps the place of its record in the index. -/
def KeepsScope (tables : Tables Settings)
    (operation : Operation Settings) : Prop :=
  ∀ bucket, updatedRecord tables operation = some bucket → ∀ earlier,
      tables.buckets.get bucket.effectiveStorageKey = some earlier →
        earlier.indexKey = bucket.indexKey

theorem Filed.empty : Filed (Tables.empty : Tables Settings) where
  keyed := by simp [Tables.empty]
  indexed := by simp [Tables.empty]
  entries := by simp [Tables.empty]

variable {key : String}

section Steps

variable {tables after : Tables Settings} {bucket : Bucket Settings}

theorem Filed.fits (filed : Filed tables) : Indexed tables where
  resolves := by
    intro key bucket stored
    have entry : tables.index.get
        (scopeIndexKey bucket.scope bucket.name) = some key :=
      filed.indexed key bucket stored
    unfold resolveBucket
    rw [entry]
    exact stored
  distinct := by
    intro key other bucket twin stored copied scope name
    have first := filed.indexed key bucket stored
    have second := filed.indexed other twin copied
    rw [Bucket.indexKey, scope, name] at first
    exact Option.some_injective _ (first.symm.trans second)
  entries := filed.entries

theorem Filed.putBucketTx (filed : Filed tables)
    (put : putBucketTx tables bucket = .ok after) : Filed after := by
  unfold ScopeIndex.putBucketTx at put
  split_ifs at put with indexed stored unnamed
  cases put
  have new : tables.index.get bucket.indexKey = none := by
    simpa using indexed
  have free : tables.buckets.get bucket.storageKey = none := by
    simpa using stored
  constructor
  · intro key found present
    rw [Table.get_put] at present
    split_ifs at present with same
    · cases present
      rw [Bucket.effectiveStorageKey, if_pos unnamed, same]
    · exact filed.keyed key found present
  · intro key found present
    rw [Table.get_put] at present
    split_ifs at present with same
    · cases present
      rw [Table.get_put_self, same]
    · have earlier := filed.indexed key found present
      rw [Table.get_put_of_ne _ _ (fun equal => by
        rw [equal, new] at earlier
        cases earlier)]
      exact earlier
  · intro entry key listed
    rw [Table.get_put] at listed
    split_ifs at listed with same
    · cases listed
      exact ⟨bucket, Table.get_put_self _ _ _, same.symm⟩
    · obtain ⟨found, present, listed⟩ := filed.entries entry key listed
      refine ⟨found, ?_, listed⟩
      rw [Table.get_put_of_ne _ _ (fun equal => by
        rw [equal, free] at present
        cases present)]
      exact present

/-- Replacing a record by one of the same scope and name keeps the order. -/
theorem Filed.replace {earlier : Bucket Settings} (filed : Filed tables)
    (stored : tables.buckets.get key = some earlier)
    (own : bucket.effectiveStorageKey = key)
    (same : earlier.indexKey = bucket.indexKey) :
    Filed ⟨tables.buckets.put key bucket, tables.index⟩ := by
  constructor
  · intro other found present
    rw [Table.get_put] at present
    split_ifs at present with equal
    · cases present
      rw [own, equal]
    · exact filed.keyed other found present
  · intro other found present
    rw [Table.get_put] at present
    split_ifs at present with equal
    · cases present
      rw [← same, equal]
      exact filed.indexed key earlier stored
    · exact filed.indexed other found present
  · intro entry other listed
    obtain ⟨found, present, listed⟩ := filed.entries entry other listed
    by_cases equal : other = key
    · subst equal
      cases stored.symm.trans present
      exact ⟨bucket, Table.get_put_self _ _ _, same.symm.trans listed⟩
    · exact ⟨found, (Table.get_put_of_ne _ _ equal).trans present, listed⟩

theorem Filed.deleteBucket {storageKey : String} {occupied : Bool}
    (filed : Filed tables)
    (deleted : deleteBucket tables storageKey occupied = .ok after) :
    Filed after := by
  unfold ScopeIndex.deleteBucket at deleted
  split at deleted
  · cases deleted
  · rename_i gone stored
    split_ifs at deleted
    cases deleted
    -- The entry that goes names the row that goes, and no other one.
    have named := filed.indexed storageKey gone stored
    constructor
    · intro key found present
      obtain ⟨-, present⟩ := (Table.get_delete_eq_some_iff _).mp present
      exact filed.keyed key found present
    · intro key found present
      obtain ⟨other, present⟩ := (Table.get_delete_eq_some_iff _).mp present
      have entry := filed.indexed key found present
      rw [Table.get_delete_of_ne _ (fun equal => by
        rw [equal, named] at entry
        exact other (Option.some_injective _ entry).symm)]
      exact entry
    · intro entry key listed
      obtain ⟨other, listed⟩ := (Table.get_delete_eq_some_iff _).mp listed
      obtain ⟨found, present, own⟩ := filed.entries entry key listed
      refine ⟨found, ?_, own⟩
      rw [Table.get_delete_of_ne _ (fun equal => by
        rw [equal, stored] at present
        cases present
        exact other own.symm)]
      exact present

/-! ### Reopening -/

@[simp]
theorem keyed_indexKey (key : String) (bucket : Bucket Settings) :
    (keyed key bucket).indexKey = bucket.indexKey := by
  unfold keyed
  split <;> rfl

/-- The storage key of a record that lies where it belongs. -/
theorem keyed_storageKey
    (own : bucket.effectiveStorageKey = key) :
    (keyed key bucket).storageKey = key := by
  unfold keyed
  split_ifs with bare
  · rfl
  · rwa [Bucket.effectiveStorageKey, if_pos bare] at own

theorem keyed_effectiveStorageKey
    (own : bucket.effectiveStorageKey = key) :
    (keyed key bucket).effectiveStorageKey = key := by
  unfold keyed
  split_ifs with bare
  · rw [Bucket.effectiveStorageKey, if_neg (not_not.mpr bare)] at own
    rw [Bucket.effectiveStorageKey]
    split_ifs with named
    · rfl
    · exact own
  · exact own

/-- A row that the walk has still to meet, in the tables at that time. -/
def StandsFor (tables : Tables Settings) (key : String)
    (bucket : Bucket Settings) : Prop :=
  bucket.effectiveStorageKey = key ∧
    ∃ current, tables.buckets.get key = some current ∧
      current.indexKey = bucket.indexKey

section

variable {operation : Operation Settings} (filed : Filed tables)

include filed

/-- A row that lies where it belongs is only given its storage key. -/
theorem migrateRow_eq
    (stands : StandsFor tables key bucket) :
    migrateRow tables key bucket =
      ⟨tables.buckets.put key (keyed key bucket), tables.index⟩ := by
  obtain ⟨own, current, stored, same⟩ := stands
  have indexed : (tables.index.get (keyed key bucket).indexKey).isSome := by
    rw [keyed_indexKey, ← same, filed.indexed key current stored]
    rfl
  unfold migrateRow
  dsimp only
  rw [if_pos indexed, if_neg (not_not.mpr (keyed_storageKey own).symm)]

theorem Filed.migrateRow
    (stands : StandsFor tables key bucket) :
    Filed (migrateRow tables key bucket) := by
  rw [migrateRow_eq filed stands]
  obtain ⟨own, current, stored, same⟩ := stands
  exact filed.replace stored (keyed_effectiveStorageKey own)
    (same.trans (keyed_indexKey key bucket).symm)

theorem StandsFor.migrateRow {other : String} {later : Bucket Settings}
    (stands : StandsFor tables key bucket)
    (waits : StandsFor tables other later) :
    StandsFor (migrateRow tables key bucket) other later := by
  rw [migrateRow_eq filed stands]
  obtain ⟨own, current, stored, same⟩ := waits
  refine ⟨own, ?_⟩
  by_cases equal : other = key
  · subst equal
    obtain ⟨-, earlier, present, agrees⟩ := stands
    cases stored.symm.trans present
    exact ⟨keyed other bucket, Table.get_put_self _ _ _, by
      rw [keyed_indexKey, ← agrees, same]⟩
  · exact ⟨current, (Table.get_put_of_ne _ _ equal).trans stored, same⟩

/-- The walk keeps the order: no row is moved and no entry is added. -/
theorem Filed.reopen : Filed (reopen tables) := by
  have walk : ∀ (rows : List (String × Bucket Settings))
      (current : Tables Settings), Filed current →
      (∀ row ∈ rows, StandsFor current row.1 row.2) →
      Filed (rows.foldl
        (fun tables row => ScopeIndex.migrateRow tables row.1 row.2)
        current) := by
    intro rows
    induction rows with
    | nil => exact fun _ filed _ => filed
    | cons row rest induction =>
      intro current filed waiting
      have stands := waiting row List.mem_cons_self
      exact induction _ (filed.migrateRow stands) fun later listed =>
        stands.migrateRow filed
          (waiting later (List.mem_cons_of_mem _ listed))
  refine walk _ tables filed fun row listed => ?_
  have stored := (tables.buckets.mem_scan_iff _ row.1 row.2).mp listed
  exact ⟨filed.keyed row.1 row.2 stored, row.2, stored, rfl⟩

/-! ### Steps -/

theorem Filed.updateRecord
    {record : Option (Bucket Settings)}
    (keeps : ∀ bucket, record = some bucket → ∀ earlier, tables.buckets.get
      bucket.effectiveStorageKey = some earlier → earlier.indexKey =
      bucket.indexKey) :
    Filed (updateRecord tables record) := by
  cases record with
  | none => exact filed
  | some bucket =>
    change Filed (committed tables (updateBucket tables bucket))
    cases stored : tables.buckets.get bucket.effectiveStorageKey with
    | none => simpa [updateBucket, stored, committed] using filed
    | some earlier =>
      simpa [updateBucket, stored, committed] using
        filed.replace stored rfl (keeps bucket rfl earlier stored)

/-- A transaction that keeps the order keeps it if it fails, too. -/
theorem Filed.committed
    {result : Except TableErr (Tables Settings)}
    (kept : ∀ after, result = .ok after → Filed after) :
    Filed (committed tables result) := by
  cases result with
  | error err => exact filed
  | ok after => exact kept after rfl

theorem Filed.step
    (keeps : KeepsScope tables operation) :
    Filed (step tables operation) := by
  cases operation with
  | put bucket =>
    exact filed.committed fun after put => filed.putBucketTx put
  | delete storageKey occupied =>
    exact filed.committed fun after deleted => filed.deleteBucket deleted
  | reopen => exact filed.reopen
  | update bucket => exact filed.updateRecord keeps
  | stamp storageKey creator => exact filed.updateRecord keeps
  | assign storageKey tenantID => exact filed.updateRecord keeps

omit filed in
theorem step_updated
    (updated : updatedRecord tables operation = some bucket) :
    step tables operation = updateRecord tables (some bucket) := by
  cases operation with
  | update record => rw [← updated]; rfl
  | stamp storageKey creator => rw [← updated]; rfl
  | assign storageKey tenantID => rw [← updated]; rfl
  | put record => cases updated
  | delete storageKey occupied => cases updated
  | reopen => cases updated

/-- An update that moves its record leaves the old entry behind. -/
theorem keepsScope_of_indexed
    (indexed : Indexed (step tables operation)) :
    KeepsScope tables operation := by
  intro bucket updated earlier stored
  rw [step_updated updated] at indexed
  have after : updateRecord tables (some bucket) =
      ⟨tables.buckets.put bucket.effectiveStorageKey bucket,
        tables.index⟩ := by
    simp [updateRecord, updateBucket, stored, committed]
  rw [after] at indexed
  obtain ⟨found, present, entry⟩ := indexed.entries earlier.indexKey
    bucket.effectiveStorageKey (filed.indexed _ earlier stored)
  rw [Table.get_put_self] at present
  cases present
  exact entry.symm

end

end Steps

/-- A run whose updates keep the scopes keeps the tables in order. -/
theorem filed_of_guarded {run : List (Operation Settings)}
    (guarded : Guarded step KeepsScope Tables.empty run) :
    Filed (runAll step Tables.empty run) :=
  guarded.invariant Filed.empty fun _ _ filed keeps => filed.step keeps

/--
The index fits the records in every state of a run exactly if every update of
the run, those of the server included, keeps the scope and the name of the
record that it replaces.
-/
theorem scope_index_iff (run : List (Operation Settings)) :
    (∀ front, front <+: run → Indexed (runAll step Tables.empty front)) ↔
      Guarded step KeepsScope Tables.empty run := by
  constructor
  · intro indexed
    induction run using List.reverseRecOn with
    | nil => exact guarded_nil
    | append_singleton actions operation induction =>
      have guarded := induction fun front earlier =>
        indexed front (earlier.trans (List.prefix_append _ _))
      have last := indexed _ (List.prefix_refl _)
      rw [runAll_concat] at last
      intro front next made
      rcases List.prefix_concat_iff.mp made with whole | earlier
      · obtain ⟨rfl, same⟩ := List.append_inj' whole rfl
        cases same
        exact keepsScope_of_indexed (filed_of_guarded guarded) last
      · exact guarded front next earlier
  · intro guarded front earlier
    exact (filed_of_guarded (guarded.mono earlier)).fits

/-! ### A bucket that is moved to a tenant -/

/-- A bucket of one user, moved to a tenant, and a bucket of the tenant. -/
def movedRun : List (Operation Unit) :=
  [.put { name := "photos", ownerID := "u1", settings := () },
    .assign "o__u1__photos" "acme",
    .put { name := "photos", tenantID := "acme", settings := () }]

/--
After the move the bucket is not found in its scope, and a second bucket can
take its name there.
-/
theorem moved_bucket_lost :
    (resolveBucket (runAll step Tables.empty (movedRun.take 2))
        (.tenant "acme") "photos").isNone = true ∧
      ((runAll step Tables.empty movedRun).buckets.get
        "o__u1__photos").map (fun bucket => (bucket.scope, bucket.name)) =
          some (.tenant "acme", "photos") ∧
      ((runAll step Tables.empty movedRun).buckets.get
        "t__acme__photos").map (fun bucket => (bucket.scope, bucket.name)) =
          some (.tenant "acme", "photos") ∧
      ¬ Indexed (runAll step Tables.empty movedRun) := by
  have first : ((runAll step Tables.empty movedRun).buckets.get
      "o__u1__photos").map (fun bucket => (bucket.scope, bucket.name)) =
        some (.tenant "acme", "photos") := by
    decide +kernel
  have second : ((runAll step Tables.empty movedRun).buckets.get
      "t__acme__photos").map (fun bucket => (bucket.scope, bucket.name)) =
        some (.tenant "acme", "photos") := by
    decide +kernel
  refine ⟨by decide +kernel, first, second, fun indexed => ?_⟩
  obtain ⟨bucket, stored, named⟩ := Option.map_eq_some_iff.mp first
  obtain ⟨twin, copied, likewise⟩ := Option.map_eq_some_iff.mp second
  have both := named.trans likewise.symm
  have equal := indexed.distinct _ _ bucket twin stored copied
    (congrArg Prod.fst both) (congrArg Prod.snd both)
  exact absurd equal (by decide)

end DataSafe.Metadata.ScopeIndex
