import DataSafe.Metadata.Records

/-!
# The metadata store

The Bolt store keeps one row for each version of an object and one flat row
for an object without versions; `object_latest` names the current version of
a key.  A flat row is keyed by the empty version id here.

`Store` carries what every transaction keeps: a bucket is stored under its
effective storage key, an object row holds a record of its own bucket, key
and version, and the row of a key is stored under its id.  Each function is
one transaction that either returns the new store or an error and leaves the
store as it was.
-/

namespace DataSafe.Metadata

open Base

/-- The key of a row of the `objects` table. -/
structure RowKey where
  bucket : String
  key : String
  versionID : String
deriving DecidableEq

/-- The key of a row of the `object_latest` table. -/
structure ObjectKey where
  bucket : String
  key : String
deriving DecidableEq

/-- A record belongs under a row key. -/
def ObjectRecord.FitsRow (record : ObjectRecord) (row : RowKey) : Prop :=
  record.bucket = row.bucket ∧ record.key = row.key ∧
    (row.versionID ≠ "" → record.versionID.text = row.versionID)

structure Store where
  buckets : Table String BucketRecord
  objects : Table RowKey ObjectRecord
  latest : Table ObjectKey String
  multipart : Table String MultipartRecord
  kmsKeys : Table String KMSKeyRecord
  users : Table String UserRecord
  bucket_key : ∀ key bucket,
    buckets.get key = some bucket → bucket.effectiveStorageKey = key
  object_row : ∀ row record,
    objects.get row = some record → record.FitsRow row
  latest_ne : ∀ object versionID,
    latest.get object = some versionID → versionID ≠ ""
  kms_row : ∀ id key, kmsKeys.get id = some key → key.id = id

inductive StoreErr where
  | notFound
  | bucketExists
  | keyRequired
  | transaction
deriving DecidableEq

variable {store stored : Store} {key bucket versionID : String}
  {record : ObjectRecord} {versioned versioning : Bool}
  {records : List ObjectRecord}

namespace Store

/-- A store without rows. -/
def empty : Store where
  buckets := Table.empty
  objects := Table.empty
  latest := Table.empty
  multipart := Table.empty
  kmsKeys := Table.empty
  users := Table.empty
  bucket_key := by simp
  object_row := by simp
  latest_ne := by simp
  kms_row := by simp

/-! ## Buckets -/

def getBucketByKey (store : Store) (storageKey : String) :
    Option BucketRecord :=
  store.buckets.get storageKey

/-- All buckets in the order of their keys. -/
def listBuckets (store : Store) : List BucketRecord :=
  (store.buckets.scan (fun left right => left ≤ right)).map Prod.snd

/-- A bucket by its storage key, or by a name that only one bucket has. -/
def getBucket (store : Store) (name : String) : Option BucketRecord :=
  match store.getBucketByKey name with
  | some bucket => some bucket
  | none =>
    match store.listBuckets.filter (fun bucket => bucket.name = name) with
    | [bucket] => some bucket
    | _ => none

def normalizeObjectBucket (store : Store) (bucket : String) : String :=
  match store.getBucket bucket with
  | some record => record.effectiveStorageKey
  | none => bucket

/-- Store a bucket under its own key. -/
def withBucket (store : Store) (bucket : BucketRecord) : Store where
  buckets := store.buckets.put bucket.effectiveStorageKey bucket
  objects := store.objects
  latest := store.latest
  multipart := store.multipart
  kmsKeys := store.kmsKeys
  users := store.users
  bucket_key := by
    intro key found present
    rw [Table.get_put] at present
    split_ifs at present with same
    · cases present
      exact same.symm
    · exact store.bucket_key key found present
  object_row := store.object_row
  latest_ne := store.latest_ne
  kms_row := store.kms_row

/-- `putBucketTx` on a bucket with a storage key. -/
def putBucket (store : Store) (bucket : BucketRecord) :
    Except StoreErr Store :=
  if bucket.storageKey = "" then .error .keyRequired
  else if (store.getBucketByKey bucket.storageKey).isSome then
    .error .bucketExists
  else .ok (store.withBucket bucket)

def updateBucket (store : Store) (bucket : BucketRecord) :
    Except StoreErr Store :=
  if (store.getBucketByKey bucket.effectiveStorageKey).isSome then
    .ok (store.withBucket bucket)
  else .error .notFound

/-! ## Reading objects -/

/-- The version that a request means: the latest if it names none. -/
def wantedID (store : Store) (bucket key versionID : String) : String :=
  if versionID = "" then (store.latest.get ⟨bucket, key⟩).getD ""
  else versionID

/-- The row of a version that has an id. -/
def versionRow (store : Store) (bucket key versionID : String) :
    Option ObjectRecord :=
  if versionID ≠ "" then store.objects.get ⟨bucket, key, versionID⟩
  else none

/-- One version, or the current one when `versionID` is empty. -/
def getObjectVersion (store : Store) (bucket key versionID : String) :
    Option ObjectRecord :=
  let bucket := store.normalizeObjectBucket bucket
  let versionID := store.wantedID bucket key versionID
  match (store.versionRow bucket key versionID).or
      (store.objects.get ⟨bucket, key, ""⟩) with
  | none => none
  | some record =>
    -- Only a flat row is hidden here: a marker that the latest pointer
    -- names is returned like any other version.
    if versionID = "" ∧ record.isDeleteMarker then none else some record

def getObject (store : Store) (bucket key : String) : Option ObjectRecord :=
  store.getObjectVersion bucket key ""

/-- The order of row keys within a bucket. -/
def RowKey.before (left right : RowKey) : Bool :=
  decide (left.key < right.key) ||
    (left.key = right.key && decide (left.versionID ≤ right.versionID))

/-- The rows of a bucket in the order of their keys. -/
def rows (store : Store) (bucket : String) : List (RowKey × ObjectRecord) :=
  (store.objects.scan RowKey.before).filter
    (fun row => row.1.bucket = bucket)

/-- The version rows of one key in the order of their ids. -/
def versions (store : Store) (bucket key : String) : List ObjectRecord :=
  ((store.rows bucket).filter (fun row =>
    row.1.key = key && row.1.versionID != "")).map Prod.snd

/-- All version ids of a key, newest first. -/
def listObjectVersionIDs (store : Store) (bucket key : String) :
    List VersionID :=
  let bucket := store.normalizeObjectBucket bucket
  ((store.versions bucket key).insertionSort
    (fun left right => right.lastModified ≤ left.lastModified)).map
    ObjectRecord.versionID

/-- The current objects of a bucket, in no particular order. -/
def listObjects (store : Store) (bucket : String) : List ObjectRecord :=
  let bucket := store.normalizeObjectBucket bucket
  let current :=
    (store.latest.entries.filter (fun entry =>
      entry.1.bucket = bucket)).filterMap (fun entry =>
        (store.objects.get ⟨bucket, entry.1.key, entry.2⟩).bind
          (fun record =>
            if record.isDeleteMarker then none else some record))
  let flat :=
    ((store.rows bucket).filter (fun row =>
      row.1.versionID = "" &&
        !current.any (fun record => record.key = row.1.key))).map Prod.snd
  current ++ flat

def bucketObjectCount (store : Store) (bucket : String) : Int :=
  (store.listObjects bucket).length

def bucketTotalSize (store : Store) (bucket : String) : Int :=
  ((store.listObjects bucket).map ObjectRecord.size).sum

/-- Object count and bytes over the buckets of an owner. -/
def ownerUsage (store : Store) (owner : String) : Int × Int :=
  let owned :=
    store.listBuckets.filter (fun bucket =>
      bucket.owner != "" && bucket.owner = owner)
  ((owned.map (fun bucket =>
      store.bucketObjectCount bucket.effectiveStorageKey)).sum,
    (owned.map (fun bucket =>
      store.bucketTotalSize bucket.effectiveStorageKey)).sum)

/-! ## Writing objects -/

/-- Put a record into a row that it belongs to. -/
def withRow (store : Store) (record : ObjectRecord)
    (versionID : String)
    (fits : versionID ≠ "" → record.versionID.text = versionID) :
    Store where
  buckets := store.buckets
  objects :=
    store.objects.put ⟨record.bucket, record.key, versionID⟩ record
  latest := store.latest
  multipart := store.multipart
  kmsKeys := store.kmsKeys
  users := store.users
  bucket_key := store.bucket_key
  object_row := by
    intro row found present
    rw [Table.get_put] at present
    split_ifs at present with same
    · cases present
      cases same
      exact ⟨rfl, rfl, fits⟩
    · exact store.object_row row found present
  latest_ne := store.latest_ne
  kms_row := store.kms_row

/-- Keep only some rows of the objects table. -/
def restrictRows (store : Store) (keep : RowKey → Bool) :
    Store where
  buckets := store.buckets
  objects := store.objects.restrict keep
  latest := store.latest
  multipart := store.multipart
  kmsKeys := store.kmsKeys
  users := store.users
  bucket_key := store.bucket_key
  object_row := by
    intro row found present
    rw [Table.get_restrict] at present
    split_ifs at present
    exact store.object_row row found present
  latest_ne := store.latest_ne
  kms_row := store.kms_row

/-- Point a key to one of its versions. -/
def withLatest (store : Store) (object : ObjectKey)
    (versionID : String) (nonempty : versionID ≠ "") : Store where
  buckets := store.buckets
  objects := store.objects
  latest := store.latest.put object versionID
  multipart := store.multipart
  kmsKeys := store.kmsKeys
  users := store.users
  bucket_key := store.bucket_key
  object_row := store.object_row
  latest_ne := by
    intro other found present
    rw [Table.get_put] at present
    split_ifs at present
    · cases present
      exact nonempty
    · exact store.latest_ne other found present
  kms_row := store.kms_row

def withoutLatest (store : Store) (object : ObjectKey) : Store where
  buckets := store.buckets
  objects := store.objects
  latest := store.latest.delete object
  multipart := store.multipart
  kmsKeys := store.kmsKeys
  users := store.users
  bucket_key := store.bucket_key
  object_row := store.object_row
  latest_ne := by
    intro other found present
    unfold Table.delete at present
    rw [Table.get_restrict] at present
    split_ifs at present
    exact store.latest_ne other found present
  kms_row := store.kms_row

/-- `deleteAllVersionsTx`: every row of the key and its latest pointer. -/
def deleteAllVersions (store : Store) (bucket key : String) : Store :=
  (store.restrictRows (fun row =>
    !(row.bucket = bucket && row.key = key))).withoutLatest ⟨bucket, key⟩

/-- `putObjectTx`, for a record whose bucket is normalized. -/
def putObjectTx (store : Store) (record : ObjectRecord) :
    Bool → Except StoreErr Store
  | true =>
    if nonempty : record.versionID.text = "" then .error .notFound
    -- A rewrite of an older version does not become the latest.
    else if (store.objects.get
        ⟨record.bucket, record.key, record.versionID.text⟩).isSome then
      .ok (store.withRow record record.versionID.text (fun _ => rfl))
    else
      .ok ((store.withRow record record.versionID.text
        (fun _ => rfl)).withLatest ⟨record.bucket, record.key⟩
          record.versionID.text nonempty)
  | false =>
    .ok ((store.deleteAllVersions record.bucket record.key).withRow record
      "" (fun nonempty => absurd rfl nonempty))

/-- The record as it is stored, under the storage key of its bucket. -/
def filed (store : Store) (record : ObjectRecord) : ObjectRecord :=
  { record with bucket := store.normalizeObjectBucket record.bucket }

def putObject (store : Store) (record : ObjectRecord) (versioned : Bool) :
    Except StoreErr Store :=
  store.putObjectTx (store.filed record) versioned

/-- The newer of two records, the first one among equals. -/
def newer (best : Option ObjectRecord) (record : ObjectRecord) :
    Option ObjectRecord :=
  match best with
  | none => some record
  | some other =>
    if other.lastModified < record.lastModified then some record else best

/-- The newest of some records, the first one among equals. -/
def newest : List ObjectRecord → Option ObjectRecord :=
  List.foldl newer none

/-- The newest version of a key becomes its latest. -/
def relatest (store : Store) (bucket key : String) : Store :=
  match newest (store.versions bucket key) with
  | none => store.withoutLatest ⟨bucket, key⟩
  | some next =>
    if nonempty : next.versionID.text = "" then
      store.withoutLatest ⟨bucket, key⟩
    else store.withLatest ⟨bucket, key⟩ next.versionID.text nonempty

/-- Delete one version row and find a new latest if it was the latest. -/
private def deleteVersionRow (store : Store)
    (bucket key versionID : String) : Except StoreErr Store :=
  if (store.objects.get ⟨bucket, key, versionID⟩).isSome then
    let deleted := store.restrictRows (fun row =>
      row ≠ ⟨bucket, key, versionID⟩)
    if store.latest.get ⟨bucket, key⟩ = some versionID then
      .ok (deleted.relatest bucket key)
    else .ok deleted
  else .error .notFound

/-- `deleteObjectVersionTx` -/
def deleteObjectVersion (store : Store) (bucket key versionID : String)
    (versioningEnabled : Bool) : Except StoreErr Store :=
  let bucket := store.normalizeObjectBucket bucket
  let flat := store.objects.get ⟨bucket, key, ""⟩
  let current := store.latest.get ⟨bucket, key⟩
  if !versioningEnabled then
    -- Without versioning the version id of the request is not looked at.
    if flat.isNone && current.isNone then .error .notFound
    else .ok (store.deleteAllVersions bucket key)
  else if versionID = "" then
    match current with
    | some currentID => store.deleteVersionRow bucket key currentID
    | none =>
      if flat.isNone then .error .notFound
      else .ok (store.restrictRows (fun row => row ≠ ⟨bucket, key, ""⟩))
  else store.deleteVersionRow bucket key versionID

/-- Rewrite the record that `getObjectVersion` finds. -/
def rewriteObject (store : Store) (bucket key versionID : String)
    (change : ObjectRecord → ObjectRecord) : Except StoreErr Store :=
  match store.getObjectVersion bucket key versionID with
  | none => .error .notFound
  | some record =>
    store.putObject (change record)
      (versionID ≠ "" || record.versionID.text ≠ "")

def setObjectLegalHold (store : Store) (bucket key versionID : String)
    (hold : Bool) : Except StoreErr Store :=
  store.rewriteObject bucket key versionID (fun record =>
    { record with legalHold := hold })

/-- `mode` has been trimmed and is in upper case. -/
def setObjectRetention (store : Store) (bucket key versionID : String)
    (retainUntil : Time) (mode : String) : Except StoreErr Store :=
  store.rewriteObject bucket key versionID (fun record =>
    { record with
      retentionUntil := some retainUntil
      retentionMode := if mode ≠ "" then mode else record.retentionMode })

def setObjectTags (store : Store) (bucket key versionID : String)
    (tags : List (String × String)) : Except StoreErr Store :=
  store.rewriteObject bucket key versionID (fun record =>
    { record with tags := tags })

/-- Metadata that is not given and an empty content type are kept. -/
def updateObjectMeta (store : Store) (bucket key versionID : String)
    (metadata : Option (List (String × String))) (contentType : String) :
    Except StoreErr Store :=
  store.rewriteObject bucket key versionID (fun record =>
    { record with
      metadata := metadata.getD record.metadata
      contentType :=
        if contentType ≠ "" then contentType else record.contentType })

/-- Store a marker unless the record has one. -/
private def mark (store : Store) (record : ObjectRecord)
    (versionID : String)
    (fits : versionID ≠ "" → record.versionID.text = versionID)
    (marker : ObjectEncryption) : Store :=
  if record.marked then store
  else store.withRow { record with encryption := some marker } versionID fits

/-- Mark an object that has no encryption marker yet. -/
def setObjectEncryptionIfAbsent (store : Store)
    (bucket key versionID : String) (marker : ObjectEncryption) : Store :=
  let bucket := store.normalizeObjectBucket bucket
  match store.versionRow bucket key (store.wantedID bucket key versionID),
    store.objects.get ⟨bucket, key, ""⟩ with
  | some record, _ =>
    store.mark record record.versionID.text (fun _ => rfl) marker
  | none, some record =>
    store.mark record "" (fun nonempty => absurd rfl nonempty) marker
  | none, none => store

/-! ## Uploads, keys and users -/

def putMultipart (store : Store) (record : MultipartRecord) : Store :=
  { store with multipart := store.multipart.put record.uploadID record }

def getMultipart (store : Store) (uploadID : String) :
    Option MultipartRecord :=
  store.multipart.get uploadID

def deleteMultipart (store : Store) (uploadID : String) :
    Except StoreErr Store :=
  if (store.getMultipart uploadID).isSome then
    .ok { store with multipart := store.multipart.delete uploadID }
  else .error .notFound

def getKMSKey (store : Store) (id : String) : Option KMSKeyRecord :=
  store.kmsKeys.get id

def putKMSKey (store : Store) (record : KMSKeyRecord) : Store :=
  { store with
    kmsKeys := store.kmsKeys.put record.id record
    kms_row := by
      intro id key present
      rw [Table.get_put] at present
      split_ifs at present with same
      · cases present
        exact same.symm
      · exact store.kms_row id key present }

def getUserByUsername (store : Store) (username : String) :
    Option UserRecord :=
  store.users.get username

def putUser (store : Store) (record : UserRecord) : Store :=
  { store with users := store.users.put record.username record }

/-! ## What a transaction leaves alone -/

/-- Two stores have the same rows for a key. -/
structure SameKey (left right : Store) (bucket key : String) : Prop where
  rows : ∀ versionID, left.objects.get ⟨bucket, key, versionID⟩ =
      right.objects.get ⟨bucket, key, versionID⟩
  latest : left.latest.get ⟨bucket, key⟩ = right.latest.get ⟨bucket, key⟩

/-- Two stores agree on everything but the rows of objects. -/
structure SameRest (left right : Store) : Prop where
  buckets : left.buckets = right.buckets
  multipart : left.multipart = right.multipart
  kmsKeys : left.kmsKeys = right.kmsKeys
  users : left.users = right.users

/-- Two stores agree on everything but the buckets and users. -/
structure SameObjects (left right : Store) : Prop where
  objects : left.objects = right.objects
  latest : left.latest = right.latest
  multipart : left.multipart = right.multipart
  kmsKeys : left.kmsKeys = right.kmsKeys

theorem putBucket_sameObjects
    {bucket : BucketRecord} (done : store.putBucket bucket = .ok stored) :
    SameObjects stored store := by
  unfold putBucket at done
  split_ifs at done
  cases done
  exact ⟨rfl, rfl, rfl, rfl⟩

theorem updateBucket_sameObjects
    {bucket : BucketRecord} (done : store.updateBucket bucket = .ok stored) :
    SameObjects stored store := by
  unfold updateBucket at done
  split_ifs at done
  cases done
  exact ⟨rfl, rfl, rfl, rfl⟩

/-- A new bucket leaves the other buckets as they are. -/
theorem getBucketByKey_putBucket
    {bucket : BucketRecord} (done : store.putBucket bucket = .ok stored)
    (known : (store.getBucketByKey key).isSome) :
    stored.getBucketByKey key = store.getBucketByKey key := by
  unfold putBucket at done
  split_ifs at done with keyless taken
  cases done
  refine (Table.get_put _ _ _ _).trans (if_neg ?_)
  rintro rfl
  rw [BucketRecord.effectiveStorageKey, if_pos keyless] at known
  exact taken known

/-- A bucket is updated under its own key. -/
theorem getBucketByKey_updateBucket
    {bucket : BucketRecord}
    (done : store.updateBucket bucket = .ok stored) (key : String) :
    stored.getBucketByKey key =
      if key = bucket.effectiveStorageKey then some bucket
      else store.getBucketByKey key := by
  unfold updateBucket at done
  split_ifs at done
  cases done
  exact Table.get_put _ _ _ _

theorem normalizeObjectBucket_congr
    {left right : Store} (same : left.buckets = right.buckets)
    (bucket : String) :
    left.normalizeObjectBucket bucket =
      right.normalizeObjectBucket bucket := by
  simp only [normalizeObjectBucket, getBucket, getBucketByKey, listBuckets,
    same]

/-- A storage key is not changed by normalization. -/
theorem normalizeObjectBucket_of_isSome
    (store : Store) (present : (store.getBucketByKey bucket).isSome) :
    store.normalizeObjectBucket bucket = bucket := by
  obtain ⟨record, found⟩ := Option.isSome_iff_exists.mp present
  simp only [normalizeObjectBucket, getBucket, found]
  exact store.bucket_key bucket record found

theorem getBucketByKey_of_mem_listBuckets
    {record : BucketRecord} (listed : record ∈ store.listBuckets) :
    store.getBucketByKey record.effectiveStorageKey = some record := by
  obtain ⟨⟨key, value⟩, scanned, rfl⟩ := List.mem_map.mp listed
  have found := (Table.mem_scan_iff _ _ _ _).mp scanned
  rw [store.bucket_key key value found]
  exact found

@[simp]
theorem normalizeObjectBucket_idem (store : Store) (bucket : String) :
    store.normalizeObjectBucket (store.normalizeObjectBucket bucket) =
      store.normalizeObjectBucket bucket := by
  cases found : store.getBucket bucket with
  | none =>
    have same : store.normalizeObjectBucket bucket = bucket := by
      simp only [normalizeObjectBucket, found]
    rw [same, same]
  | some record =>
    have key : store.normalizeObjectBucket bucket =
        record.effectiveStorageKey := by
      simp only [normalizeObjectBucket, found]
    refine store.normalizeObjectBucket_of_isSome ?_
    rw [key]
    unfold getBucket at found
    split at found
    · cases found
      rename_i stored
      rw [store.bucket_key _ record stored, stored]
      rfl
    · split at found
      · cases found
        rename_i only
        have member : record ∈ store.listBuckets.filter
            (fun other => other.name = bucket) := by simp [only]
        rw [getBucketByKey_of_mem_listBuckets (List.mem_filter.mp member).1]
        rfl
      · cases found

theorem versionRow_eq_some_iff :
    store.versionRow bucket key versionID = some record ↔ versionID ≠ "" ∧
        store.objects.get ⟨bucket, key, versionID⟩ = some record := by
  unfold versionRow
  split_ifs with named <;> simp [named]

/-- What a lookup finds is a row of its key. -/
theorem getObjectVersion_row
    (found : store.getObjectVersion bucket key versionID = some record) :
    ∃ rowID, store.objects.get
        ⟨store.normalizeObjectBucket bucket, key, rowID⟩ = some record ∧
      (rowID = "" ∨ rowID = store.wantedID
        (store.normalizeObjectBucket bucket) key versionID) := by
  unfold getObjectVersion at found
  simp only at found
  split at found
  · cases found
  · rename_i other lookup
    split_ifs at found
    cases found
    rcases Option.or_eq_some_iff.mp lookup with row | ⟨_, row⟩
    · exact ⟨_, (versionRow_eq_some_iff.mp row).2, .inr rfl⟩
    · exact ⟨"", row, .inl rfl⟩

/-- A version that is named is found in its row. -/
theorem getObjectVersion_of_row
    (named : versionID ≠ "")
    (row : store.objects.get ⟨store.normalizeObjectBucket bucket, key,
      versionID⟩ = some record) :
    store.getObjectVersion bucket key versionID = some record := by
  simp [getObjectVersion, wantedID, versionRow, named, row]

/-- A lookup depends on the buckets and on the rows of its key. -/
theorem getObjectVersion_congr
    {left right : Store} (sameBuckets : left.buckets = right.buckets)
    (sameKey : SameKey left right (right.normalizeObjectBucket bucket) key)
    (versionID : String) :
    left.getObjectVersion bucket key versionID =
      right.getObjectVersion bucket key versionID := by
  have wanted : left.wantedID (right.normalizeObjectBucket bucket) key
      versionID = right.wantedID (right.normalizeObjectBucket bucket) key
        versionID := by
    unfold wantedID
    rw [sameKey.latest]
  have row : ∀ rowID, left.versionRow (right.normalizeObjectBucket bucket)
      key rowID = right.versionRow (right.normalizeObjectBucket bucket) key
        rowID := by
    intro rowID
    unfold versionRow
    rw [sameKey.rows]
  simp only [getObjectVersion, normalizeObjectBucket_congr sameBuckets,
    wanted, row, sameKey.rows]

/-! ## What `putObject` does -/

section PutObject

variable {store stored : Store} {record : ObjectRecord}

theorem putObjectTx_sameRest
    (done : store.putObjectTx record versioned = .ok stored) :
    SameRest stored store := by
  cases versioned with
  | true =>
    unfold putObjectTx at done
    split_ifs at done <;> cases done <;> exact ⟨rfl, rfl, rfl, rfl⟩
  | false =>
    cases done
    exact ⟨rfl, rfl, rfl, rfl⟩

/-- A version is put into its own row. -/
theorem get_putObjectTx_versioned
    (done : store.putObjectTx record true = .ok stored) (row : RowKey) :
    stored.objects.get row =
      if row = ⟨record.bucket, record.key, record.versionID.text⟩ then
        some record
      else store.objects.get row := by
  unfold putObjectTx at done
  split_ifs at done <;> cases done <;> exact Table.get_put _ _ _ _

/-- A new version becomes the latest. -/
theorem latest_putObjectTx_versioned
    (done : store.putObjectTx record true = .ok stored) (object : ObjectKey) :
    stored.latest.get object =
      if store.objects.get
            ⟨record.bucket, record.key, record.versionID.text⟩ = none ∧
          object = ⟨record.bucket, record.key⟩ then
        some record.versionID.text
      else store.latest.get object := by
  unfold putObjectTx at done
  split_ifs at done with empty existed
  · cases done
    have present : store.objects.get
        ⟨record.bucket, record.key, record.versionID.text⟩ ≠ none := by
      intro absent
      simp [absent] at existed
    simp only [present]
    rfl
  · cases done
    have absent : store.objects.get
        ⟨record.bucket, record.key, record.versionID.text⟩ = none := by
      simpa using existed
    simp only [absent, true_and]
    exact Table.get_put _ _ _ _

theorem putObjectTx_versioned_ok_iff :
    (∃ stored, store.putObjectTx record true = .ok stored) ↔
      record.versionID.text ≠ "" := by
  unfold putObjectTx
  split_ifs with empty existed
  · simp [empty]
  · simp [empty]
  · simp [empty]

/-- An unversioned object replaces every row of its key. -/
theorem get_putObjectTx_flat
    (done : store.putObjectTx record false = .ok stored) (row : RowKey) :
    stored.objects.get row =
      if row = ⟨record.bucket, record.key, ""⟩ then some record
      else if row.bucket = record.bucket ∧ row.key = record.key then none
      else store.objects.get row := by
  cases done
  refine (Table.get_put _ _ _ _).trans ?_
  split_ifs with here sameKey
  · rfl
  · simp [deleteAllVersions, restrictRows, withoutLatest,
      Table.get_restrict, sameKey]
  · simp only [deleteAllVersions, restrictRows, withoutLatest,
      Table.get_restrict]
    rw [if_pos]
    rw [not_and_or] at sameKey
    simpa using sameKey

theorem latest_putObjectTx_flat
    (done : store.putObjectTx record false = .ok stored)
    (object : ObjectKey) :
    stored.latest.get object =
      if object = ⟨record.bucket, record.key⟩ then none
      else store.latest.get object := by
  cases done
  simp [withRow, deleteAllVersions, withoutLatest, restrictRows,
    Table.delete, Table.get_restrict]

/-- Other keys keep their rows. -/
theorem putObjectTx_sameKey
    (done : store.putObjectTx record versioned = .ok stored)
    (apart : ¬ (bucket = record.bucket ∧ key = record.key)) :
    SameKey stored store bucket key := by
  cases versioned with
  | true =>
    constructor
    · intro versionID
      rw [get_putObjectTx_versioned done, if_neg]
      intro same
      cases same
      exact apart ⟨rfl, rfl⟩
    · rw [latest_putObjectTx_versioned done, if_neg]
      rintro ⟨_, same⟩
      cases same
      exact apart ⟨rfl, rfl⟩
  | false =>
    constructor
    · intro versionID
      rw [get_putObjectTx_flat done, if_neg, if_neg apart]
      intro same
      cases same
      exact apart ⟨rfl, rfl⟩
    · rw [latest_putObjectTx_flat done, if_neg]
      intro same
      cases same
      exact apart ⟨rfl, rfl⟩

end PutObject

/-! ## What `deleteObjectVersion` does -/

/-- A key that has versions points to one of them. -/
def Pointed (store : Store) : Prop :=
  ∀ row, (store.objects.get row).isSome → row.versionID ≠ "" →
    ∃ versionID, store.latest.get ⟨row.bucket, row.key⟩ = some versionID ∧
      (store.objects.get ⟨row.bucket, row.key, versionID⟩).isSome

/-- The rows may change as long as the same ones are there. -/
theorem Pointed.of_same
    (pointed : Pointed store)
    (rows : ∀ row, (stored.objects.get row).isSome =
      (store.objects.get row).isSome)
    (latest : stored.latest = store.latest) : Pointed stored := by
  intro row present named
  rw [rows] at present
  obtain ⟨versionID, points, target⟩ := pointed row present named
  refine ⟨versionID, ?_, ?_⟩
  · rw [latest]
    exact points
  · rw [rows]
    exact target

theorem mem_versions_iff :
    record ∈ store.versions bucket key ↔ ∃ versionID, versionID ≠ "" ∧
        store.objects.get ⟨bucket, key, versionID⟩ = some record := by
  unfold versions rows
  simp only [List.mem_map, List.mem_filter, decide_eq_true_eq,
    Bool.and_eq_true, bne_iff_ne]
  constructor
  · rintro ⟨⟨row, found⟩, ⟨⟨member, rfl⟩, rfl, named⟩, rfl⟩
    exact ⟨row.versionID, named,
      (Table.mem_scan_iff _ _ row found).mp member⟩
  · rintro ⟨versionID, named, present⟩
    exact ⟨(⟨bucket, key, versionID⟩, record),
      ⟨⟨(Table.mem_scan_iff _ _ _ record).mpr present, rfl⟩, rfl, named⟩,
      rfl⟩

theorem foldl_newer
    (records : List ObjectRecord) (best : Option ObjectRecord) :
    (records.foldl newer best = best ∧ (records = [] ∨ best.isSome)) ∨
      ∃ next ∈ records, records.foldl newer best = some next := by
  induction records generalizing best with
  | nil => exact .inl ⟨rfl, .inl rfl⟩
  | cons record records induction =>
    have first : newer best record = best ∧ best.isSome ∨
        newer best record = some record := by
      cases best with
      | none => exact .inr rfl
      | some other =>
        unfold newer
        simp only
        split_ifs
        · exact .inr rfl
        · exact .inl ⟨rfl, rfl⟩
    rw [List.foldl_cons]
    rcases induction (newer best record) with ⟨same, _⟩ | ⟨next, here, eq⟩
    · rw [same]
      rcases first with ⟨same, present⟩ | same
      · exact .inl ⟨same, .inr present⟩
      · exact .inr ⟨record, List.mem_cons_self, same⟩
    · exact .inr ⟨next, List.mem_cons_of_mem _ here, eq⟩

/-- There is a newest one among some records. -/
theorem newest_mem
    (nonempty : records ≠ []) :
    ∃ next ∈ records, newest records = some next := by
  rcases foldl_newer records none with ⟨_, empty | absent⟩ | found
  · exact absurd empty nonempty
  · cases absent
  · exact found

theorem mem_of_newest
    {next : ObjectRecord}
    (chosen : newest records = some next) : next ∈ records := by
  rcases foldl_newer records none with ⟨absent, _⟩ | ⟨other, member, found⟩
  · rw [newest, absent] at chosen
    cases chosen
  · rw [newest, found] at chosen
    cases chosen
    exact member

theorem foldl_newer_of_greatest
    (greatest : ∀ other ∈ records, other ≠ record → other.lastModified <
      record.lastModified) {best : Option ObjectRecord}
    (before : ∀ other, best = some other → other ≠ record → other.lastModified
      < record.lastModified) (among : best = some record ∨ record ∈ records) :
    records.foldl newer best = some record := by
  induction records generalizing best with
  | nil => simpa using among
  | cons first records induction =>
    refine induction (fun other member => greatest other (by simp [member]))
      ?_ ?_
    · intro other chosen apart
      cases best with
      | none =>
        cases chosen
        exact greatest first List.mem_cons_self apart
      | some held =>
        unfold newer at chosen
        simp only at chosen
        split_ifs at chosen
        · cases chosen
          exact greatest first List.mem_cons_self apart
        · exact before other chosen apart
    · rcases among with rfl | member
      · refine .inl ?_
        unfold newer
        simp only
        split_ifs with later
        · by_contra apart
          have earlier := greatest first List.mem_cons_self
            (fun same => apart (by rw [same]))
          exact absurd later (not_lt_of_gt earlier)
        · rfl
      · rcases List.mem_cons.mp member with rfl | member
        · refine .inl ?_
          cases best with
          | none => rfl
          | some held =>
            unfold newer
            simp only
            split_ifs with later
            · rfl
            · by_contra apart
              exact later (before held rfl (fun same =>
                apart (by rw [same])))
        · exact .inr member

/-- A record that is later than every other one is the newest. -/
theorem newest_eq_of_greatest
    (member : record ∈ records)
    (greatest : ∀ other ∈ records, other ≠ record →
      other.lastModified < record.lastModified) :
    newest records = some record :=
  foldl_newer_of_greatest greatest (by simp) (.inr member)

section PointedPut

variable {store stored : Store} {record : ObjectRecord}

theorem Pointed.putObjectTx
    (pointed : Pointed store)
    (done : store.putObjectTx record versioned = .ok stored) :
    Pointed stored := by
  intro row present named
  cases versioned with
  | true =>
    have rows := get_putObjectTx_versioned done
    have latest := latest_putObjectTx_versioned done
    by_cases fresh : store.objects.get
        ⟨record.bucket, record.key, record.versionID.text⟩ = none ∧
          (⟨row.bucket, row.key⟩ : ObjectKey) = ⟨record.bucket, record.key⟩
    · refine ⟨record.versionID.text, ?_, ?_⟩
      · rw [latest, if_pos fresh]
      · obtain ⟨sameBucket, sameKey⟩ := ObjectKey.mk.inj fresh.2
        rw [sameBucket, sameKey, rows, if_pos rfl]
        rfl
    · have old : (store.objects.get row).isSome := by
        rw [rows] at present
        split_ifs at present with here
        · rw [here] at fresh ⊢
          simpa [Option.ne_none_iff_isSome] using fresh
        · exact present
      obtain ⟨versionID, current, points⟩ := pointed row old named
      refine ⟨versionID, ?_, ?_⟩
      · rw [latest, if_neg fresh]
        exact current
      · rw [rows]
        split_ifs
        · rfl
        · exact points
  | false =>
    have rows := get_putObjectTx_flat done
    have elsewhere :
        ¬ (row.bucket = record.bucket ∧ row.key = record.key) := by
      intro here
      rw [rows, if_neg, if_pos here] at present
      · cases present
      · rintro rfl
        exact named rfl
    rw [rows, if_neg, if_neg elsewhere] at present
    · obtain ⟨versionID, current, points⟩ := pointed row present named
      refine ⟨versionID, ?_, ?_⟩
      · rw [latest_putObjectTx_flat done, if_neg]
        · exact current
        · intro same
          exact elsewhere (ObjectKey.mk.inj same)
      · rw [rows, if_neg, if_neg elsewhere]
        · exact points
        · intro same
          obtain ⟨sameBucket, sameKey, _⟩ := RowKey.mk.inj same
          exact elsewhere ⟨sameBucket, sameKey⟩
    · rintro rfl
      exact elsewhere ⟨rfl, rfl⟩

end PointedPut

section DeleteObject

variable {store deleted : Store} {bucket key versionID : String}

theorem relatest_spec (store : Store) (bucket key : String) :
    (store.relatest bucket key).objects = store.objects ∧
      SameRest (store.relatest bucket key) store ∧
      ∀ object ≠ ⟨bucket, key⟩,
        (store.relatest bucket key).latest.get object =
          store.latest.get object := by
  unfold relatest
  split
  · exact ⟨rfl, ⟨rfl, rfl, rfl, rfl⟩, fun object apart =>
      Table.get_delete_of_ne _ apart⟩
  · split_ifs
    · exact ⟨rfl, ⟨rfl, rfl, rfl, rfl⟩, fun object apart =>
        Table.get_delete_of_ne _ apart⟩
    · exact ⟨rfl, ⟨rfl, rfl, rfl, rfl⟩, fun object apart =>
        Table.get_put_of_ne _ _ apart⟩

/-- Behind a new choice of the latest a key with versions points to one. -/
theorem relatest_points
    (store : Store)
    (present : (store.objects.get ⟨bucket, key, versionID⟩).isSome)
    (named : versionID ≠ "") :
    ∃ next, (store.relatest bucket key).latest.get ⟨bucket, key⟩ =
        some next ∧
      (store.objects.get ⟨bucket, key, next⟩).isSome := by
  obtain ⟨record, row⟩ := Option.isSome_iff_exists.mp present
  obtain ⟨next, member, chosen⟩ := newest_mem
    (List.ne_nil_of_mem (mem_versions_iff.mpr ⟨versionID, named, row⟩))
  obtain ⟨nextID, nextNamed, nextRow⟩ := mem_versions_iff.mp member
  have text : next.versionID.text = nextID :=
    (store.object_row _ next nextRow).2.2 nextNamed
  refine ⟨nextID, ?_, by simp [nextRow]⟩
  unfold relatest
  simp only [chosen, text, nextNamed]
  exact Table.get_put_self _ _ _

/-- Deleting one version row changes no other row. -/
theorem deleteVersionRow_spec
    (done : store.deleteVersionRow bucket key versionID = .ok deleted) :
    (∀ row, deleted.objects.get row =
        if row = ⟨bucket, key, versionID⟩ then none
        else store.objects.get row) ∧
      SameRest deleted store ∧
      ∀ object ≠ ⟨bucket, key⟩,
        deleted.latest.get object = store.latest.get object := by
  have restricted : ∀ row, (store.objects.restrict (fun row =>
      row ≠ ⟨bucket, key, versionID⟩)).get row =
        if row = ⟨bucket, key, versionID⟩ then none
        else store.objects.get row := by
    intro row
    rw [Table.get_restrict]
    by_cases here : row = ⟨bucket, key, versionID⟩ <;> simp [here]
  unfold deleteVersionRow at done
  split_ifs at done
  · obtain ⟨objects, rest, latest⟩ := relatest_spec
      (store.restrictRows (fun row => row ≠ ⟨bucket, key, versionID⟩))
      bucket key
    cases done
    refine ⟨fun row => ?_, ?_, latest⟩
    · rw [objects]
      exact restricted row
    · exact ⟨rest.buckets, rest.multipart, rest.kmsKeys, rest.users⟩
  · cases done
    exact ⟨restricted, ⟨rfl, rfl, rfl, rfl⟩, fun _ _ => rfl⟩

private theorem Pointed.deleteVersionRow
    (pointed : Pointed store)
    (done : store.deleteVersionRow bucket key versionID = .ok deleted) :
    Pointed deleted := by
  obtain ⟨rows, _, latest⟩ := deleteVersionRow_spec done
  intro row present named
  have kept : (store.objects.get row).isSome := by
    rw [rows] at present
    split_ifs at present
    · cases present
    · exact present
  obtain ⟨current, points, currentRow⟩ := pointed row kept named
  by_cases here : (⟨row.bucket, row.key⟩ : ObjectKey) = ⟨bucket, key⟩
  · obtain ⟨rfl, rfl⟩ := ObjectKey.mk.inj here
    unfold Store.deleteVersionRow at done
    split_ifs at done with found wasLatest
    · cases done
      rw [(relatest_spec _ _ _).1] at present ⊢
      exact relatest_points _ present named
    · refine ⟨current, ?_, ?_⟩
      · cases done
        exact points
      · rw [rows, if_neg]
        · exact currentRow
        · intro same
          rw [(RowKey.mk.inj same).2.2] at points
          exact wasLatest points
  · refine ⟨current, ?_, ?_⟩
    · rw [latest _ here]
      exact points
    · rw [rows, if_neg]
      · exact currentRow
      · intro same
        obtain ⟨sameBucket, sameKey, _⟩ := RowKey.mk.inj same
        exact here (by rw [sameBucket, sameKey])

/-- With versioning a delete removes one version row or the flat row. -/
theorem deleteObjectVersion_versioned_cases
    (done : store.deleteObjectVersion bucket key versionID true =
      .ok deleted) :
    (∃ rowID, store.deleteVersionRow (store.normalizeObjectBucket bucket)
        key rowID = .ok deleted) ∨
      deleted = store.restrictRows (fun row =>
        row ≠ ⟨store.normalizeObjectBucket bucket, key, ""⟩) := by
  unfold deleteObjectVersion at done
  simp only [Bool.not_true, Bool.false_eq_true, if_false] at done
  by_cases unnamed : versionID = ""
  · rw [if_pos unnamed] at done
    split at done
    · exact .inl ⟨_, done⟩
    · split_ifs at done
      cases done
      exact .inr rfl
  · rw [if_neg unnamed] at done
    exact .inl ⟨_, done⟩

/-- What a delete with versioning does to the rows and pointers. -/
inductive VersionedDelete (store deleted : Store) (bucket key : String) :
    Prop where
  /-- A key without versions loses its flat row. -/
  | flat
      (unpointed : store.latest.get ⟨bucket, key⟩ = none)
      (rows : ∀ row, deleted.objects.get row =
        if row = ⟨bucket, key, ""⟩ then none else store.objects.get row)
      (latest : deleted.latest = store.latest)
  /-- A version that is not the latest goes. -/
  | older (versionID : String) (named : versionID ≠ "")
      (rows : ∀ row, deleted.objects.get row =
        if row = ⟨bucket, key, versionID⟩ then none
        else store.objects.get row)
      (apart : store.latest.get ⟨bucket, key⟩ ≠ some versionID)
      (latest : deleted.latest = store.latest)
  /-- The latest version goes, and the newest of the others takes over. -/
  | current (versionID : String) (named : versionID ≠ "")
      (rows : ∀ row, deleted.objects.get row =
        if row = ⟨bucket, key, versionID⟩ then none
        else store.objects.get row)
      (latest : ∀ object, deleted.latest.get object =
        if object = ⟨bucket, key⟩ then
          (newest (deleted.versions bucket key)).map
            (fun next => next.versionID.text)
        else store.latest.get object)

theorem latest_relatest (store : Store) (bucket key : String)
    (object : ObjectKey) :
    (store.relatest bucket key).latest.get object =
      if object = ⟨bucket, key⟩ then
        (newest (store.versions bucket key)).map
          (fun next => next.versionID.text)
      else store.latest.get object := by
  split_ifs with here
  · subst here
    unfold relatest
    cases chosen : newest (store.versions bucket key) with
    | none => exact Table.get_delete_self _ _
    | some next =>
      obtain ⟨nextID, named, row⟩ :=
        mem_versions_iff.mp (mem_of_newest chosen)
      have text : next.versionID.text ≠ "" := by
        rw [(store.object_row _ next row).2.2 named]
        exact named
      simp only [dif_neg text]
      exact Table.get_put_self _ _ _
  · exact (relatest_spec store bucket key).2.2 object here

theorem VersionedDelete.of_row
    (named : versionID ≠ "")
    (done : store.deleteVersionRow bucket key versionID = .ok deleted) :
    VersionedDelete store deleted bucket key := by
  have rows := (deleteVersionRow_spec done).1
  unfold deleteVersionRow at done
  split_ifs at done with _ wasLatest
  · cases done
    refine .current versionID named rows (fun object => ?_)
    have versions : (Store.relatest (store.restrictRows (fun row =>
        row ≠ ⟨bucket, key, versionID⟩)) bucket key).versions bucket key =
          (store.restrictRows (fun row =>
            row ≠ ⟨bucket, key, versionID⟩)).versions bucket key := by
      unfold Store.versions Store.rows
      rw [(relatest_spec _ _ _).1]
    rw [latest_relatest, versions]
    rfl
  · cases done
    exact .older versionID named rows wasLatest rfl

theorem deleteObjectVersion_versionedDelete
    (done : store.deleteObjectVersion bucket key versionID true =
      .ok deleted) :
    VersionedDelete store deleted (store.normalizeObjectBucket bucket)
      key := by
  unfold deleteObjectVersion at done
  simp only [Bool.not_true, Bool.false_eq_true, if_false] at done
  by_cases unnamed : versionID = ""
  · rw [if_pos unnamed] at done
    split at done
    · rename_i currentID current
      exact .of_row (store.latest_ne _ currentID current) done
    · rename_i unpointed
      split_ifs at done
      cases done
      refine .flat unpointed (fun row => ?_) rfl
      refine (Table.get_restrict _ _ _).trans ?_
      by_cases here :
        row = ⟨store.normalizeObjectBucket bucket, key, ""⟩ <;> simp [here]
  · rw [if_neg unnamed] at done
    exact .of_row unnamed done

/-- With versioning a delete with a version id removes that row alone. -/
theorem get_deleteObjectVersion_versioned
    (done : store.deleteObjectVersion bucket key versionID true = .ok deleted)
    (named : versionID ≠ "") (row : RowKey) :
    deleted.objects.get row =
      if row = ⟨store.normalizeObjectBucket bucket, key, versionID⟩ then none
      else store.objects.get row := by
  unfold deleteObjectVersion at done
  simp only [named] at done
  exact (deleteVersionRow_spec done).1 row

/-- With versioning only a version that has a row is deleted. -/
theorem row_of_deleteObjectVersion
    (done : store.deleteObjectVersion bucket key versionID true = .ok deleted)
    (named : versionID ≠ "") :
    ∃ record, store.objects.get
      ⟨store.normalizeObjectBucket bucket, key, versionID⟩ =
        some record := by
  unfold deleteObjectVersion deleteVersionRow at done
  simp only [Bool.not_true, Bool.false_eq_true, if_false, named] at done
  split_ifs at done with present <;>
    exact Option.isSome_iff_exists.mp present

/-- Without versioning every row of the key goes. -/
theorem deleteObjectVersion_unversioned
    (done : store.deleteObjectVersion bucket key versionID false =
      .ok deleted) :
    deleted =
      store.deleteAllVersions (store.normalizeObjectBucket bucket) key := by
  unfold deleteObjectVersion at done
  simp only [Bool.not_false, if_true] at done
  split_ifs at done
  cases done
  rfl

theorem get_deleteAllVersions (store : Store) (bucket key : String)
    (row : RowKey) :
    (store.deleteAllVersions bucket key).objects.get row =
      if row.bucket = bucket ∧ row.key = key then none
      else store.objects.get row := by
  simp only [deleteAllVersions, restrictRows, withoutLatest,
    Table.get_restrict]
  by_cases here : row.bucket = bucket ∧ row.key = key
  · simp [here]
  · have outside : ¬ row.bucket = bucket ∨ ¬ row.key = key :=
      not_and_or.mp here
    rw [if_neg here, if_pos (by simpa using outside)]

theorem latest_deleteAllVersions (store : Store) (bucket key : String)
    (object : ObjectKey) :
    (store.deleteAllVersions bucket key).latest.get object =
      if object = ⟨bucket, key⟩ then none
      else store.latest.get object := by
  by_cases here : object = ⟨bucket, key⟩ <;>
    simp [deleteAllVersions, restrictRows, withoutLatest, Table.delete,
      Table.get_restrict]

/-- A delete adds no row. -/
theorem get_of_deleteObjectVersion
    (done : store.deleteObjectVersion bucket key versionID versioning =
      .ok deleted) {row : RowKey}
    (found : deleted.objects.get row = some record) :
    store.objects.get row = some record := by
  cases versioning with
  | false =>
    rw [deleteObjectVersion_unversioned done, get_deleteAllVersions] at found
    split_ifs at found
    exact found
  | true =>
    rcases deleteObjectVersion_versioned_cases done with ⟨_, gone⟩ | rfl
    · rw [(deleteVersionRow_spec gone).1] at found
      split_ifs at found
      exact found
    · simp only [restrictRows, Table.get_restrict] at found
      split_ifs at found
      exact found

theorem deleteObjectVersion_sameRest
    (done : store.deleteObjectVersion bucket key versionID versioning =
      .ok deleted) :
    SameRest deleted store := by
  cases versioning with
  | false =>
    rw [deleteObjectVersion_unversioned done]
    exact ⟨rfl, rfl, rfl, rfl⟩
  | true =>
    rcases deleteObjectVersion_versioned_cases done with ⟨_, row⟩ | rfl
    · exact (deleteVersionRow_spec row).2.1
    · exact ⟨rfl, rfl, rfl, rfl⟩

theorem Pointed.deleteObjectVersion
    (pointed : Pointed store)
    (done : store.deleteObjectVersion bucket key versionID versioning =
      .ok deleted) :
    Pointed deleted := by
  cases versioning with
  | false =>
    rw [deleteObjectVersion_unversioned done]
    intro row present named
    rw [get_deleteAllVersions] at present
    split_ifs at present with here
    · cases present
    · obtain ⟨current, points, currentRow⟩ := pointed row present named
      refine ⟨current, ?_, ?_⟩
      · rw [latest_deleteAllVersions, if_neg]
        · exact points
        · intro same
          exact here (ObjectKey.mk.inj same)
      · rw [get_deleteAllVersions, if_neg here]
        exact currentRow
  | true =>
    rcases deleteObjectVersion_versioned_cases done with ⟨_, row⟩ | rfl
    · exact pointed.deleteVersionRow row
    · intro row present named
      have kept : ∀ rowID, rowID ≠ "" → ((store.restrictRows (fun row =>
          row ≠ ⟨store.normalizeObjectBucket bucket, key,
            ""⟩)).objects.get ⟨row.bucket, row.key, rowID⟩ =
              store.objects.get ⟨row.bucket, row.key, rowID⟩) := by
        intro rowID rowNamed
        refine (Table.get_restrict _ _ _).trans (if_pos ?_)
        simp [rowNamed]
      have before := kept row.versionID named
      rw [before] at present
      obtain ⟨current, points, currentRow⟩ := pointed row present named
      refine ⟨current, points, ?_⟩
      rw [kept current (store.latest_ne _ current points)]
      exact currentRow

/-- A delete leaves the rows of other keys alone. -/
theorem deleteObjectVersion_sameKey
    (done : store.deleteObjectVersion bucket key versionID versioning = .ok
      deleted) {otherBucket otherKey : String}
    (apart : ¬ (otherBucket = store.normalizeObjectBucket bucket ∧ otherKey =
      key)) :
    SameKey deleted store otherBucket otherKey := by
  have otherRow : ∀ someID otherID : String,
      (⟨otherBucket, otherKey, otherID⟩ : RowKey) ≠
        ⟨store.normalizeObjectBucket bucket, key, someID⟩ := by
    intro someID otherID same
    cases same
    exact apart ⟨rfl, rfl⟩
  have otherObject : (⟨otherBucket, otherKey⟩ : ObjectKey) ≠
      ⟨store.normalizeObjectBucket bucket, key⟩ := by
    intro same
    cases same
    exact apart ⟨rfl, rfl⟩
  cases versioning with
  | false =>
    cases deleteObjectVersion_unversioned done
    constructor
    · intro otherID
      rw [get_deleteAllVersions, if_neg apart]
    · rw [latest_deleteAllVersions, if_neg otherObject]
  | true =>
    rcases deleteObjectVersion_versioned_cases done with ⟨_, row⟩ | rfl
    · obtain ⟨rows, _, latest⟩ := deleteVersionRow_spec row
      constructor
      · intro otherID
        rw [rows, if_neg (otherRow _ _)]
      · exact latest _ otherObject
    · constructor
      · intro otherID
        simp only [restrictRows, Table.get_restrict]
        rw [if_pos (decide_eq_true (otherRow "" otherID))]
      · rfl

end DeleteObject

/-! ## What rewriting a record does -/

theorem rewriteObject_ok
    {change : ObjectRecord → ObjectRecord}
    (done : store.rewriteObject bucket key versionID change = .ok stored) :
    ∃ record, store.getObjectVersion bucket key versionID = some record ∧
      store.putObject (change record)
        (versionID ≠ "" || record.versionID.text ≠ "") = .ok stored := by
  unfold rewriteObject at done
  split at done
  · cases done
  · rename_i record found
    exact ⟨record, found, done⟩

/-- One row of `right` is that of `left` with a marker. -/
structure Marked (left right : Store) (row : RowKey)
    (record : ObjectRecord) (marker : ObjectEncryption) : Prop where
  found : left.objects.get row = some record
  rows : ∀ other, right.objects.get other =
    if other = row then some { record with encryption := some marker }
    else left.objects.get other
  latest : right.latest = left.latest
  rest : SameRest right left

theorem mark_spec
    (fits : versionID ≠ "" → record.versionID.text = versionID)
    (found : store.objects.get ⟨record.bucket, record.key, versionID⟩ = some
      record) (unmarked : record.marked = false) (marker : ObjectEncryption) :
    Marked store (store.mark record versionID fits marker)
      ⟨record.bucket, record.key, versionID⟩ record marker := by
  unfold mark
  rw [if_neg (by simp [unmarked])]
  exact ⟨found, fun other => Table.get_put _ _ _ _, rfl,
    ⟨rfl, rfl, rfl, rfl⟩⟩

theorem mark_cases
    (versionID : String)
    (fits : versionID ≠ "" → record.versionID.text = versionID)
    (found : store.objects.get ⟨record.bucket, record.key, versionID⟩ =
      some record) (marker : ObjectEncryption) :
    store.mark record versionID fits marker = store ∨
      Marked store (store.mark record versionID fits marker)
        ⟨record.bucket, record.key, versionID⟩ record marker := by
  cases marked : record.marked with
  | true => exact .inl (by simp [mark, marked])
  | false => exact .inr (mark_spec fits found marked marker)

/-- The row that a marker would be stored in, and its record. -/
def markedRow (store : Store) (bucket key versionID : String) :
    Option (RowKey × ObjectRecord) :=
  let bucket := store.normalizeObjectBucket bucket
  let wanted := store.wantedID bucket key versionID
  match store.versionRow bucket key wanted with
  | some record => some (⟨bucket, key, wanted⟩, record)
  | none =>
    (store.objects.get ⟨bucket, key, ""⟩).map (fun record =>
      (⟨bucket, key, ""⟩, record))

/-- A marker goes into its row unless the record has one. -/
theorem setObjectEncryptionIfAbsent_eq
    (store : Store) (bucket key versionID : String)
    (marker : ObjectEncryption) :
    match store.markedRow bucket key versionID with
    | none =>
      store.setObjectEncryptionIfAbsent bucket key versionID marker = store
    | some (row, record) =>
      if record.marked then
        store.setObjectEncryptionIfAbsent bucket key versionID marker = store
      else
        Marked store
          (store.setObjectEncryptionIfAbsent bucket key versionID marker)
          row record marker := by
  unfold markedRow setObjectEncryptionIfAbsent
  simp only
  cases versioned : store.versionRow (store.normalizeObjectBucket bucket)
      key (store.wantedID (store.normalizeObjectBucket bucket) key
        versionID) with
  | some record =>
    simp only
    obtain ⟨named, row⟩ := versionRow_eq_some_iff.mp versioned
    obtain ⟨sameBucket, sameKey, sameID⟩ := store.object_row _ record row
    have place : (⟨record.bucket, record.key, record.versionID.text⟩ :
        RowKey) = ⟨store.normalizeObjectBucket bucket, key,
          store.wantedID (store.normalizeObjectBucket bucket) key
            versionID⟩ := by
      rw [sameBucket, sameKey, sameID named]
    rw [← place] at row ⊢
    split_ifs with marked
    · simp [mark, marked]
    · exact mark_spec (fun _ => rfl) row (by simpa using marked) marker
  | none =>
    cases flat : store.objects.get
        ⟨store.normalizeObjectBucket bucket, key, ""⟩ with
    | none => rfl
    | some record =>
      simp only [Option.map_some]
      obtain ⟨sameBucket, sameKey, _⟩ := store.object_row _ record flat
      have place : (⟨record.bucket, record.key, ""⟩ : RowKey) =
          ⟨store.normalizeObjectBucket bucket, key, ""⟩ := by
        rw [sameBucket, sameKey]
      rw [← place] at flat ⊢
      split_ifs with marked
      · simp [mark, marked]
      · exact mark_spec (fun nonempty => absurd rfl nonempty) flat
          (by simpa using marked) marker

/-- Marking an object changes at most the marker of one row. -/
theorem setObjectEncryptionIfAbsent_cases
    (store : Store) (bucket key versionID : String)
    (marker : ObjectEncryption) :
    store.setObjectEncryptionIfAbsent bucket key versionID marker = store ∨
      ∃ row record, Marked store
        (store.setObjectEncryptionIfAbsent bucket key versionID marker) row
        record marker := by
  have spec := store.setObjectEncryptionIfAbsent_eq bucket key versionID
    marker
  split at spec
  · exact .inl spec
  · split_ifs at spec
    · exact .inl spec
    · exact .inr ⟨_, _, spec⟩

/-- The current object of a key is marked in its own row. -/
theorem setObjectEncryptionIfAbsent_current
    (normal : store.normalizeObjectBucket bucket = bucket)
    (found : store.getObjectVersion bucket key "" = some record)
    (row : store.objects.get ⟨bucket, key, record.versionID.text⟩ =
      some record) (marker : ObjectEncryption) :
    store.setObjectEncryptionIfAbsent bucket key record.versionID.text
        marker = store ∨
      Marked store (store.setObjectEncryptionIfAbsent bucket key
          record.versionID.text marker)
        ⟨bucket, key, record.versionID.text⟩ record marker := by
  obtain ⟨sameBucket, sameKey, _⟩ := store.object_row _ record row
  unfold setObjectEncryptionIfAbsent
  rw [normal]
  by_cases unnamed : record.versionID.text = ""
  · have absent : store.versionRow bucket key
        (store.wantedID bucket key "") = none := by
      cases versioned : store.versionRow bucket key
          (store.wantedID bucket key "") with
      | none => rfl
      | some other =>
        obtain ⟨named, otherRow⟩ := versionRow_eq_some_iff.mp versioned
        have lookup : store.getObjectVersion bucket key "" = some other := by
          simp [getObjectVersion, normal, versioned, named]
        rw [found] at lookup
        cases lookup
        have text := (store.object_row _ record otherRow).2.2 named
        exact absurd (text.symm.trans unnamed) named
    rw [unnamed] at row ⊢
    simp only [absent, row]
    have cases := mark_cases "" (fun nonempty => absurd rfl nonempty)
      (by rw [sameBucket, sameKey]; exact row) marker
    rw [sameBucket, sameKey] at cases
    exact cases
  · have versioned : store.versionRow bucket key
        (store.wantedID bucket key record.versionID.text) = some record := by
      have wanted : store.wantedID bucket key record.versionID.text =
          record.versionID.text := if_neg unnamed
      rw [wanted]
      exact versionRow_eq_some_iff.mpr ⟨unnamed, row⟩
    simp only [versioned]
    have cases := mark_cases record.versionID.text
      (fun _ => rfl) (by rw [sameBucket, sameKey]; exact row) marker
    rw [sameBucket, sameKey] at cases
    exact cases

end Store

end DataSafe.Metadata
