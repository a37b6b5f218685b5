import DataSafe.S3.Encryption

/-!
# Object calls of the service

`PutObject`, `GetObject`, `CopyObject` and `DeleteObject` of the service on
one node, over the metadata store and the file system backend.  Event rows
are not modelled.  A put runs through the stages of the source in their
order: bucket, quota, encryption, target, bytes, stat, record, commit.
-/

namespace DataSafe.S3

open Base Kms Metadata Storage

/-- The metadata and the disk of a node. -/
structure World where
  store : Store
  disk : Disk

/-! ## Buckets -/

/-- The storage key of a bucket that is given by its key or its name. -/
def normalizeBucketKey (store : Store) (bucket : String) : String :=
  match store.getBucketByKey bucket with
  | some record => record.effectiveStorageKey
  | none =>
    match store.listBuckets.find? (fun record => record.name = bucket) with
    | some record => record.effectiveStorageKey
    | none => bucket

/-- Object Lock keeps versioning on, whatever the stored flags say. -/
def BucketVersioned (bucket : BucketRecord) : Bool :=
  bucket.objectLock || (bucket.versioning && !bucket.versioningSuspended)

def versioningActive (store : Store) (bucket : String) : Bool :=
  match store.getBucketByKey (normalizeBucketKey store bucket) with
  | some record => BucketVersioned record
  | none => false

def bucketVersioning (store : Store) (bucket : String) : Bool :=
  match store.getBucketByKey (normalizeBucketKey store bucket) with
  | some record => record.versioning
  | none => false

def bucketVersioningSuspended (store : Store) (bucket : String) : Bool :=
  match store.getBucketByKey bucket with
  | some record => record.versioningSuspended
  | none => false

/-- Objects of a bucket whose key was destroyed are refused. -/
def bucketKeyDestroyed (store : Store) (bucket : String) : Bool :=
  match store.getBucketByKey bucket with
  | none => false
  | some record =>
    if record.kmsKeyStatus = "destroyed" then true
    else if record.kmsMasterKeyID = "" then false
    else
      match store.getKMSKey record.kmsMasterKeyID with
      | some key => key.status = "destroyed"
      | none => false

/-! ## Quota -/

/-- A number as `int64` holds it. -/
def int64 (value : Int) : Int := Int.bmod value (2 ^ 64)

/-- Whether a count has reached a limit that is set. -/
def reaches (limit count : Int) : Bool :=
  decide (0 < limit) && decide (limit ≤ count)

/-- Whether `used` plus `more`, in 64 bits, exceeds a limit that is set. -/
def exceeds (limit used more : Int) : Bool :=
  decide (0 < limit) && decide (limit < int64 (used + more))

def checkQuota (store : Store) (bucketRec : BucketRecord)
    (bucket key : String) (newSize : Int) : Except Err Unit :=
  let existing := (store.getObject bucket key).filter
    (fun record => !record.isDeleteMarker)
  let netSize := max 0
    (int64 (newSize - (existing.map ObjectRecord.size).getD 0))
  let storageKey := bucketRec.effectiveStorageKey
  if existing.isNone ∧ reaches bucketRec.maxObjects
      (store.bucketObjectCount storageKey) then
    .error .quotaExceeded
  else if exceeds bucketRec.maxSizeBytes (store.bucketTotalSize storageKey)
      netSize then
    .error .quotaExceeded
  else if bucketRec.owner = "" then .ok ()
  else
    match store.getUserByUsername bucketRec.owner with
    | none => .ok ()
    | some user =>
      let (objects, bytes) := store.ownerUsage bucketRec.owner
      if existing.isNone ∧ reaches user.maxObjects objects then
        .error .quotaExceeded
      else if exceeds user.maxSizeBytes bytes netSize then
        .error .quotaExceeded
      else .ok ()

/-! ## Put -/

structure PutRequest where
  bucket : String
  key : String
  source : Source
  size : Int
  contentType : String := ""
  metadata : List (String × String) := []

/-- Where a put writes. -/
inductive PutTarget where
  /-- A new version. -/
  | fresh (versionID : VersionID)
  /-- The current version of a bucket with suspended versioning. -/
  | overwrite (versionID : VersionID)
  /-- The flat file, after everything stored for the key was purged. -/
  | flat (suspended : Bool)
deriving DecidableEq

namespace PutTarget

def versionID : PutTarget → VersionID
  | .fresh versionID => versionID
  | .overwrite versionID => versionID
  | .flat _ => .null

/-- The record is committed as a version. -/
def versioned : PutTarget → Bool
  | .flat _ => false
  | _ => true

/--
The error of the backend is lost: the suspended branch of the source declares
its own `err`, and the check behind the branches reads the outer one.
-/
def swallows : PutTarget → Bool
  | .fresh _ => false
  | .overwrite _ => true
  | .flat suspended => suspended

end PutTarget

def putTarget (store : Store) (bucket key : String) (newID : VersionID) :
    PutTarget :=
  if versioningActive store bucket then .fresh newID
  else if bucketVersioning store bucket &&
      bucketVersioningSuspended store bucket then
    match store.getObject bucket key with
    | some existing =>
      if existing.versionID.text ≠ "" ∧ !existing.isDeleteMarker then
        .overwrite existing.versionID
      else .flat true
    | none => .flat true
  else .flat false

/-- Delete the file of one version and ignore the error. -/
def deleteQuietly (faults : Faults) (disk : Disk) (path : Path) : Disk :=
  match deletePath faults disk path with
  | .ok deleted => deleted
  | .error _ => disk

/-- `purgeObjectData` -/
def purgeObjectData (faults : Faults) (world : World)
    (bucket key : String) : Disk :=
  removeAllQuietly faults
    ((world.store.listObjectVersionIDs bucket key).foldl
      (fun disk versionID =>
        deleteQuietly faults disk (dataPath bucket key versionID))
      world.disk)
    (objectPath bucket key)

/-- The disk as the write of a put finds it: purged before a flat one. -/
def clearedDisk (env : Env) (world : World) (bucket key : String) :
    PutTarget → Disk
  | .flat _ => purgeObjectData (env.faults .purge) world bucket key
  | _ => world.disk

/-- The size that the backend checks: none for a sealed body. -/
def checkedSize (request : PutRequest) (prepared : Prepared) : Int :=
  if prepared.counter.isSome then -1 else request.size

/-- The write of a put. -/
def putWrite (config : Config) (env : Env) (world : World)
    (bucket : String) (request : PutRequest) (prepared : Prepared)
    (target : PutTarget) : Written :=
  putPath (env.write config .write)
    (clearedDisk env world bucket request.key target)
    (dataPath bucket request.key target.versionID) prepared.body
    (checkedSize request prepared)

/-- `time.Duration(days) * 24 * time.Hour`, in 64 bits. -/
def retentionDuration (days : Int) : Time := Int.bmod (days * day) (2 ^ 64)

/-- The plaintext bytes that the counter has seen. -/
def counted (env : Env) (source : Source) (extent : Extent) :
    Counter → Int
  | .fixed count => count
  | .live =>
    match extent with
    | .unread => 0
    | .partly => min env.readBefore source.content.length
    | .wholly => source.content.length

/-- The record of a put whose bytes are in place. -/
def putRecord (env : Env) (store : Store) (bucketRec : BucketRecord)
    (bucket : String) (request : PutRequest) (prepared : Prepared)
    (versionID : VersionID) (etag : String) (extent : Extent)
    (info : ObjectInfo) : ObjectRecord :=
  let size := prepared.counter.map (counted env request.source extent)
  { bucket := bucket
    key := request.key
    size := size.getD info.size
    etag := etag
    contentType := request.contentType
    versionID := versionID
    lastModified := env.now
    metadata := request.metadata
    storageClass := bucketRec.storageClass
    retentionUntil :=
      if bucketRec.objectLock ∧ 0 < bucketRec.retentionDays then
        some (info.lastModified + retentionDuration bucketRec.retentionDays)
      else none
    createdAt :=
      match store.getObject bucket request.key with
      | some existing =>
        if !existing.isDeleteMarker ∧ existing.createdAt ≠ zeroTime then
          existing.createdAt
        else info.lastModified
      | none => info.lastModified
    encryption := some { prepared.encryption with
      plainSize := size.getD prepared.encryption.plainSize } }

/-- The part of `putObject` behind the write. -/
def putWritten (config : Config) (env : Env) (world : World)
    (bucketRec : BucketRecord) (bucket : String) (request : PutRequest)
    (prepared : Prepared) (target : PutTarget) (written : Written) :
    World × Except Err ObjectRecord :=
  let wrote : World := { world with disk := written.disk }
  match statPath config.md5 (env.faults .stat) written.disk
      (dataPath bucket request.key target.versionID) with
  | .error err => (wrote, .error (.backend err))
  | .ok info =>
    let record := putRecord env world.store bucketRec bucket request
      prepared target.versionID (written.reply.toOption.getD "")
      written.extent info
    match env.transact .putObject
        (world.store.putObject record target.versioned) with
    | .error err => (wrote, .error err)
    | .ok store => ({ wrote with store := store }, .ok record)

/-- The part of `putObject` behind the encryption. -/
def putPrepared (config : Config) (env : Env) (world : World)
    (bucketRec : BucketRecord) (bucket : String) (request : PutRequest)
    (prepared : Prepared) : World × Except Err ObjectRecord :=
  let target := putTarget world.store bucket request.key
    (newVersionID env.versionID)
  let written := putWrite config env world bucket request prepared target
  match written.reply, target.swallows with
  | .error err, false =>
    ({ world with disk := written.disk }, .error (.backend err))
  | _, _ =>
    putWritten config env world bucketRec bucket request prepared target
      written

/-- `putObject` -/
def putObject (config : Config) (env : Env) (world : World)
    (request : PutRequest) : World × Except Err ObjectRecord :=
  let bucket := normalizeBucketKey world.store request.bucket
  match world.store.getBucketByKey bucket with
  | none => (world, .error (.store .notFound))
  | some bucketRec =>
    match checkQuota world.store bucketRec bucket request.key
        request.size with
    | .error err => (world, .error err)
    | .ok () =>
      match prepareObjectEncryption config env world.store bucketRec
          request.source with
      | (store, .error err) =>
        ({ world with store := store }, .error err)
      | (store, .ok prepared) =>
        putPrepared config env { world with store := store } bucketRec
          bucket request prepared

/-! ## Get and copy -/

/-- `GetObject`: the body, read to its end, and the record. -/
def getObject (config : Config) (env : Env) (world : World)
    (bucket key versionID : String) :
    World × Except Err (Body × ObjectRecord) :=
  let bucket := normalizeBucketKey world.store bucket
  if bucketKeyDestroyed world.store bucket then
    (world, .error .keyDestroyed)
  else
    match world.store.getObjectVersion bucket key versionID with
    | none => (world, .error (.store .notFound))
    | some record =>
      match readPath config.md5 (env.faults .read) world.disk
          (dataPath bucket key record.versionID) with
      | .error err => (world, .error (.backend err))
      | .ok data =>
        match openDecrypted config env world.store data record with
        | (none, result) => (world, result)
        | (some marker, result) =>
          ({ world with
              store := world.store.setObjectEncryptionIfAbsent
                record.bucket record.key record.versionID.text
                marker }, result)

/-- The tags of the source go to the copy; an error is ignored. -/
def tagCopy (env : Env) (store : Store) (bucket key : String)
    (copy : ObjectRecord) (tags : List (String × String)) : Store :=
  if tags = [] then store
  else
    match env.transact .rewriteObject
        (store.setObjectTags bucket key copy.versionID.text tags) with
    | .ok tagged => tagged
    | .error _ => store

/-- The put that a copy makes. -/
def copyRequest (bucket key : String) (body : Body)
    (source : ObjectRecord) : PutRequest where
  bucket := bucket
  key := key
  source := ⟨[body.data], body.ending, false⟩
  size := source.size
  contentType := source.contentType
  metadata := source.metadata

/-- `CopyObject` -/
def copyObject (config : Config) (env : Env) (world : World)
    (srcBucket srcKey dstBucket dstKey : String) :
    World × Except Err ObjectRecord :=
  match getObject config env world srcBucket srcKey "" with
  | (read, .error err) => (read, .error err)
  | (read, .ok (body, source)) =>
    match putObject config env read
        (copyRequest dstBucket dstKey body source) with
    | (copied, .error err) => (copied, .error err)
    | (copied, .ok record) =>
      ({ copied with
          store := tagCopy env copied.store
            (normalizeBucketKey read.store dstBucket) dstKey record
            source.tags },
        .ok { record with
          tags := source.tags
          storageClass :=
            if record.storageClass = "" then source.storageClass
            else record.storageClass })

end DataSafe.S3
