import DataSafe.S3.Objects

/-!
# Object Lock and deletes

`checkDeleteAllowed` decides whether one version may be deleted, from its
record and from the current settings of its bucket.  `deleteObject` asks it
first.  The other calls here set what it reads: retention and legal hold of a
version, and the lock configuration and versioning of a bucket.
-/

namespace DataSafe.S3

open Base Metadata Storage

/-! ## Modes -/

/-- `unicode.IsSpace` -/
def isSpace (rune : Char) : Bool :=
  let code := rune.toNat
  (9 ≤ code && code ≤ 13) || code == 0x20 || code == 0x85 ||
    code == 0xa0 || code == 0x1680 || (0x2000 ≤ code && code ≤ 0x200a) ||
    code == 0x2028 || code == 0x2029 || code == 0x202f ||
    code == 0x205f || code == 0x3000

def trimSpace (text : String) : String :=
  String.ofList
    (((text.toList.dropWhile isSpace).reverse.dropWhile isSpace).reverse)

/-- `unicode.ToUpper` as far as its result is a letter of a mode. -/
def upperRune (rune : Char) : Char :=
  if rune = 'ı' then 'I'
  else if rune = 'ſ' then 'S'
  else if 'a' ≤ rune ∧ rune ≤ 'z' then Char.ofNat (rune.toNat - 32)
  else rune

def toUpper (text : String) : String :=
  String.ofList (text.toList.map upperRune)

/-- `unicode.ToLower` as far as its result is a letter of a status. -/
def lowerRune (rune : Char) : Char :=
  if 'A' ≤ rune ∧ rune ≤ 'Z' then Char.ofNat (rune.toNat + 32) else rune

def toLower (text : String) : String :=
  String.ofList (text.toList.map lowerRune)

def retentionGovernance : String := "GOVERNANCE"
def retentionCompliance : String := "COMPLIANCE"

/-- A mode as it is compared. -/
def normalMode (mode : String) : String := toUpper (trimSpace mode)

/-! ## Deleting -/

/-- The retention that a bucket imposes on a version from its creation. -/
def defaultRetention (bucketRec : BucketRecord) (record : ObjectRecord) :
    Option Time :=
  if bucketRec.objectLock ∧ 0 < bucketRec.retentionDays then
    some ((if record.createdAt = zeroTime then record.lastModified
        else record.createdAt) +
      retentionDuration bucketRec.retentionDays)
  else none

/-- `checkDeleteAllowed` on the record and the bucket that it has read. -/
def checkRecord (now : Time) (bucketRec : Option BucketRecord)
    (record : ObjectRecord) (bypassGovernance : Bool) : Except Err Unit :=
  if record.legalHold then .error .legalHold
  else
    let mode := normalMode record.retentionMode
    let held := record.retentionUntil.any (fun date => now < date)
    let inherited :=
      (bucketRec.bind (fun bucket => defaultRetention bucket record)).any
        (fun date => now < date)
    let mode :=
      if inherited ∧ mode = "" then
        normalMode ((bucketRec.map BucketRecord.retentionMode).getD "")
      else mode
    if !held ∧ !inherited then .ok ()
    else
      let mode := if mode = "" then retentionGovernance else mode
      if bypassGovernance ∧ mode ≠ retentionCompliance then .ok ()
      else .error .retentionLocked

def checkDeleteAllowed (now : Time) (store : Store)
    (bucket key versionID : String) (bypassGovernance : Bool) :
    Except Err Unit :=
  match store.getObjectVersion bucket key versionID with
  | none => .error (.store .notFound)
  | some record =>
    checkRecord now (store.getBucketByKey bucket) record bypassGovernance

/-- `ObjectDeleteInfo` -/
structure DeleteInfo where
  missing : Bool := false
  deleteMarker : Bool := false
  versionID : String := ""
  deleteMarkerVersionID : String := ""
deriving DecidableEq

/-- The delete marker that a delete without a version id adds. -/
def deleteMarker (env : Env) (bucket key : String) : ObjectRecord where
  bucket := bucket
  key := key
  size := 0
  etag := ""
  contentType := ""
  versionID := newVersionID env.versionID
  isDeleteMarker := true
  lastModified := env.now

/-- Without versioning everything below the key goes as well. -/
def sweep (env : Env) (disk : Disk) (bucket key : String)
    (versioning : Bool) : Disk :=
  if versioning then disk
  else removeAllQuietly (env.faults .delete) disk (objectPath bucket key)

/-- The bytes of a version whose record is deleted. -/
def deleteData (env : Env) (disk : Disk) (bucket key : String)
    (versionID : VersionID) (versioning : Bool) : Disk × Option Err :=
  match deletePath (env.faults .delete) disk
      (dataPath bucket key versionID) with
  | .error .notFound => (sweep env disk bucket key versioning, none)
  | .error err => (disk, some (.backend err))
  | .ok deleted => (sweep env deleted bucket key versioning, none)

/-- With versioning a delete of the key adds a marker. -/
def addMarker (env : Env) (world : World) (bucket key : String) :
    World × DeleteInfo × Option Err :=
  match env.transact .putObject
      (world.store.putObject (deleteMarker env bucket key) true) with
  | .error err => (world, {}, some err)
  | .ok store =>
    ({ world with store := store },
      { deleteMarker := true
        versionID := (newVersionID env.versionID).text
        deleteMarkerVersionID := (newVersionID env.versionID).text }, none)

/-- What a delete reports about the record it has removed. -/
def removedInfo (versionID : String) (record : ObjectRecord) :
    Option Err → DeleteInfo
  | some _ => {}
  | none =>
    { versionID := if versionID = "" then "" else record.versionID.text
      deleteMarker := record.isDeleteMarker
      deleteMarkerVersionID :=
        if record.isDeleteMarker then record.versionID.text else "" }

/-- The bytes go with their record; a delete marker has none. -/
def deleteRecordData (env : Env) (disk : Disk) (bucket key : String)
    (record : ObjectRecord) (versioning : Bool) : Disk × Option Err :=
  if record.isDeleteMarker then (disk, none)
  else deleteData env disk bucket key record.versionID versioning

/-- The record is deleted first, and the bytes after it. -/
def removeVersion (env : Env) (world : World)
    (bucket key versionID : String) (versioning : Bool) :
    World × DeleteInfo × Option Err :=
  match world.store.getObjectVersion bucket key versionID with
  | none => (world, { missing := true }, some (.store .notFound))
  | some record =>
    match env.transact .deleteVersion
        (world.store.deleteObjectVersion bucket key versionID
          versioning) with
    | .error err => (world, {}, some err)
    | .ok store =>
      let (disk, failed) :=
        deleteRecordData env world.disk bucket key record versioning
      (⟨store, disk⟩, removedInfo versionID record failed, failed)

/-- `deleteObject` -/
def deleteObject (env : Env) (world : World)
    (bucket key versionID : String) (bypassGovernance : Bool) :
    World × DeleteInfo × Option Err :=
  let bucket := normalizeBucketKey world.store bucket
  let versioning := versioningActive world.store bucket
  match checkDeleteAllowed env.now world.store bucket key versionID
      bypassGovernance with
  | .error err =>
    if err = .store .notFound ∧ versioning ∧ versionID = "" then
      addMarker env world bucket key
    else (world, { missing := err = .store .notFound }, some err)
  | .ok () =>
    if versioning ∧ versionID = "" then addMarker env world bucket key
    else removeVersion env world bucket key versionID versioning

/-! ## Settings -/

/-- `SetBucketVersioning` -/
def setBucketVersioning (env : Env) (store : Store) (bucket status : String) :
    Except Err Store :=
  match store.getBucketByKey (normalizeBucketKey store bucket) with
  | none => .error (.store .notFound)
  | some record =>
    if record.objectLock ∧ toLower status ≠ "enabled" then
      .error .objectLockVersioning
    else
      env.transact .updateBucket (store.updateBucket { record with
        versioning :=
          toLower status = "enabled" || toLower status = "suspended"
        versioningSuspended := toLower status = "suspended" })

/-- The rule of a lock configuration. -/
structure DefaultRetention where
  mode : String := ""
  days : Int := 0
  years : Int := 0
deriving DecidableEq

structure ObjectLockConfiguration where
  objectLockEnabled : String
  rule : Option DefaultRetention := none
deriving DecidableEq

/-- The bucket record under a new lock configuration. -/
def lockBucket (record : BucketRecord) (config : ObjectLockConfiguration) :
    BucketRecord :=
  let lock : Bool := toLower config.objectLockEnabled = "enabled"
  { record with
    objectLock := lock
    versioning := lock || record.versioning
    versioningSuspended := !lock && record.versioningSuspended
    retentionDays :=
      match config.rule with
      | none => record.retentionDays
      | some rule =>
        if 0 < rule.days then rule.days
        else if 0 < rule.years then rule.years * 365
        else record.retentionDays
    retentionMode :=
      match config.rule with
      | none => record.retentionMode
      | some rule =>
        if rule.mode ≠ "" then toUpper rule.mode
        else record.retentionMode }

/-- `PutObjectLockConfiguration` -/
def putObjectLockConfiguration (env : Env) (store : Store)
    (bucket : String) (config : ObjectLockConfiguration) :
    Except Err Store :=
  match store.getBucketByKey (normalizeBucketKey store bucket) with
  | none => .error (.store .notFound)
  | some record =>
    env.transact .updateBucket
      (store.updateBucket (lockBucket record config))

/-- The date of a retention request. -/
inductive RetainDate where
  | absent
  | malformed
  | on (date : Time)
deriving DecidableEq

/-- `PutObjectRetention` -/
def putObjectRetention (env : Env) (store : Store)
    (bucket key versionID mode : String) (date : RetainDate) :
    Except Err Store :=
  let bucket := normalizeBucketKey store bucket
  match date with
  | .absent => .error (.store .notFound)
  | .malformed => .error .invalidTime
  | .on date => do
    let retained ← env.transact .rewriteObject
      (store.setObjectRetention bucket key versionID date (normalMode mode))
    match retained.getBucketByKey bucket with
    | none => return retained
    | some record =>
      match env.transact .updateBucket (retained.updateBucket
          { record with
            objectLock := true
            retentionMode :=
              if mode ≠ "" then toUpper mode
              else record.retentionMode }) with
      | .ok locked => return locked
      | .error _ => return retained

/-- `PutObjectLegalHold` -/
def putObjectLegalHold (env : Env) (store : Store)
    (bucket key versionID : String) (hold : Bool) : Except Err Store :=
  env.transact .rewriteObject
    (store.setObjectLegalHold (normalizeBucketKey store bucket) key
      versionID hold)

end DataSafe.S3
