import DataSafe.Base.Machine
import DataSafe.S3.Sound

/-!
# The trash

A move to the trash copies the stored bytes of an object into the trash
bucket, by a put under a key of its own, notes the copy in the trash table and
deletes the object.  A restore reads the stored bytes of the copy, puts them
under the original key and removes the copy's file and its row in the table.

The trash table is a table of its own next to the metadata of the other
modules.  `TrashCall` adds the two calls to the calls of the service.
-/

namespace DataSafe.S3

open Base Kms Metadata Storage

/-! ## The calls -/

def trashBucketName : String := ".datasafe-trash"

structure TrashRecord where
  id : String
  originalBucket : String
  originalKey : String
  trashKey : String
  size : Int
  versionID : VersionID
  deletedBy : String
  deletedAt : Time
deriving DecidableEq

/-- A node with its trash table. -/
structure TrashWorld where
  node : World
  trash : Table String TrashRecord

/-- What a move draws from its surroundings, for each call inside it. -/
structure MoveEnv where
  create : Env
  put : Env
  row : Env
  delete : Env
  /-- The clock in nanoseconds, as it goes into the key of the copy. -/
  stamp : Int
  /-- Where a new trash bucket is stored, and for whom. -/
  storageKey : String
  owner : String
  tenantID : String
  /-- `callerOwnsBucket` -/
  owned : Bool := false

/-- `EnsureTrashBucket` -/
def ensureTrashBucket (env : MoveEnv) (world : World) : Except Err World :=
  match world.store.getBucket trashBucketName with
  | some _ => .ok world
  | none =>
    if env.owned then .error (.store .bucketExists)
    else
      let put := env.create.transact .putBucket (world.store.putBucket
        { storageKey := env.storageKey
          name := trashBucketName
          owner := env.owner
          tenantID := env.tenantID })
      match Storage.createBucket (env.create.faults .write) world.disk
          env.storageKey, put with
      | .ok disk, .ok store => .ok ⟨store, disk⟩
      | .error .bucketExists, .ok store =>
        .ok { world with store := store }
      | .ok _, .error err => .error err
      | .error .bucketExists, .error err => .error err
      | .error err, _ => .error (.backend err)

/-- The key of a copy in the trash bucket. -/
def trashKeyOf (bucket key : String) (stamp : Int) (versionID : VersionID) :
    String :=
  let trashKey := bucket ++ "/" ++ key ++ "/" ++ toString stamp
  if versionID.text ≠ "" then trashKey ++ "/" ++ versionID.text
  else trashKey

/-- The put of the stored bytes into the trash bucket. -/
def trashRequest (trashKey : String) (data : Bytes) (src : ObjectRecord) :
    PutRequest where
  bucket := trashBucketName
  key := trashKey
  source := Source.ofBytes data
  size := src.size
  contentType := src.contentType
  metadata := src.metadata

/-- The row of the trash table for a copy. -/
def trashRow (env : MoveEnv) (bucket key deletedBy : String)
    (src : ObjectRecord) : TrashRecord where
  id := (newVersionID env.row.versionID).text
  originalBucket := bucket
  originalKey := key
  trashKey := trashKeyOf bucket key env.stamp src.versionID
  size := src.size
  versionID := src.versionID
  deletedBy := deletedBy
  deletedAt := env.row.now

/-- The part of `moveToTrash` behind the copy. -/
def moveCopied (env : MoveEnv) (trash : Table String TrashRecord)
    (copied : World) (bucket key versionID : String)
    (trashed : TrashRecord) : TrashWorld × Except Err TrashRecord :=
  if env.row.transactionFails .putTrash then
    (⟨copied, trash⟩, .error (.store .transaction))
  else
    let noted := trash.put trashed.id trashed
    match deleteObject env.delete copied bucket key versionID false with
    | (deleted, _, some err) => (⟨deleted, noted⟩, .error err)
    | (deleted, _, none) => (⟨deleted, noted⟩, .ok trashed)

/-- `moveToTrash` -/
def moveToTrash (config : Config) (env : MoveEnv) (world : TrashWorld)
    (bucket key versionID deletedBy : String) :
    TrashWorld × Except Err TrashRecord :=
  let bucket := normalizeBucketKey world.node.store bucket
  match ensureTrashBucket env world.node with
  | .error err => (world, .error err)
  | .ok ensured =>
    match ensured.store.getObjectVersion bucket key versionID with
    | none => (⟨ensured, world.trash⟩, .error (.store .notFound))
    | some src =>
      if src.isDeleteMarker then
        (⟨ensured, world.trash⟩, .error (.store .notFound))
      else
        match readPath config.md5 (env.put.faults .read) ensured.disk
            (dataPath bucket key src.versionID) with
        | .error err => (⟨ensured, world.trash⟩, .error (.backend err))
        | .ok data =>
          match putObject config env.put.unforced ensured
              (trashRequest (trashKeyOf bucket key env.stamp
                src.versionID) data src) with
          | (copied, .error err) =>
            (⟨copied, world.trash⟩, .error err)
          | (copied, .ok _) =>
            moveCopied env world.trash copied bucket key versionID
              (trashRow env bucket key deletedBy src)

/-- The put that brings a copy back: without content type and metadata. -/
def restoreRequest (trashed : TrashRecord) (data : Bytes) : PutRequest where
  bucket := trashed.originalBucket
  key := trashed.originalKey
  source := Source.ofBytes data
  size := trashed.size

/-- `restoreFromTrash` -/
def restoreFromTrash (config : Config) (env : Env) (world : TrashWorld)
    (trashID : String) : TrashWorld × Except Err ObjectRecord :=
  match world.trash.get trashID with
  | none => (world, .error (.store .notFound))
  | some trashed =>
    let copy := objectPath
      (normalizeBucketKey world.node.store trashBucketName)
      trashed.trashKey
    match readPath config.md5 (env.faults .read) world.node.disk copy with
    | .error err => (world, .error (.backend err))
    | .ok data =>
      match putObject config env.unforced world.node
          (restoreRequest trashed data) with
      | (restored, .error err) =>
        ({ world with node := restored }, .error err)
      | (restored, .ok record) =>
        -- The record of the copy stays in the trash bucket.
        (⟨{ restored with
              disk := deleteQuietly (env.faults .delete)
                restored.disk copy },
          if env.transactionFails .deleteTrash then world.trash
          else world.trash.delete trashID⟩, .ok record)

/-! ## Runs -/

inductive TrashCall where
  | call (call : Call)
  | moveToTrash (env : MoveEnv) (bucket key versionID deletedBy : String)
  | restoreFromTrash (env : Env) (trashID : String)

def trashStep (config : Config) (world : TrashWorld) :
    TrashCall → TrashWorld
  | .call call => { world with node := step config world.node call }
  | .moveToTrash env bucket key versionID deletedBy =>
    (moveToTrash config env world bucket key versionID deletedBy).1
  | .restoreFromTrash env trashID =>
    (restoreFromTrash config env world trashID).1

def TrashWorld.initial : TrashWorld := ⟨World.initial, Table.empty⟩

/-- The world after some calls. -/
def trashRun (config : Config) (calls : List TrashCall) : TrashWorld :=
  runAll (trashStep config) TrashWorld.initial calls

/-! ## What the calls keep -/

/-- A trash bucket is there, and nothing else has changed. -/
structure Ensured (world ensured : World) : Prop where
  sameObjects : Store.SameObjects ensured.store world.store
  files : ∀ path, fileAt ensured.disk path = fileAt world.disk path
  buckets : ∀ bucket, (world.store.getBucketByKey bucket).isSome →
    ensured.store.getBucketByKey bucket = world.store.getBucketByKey bucket

theorem Ensured.refl (world : World) : Ensured world world where
  sameObjects := ⟨rfl, rfl, rfl, rfl⟩
  files := fun _ => rfl
  buckets := fun _ _ => rfl

theorem fileAt_createBucket
    {faults : Faults} {disk created : Disk} {bucket : String}
    (done : Storage.createBucket faults disk bucket = .ok created)
    (path : Path) : fileAt created path = fileAt disk path := by
  unfold Storage.createBucket at done
  split_ifs at done
  split at done
  · rename_i made
    cases done
    exact fileAt_mkdirAll made path
  · cases done

theorem ensureTrashBucket_ensured
    {env : MoveEnv} {world ensured : World}
    (done : ensureTrashBucket env world = .ok ensured) :
    Ensured world ensured := by
  unfold ensureTrashBucket at done
  split at done
  · cases done
    exact .refl world
  · split_ifs at done
    simp only at done
    split at done
    · rename_i disk store made put
      cases done
      obtain ⟨_, put⟩ := Env.transact_eq_ok_iff.mp put
      exact ⟨Store.putBucket_sameObjects put, fileAt_createBucket made,
        fun bucket known => Store.getBucketByKey_putBucket put known⟩
    · rename_i store made put
      cases done
      obtain ⟨_, put⟩ := Env.transact_eq_ok_iff.mp put
      exact ⟨Store.putBucket_sameObjects put, fun _ => rfl,
        fun bucket known => Store.getBucketByKey_putBucket put known⟩
    · cases done
    · cases done
    · cases done

end DataSafe.S3
