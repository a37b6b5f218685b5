import DataSafe.S3.Multipart
import DataSafe.S3.ObjectLock
import DataSafe.S3.Reads

/-!
# Calls and runs

A node starts empty and serves calls one after the other.  `Call` lists the
calls that read or change objects and their settings, each with what it draws
from its surroundings; `step` serves one of them and `run` a sequence.  Calls
that only rewrite the record of a bucket, a user or a key are three calls that
store an arbitrary record.

`Sound` collects what every run keeps: flat rows hold objects without a
version id, data keys that Vault has wrapped belong to keys with a row, and
uploads carry generated ids.
-/

namespace DataSafe.S3

open Base Kms Metadata Storage

/-! ## Calls -/

inductive Call where
  | createBucket (env : Env) (storageKey name owner tenantID : String)
  | updateBucket (env : Env) (record : BucketRecord)
  | putUser (record : UserRecord)
  | putKMSKey (record : KMSKeyRecord)
  | setBucketVersioning (env : Env) (bucket status : String)
  | putObjectLockConfiguration (env : Env) (bucket : String)
      (lock : ObjectLockConfiguration)
  | putObjectRetention (env : Env) (bucket key versionID mode : String)
      (date : RetainDate)
  | putObjectLegalHold (env : Env) (bucket key versionID : String)
      (hold : Bool)
  | setObjectTags (env : Env) (bucket key versionID : String)
      (tags : List (String × String))
  | putObject (env : Env) (request : PutRequest)
  | getObject (env : Env) (bucket key versionID : String)
  | copyObject (env : Env) (srcBucket srcKey dstBucket dstKey : String)
  | deleteObject (env : Env) (bucket key versionID : String)
      (bypassGovernance : Bool)
  | createMultipartUpload (env : Env) (bucket key contentType : String)
      (metadata : List (String × String))
  | uploadPart (env : Env) (bucket key uploadID : String) (number : Nat)
      (source : Source) (size : Int)
  | completeMultipartUpload (env : Env) (bucket key uploadID : String)
      (parts : List Nat)
  | abortMultipartUpload (env : Env) (bucket key uploadID : String)

/-- A call that fails leaves the store as it was. -/
def World.keep (world : World) : Except Err Store → World
  | .ok store => { world with store := store }
  | .error _ => world

/-- `CreateBucket`, for the storage key that the scope of the owner gives. -/
def World.createBucket (world : World) (env : Env)
    (storageKey name owner tenantID : String) : World :=
  let put := env.transact .putBucket (world.store.putBucket
    { storageKey := storageKey
      name := name
      owner := owner
      tenantID := tenantID })
  match Storage.createBucket (env.faults .write) world.disk storageKey, put
    with
  | .ok disk, .ok store => ⟨store, disk⟩
  | .error .bucketExists, .ok store => { world with store := store }
  | _, _ => world

/-- A request cannot prescribe the marker of an upload. -/
def Env.unforced (env : Env) : Env := env.force none

def step (config : Config) (world : World) : Call → World
  | .createBucket env storageKey name owner tenantID =>
    world.createBucket env storageKey name owner tenantID
  | .updateBucket env record =>
    world.keep (env.transact .updateBucket (world.store.updateBucket record))
  | .putUser record => { world with store := world.store.putUser record }
  | .putKMSKey record =>
    { world with store := world.store.putKMSKey record }
  | .setBucketVersioning env bucket status =>
    world.keep (setBucketVersioning env world.store bucket status)
  | .putObjectLockConfiguration env bucket lock =>
    world.keep (putObjectLockConfiguration env world.store bucket lock)
  | .putObjectRetention env bucket key versionID mode date =>
    world.keep (putObjectRetention env world.store bucket key versionID
      mode date)
  | .putObjectLegalHold env bucket key versionID hold =>
    world.keep (putObjectLegalHold env world.store bucket key versionID hold)
  | .setObjectTags env bucket key versionID tags =>
    world.keep (env.transact .rewriteObject (world.store.setObjectTags
      (normalizeBucketKey world.store bucket) key versionID tags))
  | .putObject env request => (putObject config env.unforced world request).1
  | .getObject env bucket key versionID =>
    (getObject config env world bucket key versionID).1
  | .copyObject env srcBucket srcKey dstBucket dstKey =>
    (copyObject config env.unforced world srcBucket srcKey dstBucket
      dstKey).1
  | .deleteObject env bucket key versionID bypassGovernance =>
    (deleteObject env world bucket key versionID bypassGovernance).1
  | .createMultipartUpload env bucket key contentType metadata =>
    (createMultipartUpload config env.unforced world bucket key
      contentType metadata).1
  | .uploadPart env bucket key uploadID number source size =>
    (uploadPart config env world bucket key uploadID number source size).1
  | .completeMultipartUpload env bucket key uploadID parts =>
    (completeMultipart config env world bucket key uploadID parts).1
  | .abortMultipartUpload env bucket key uploadID =>
    (abortMultipartUpload env world bucket key uploadID).1

/-- A node without buckets and files. -/
def World.initial : World := ⟨Store.empty, FileTree.root⟩

/-- The world after some calls. -/
def runFrom (config : Config) (world : World) (calls : List Call) : World :=
  calls.foldl (step config) world

def run (config : Config) (calls : List Call) : World :=
  runFrom config World.initial calls

theorem run_concat (config : Config) (calls : List Call) (call : Call) :
    run config (calls ++ [call]) = step config (run config calls) call := by
  simp [run, runFrom]

/-- What holds at the start and is kept by each call holds after a run. -/
theorem run_induction
    {config : Config} {motive : World → Prop} (initial : motive World.initial)
    (kept : ∀ world call, motive world → motive (step config world call))
    (calls : List Call) : motive (run config calls) := by
  unfold run runFrom
  generalize World.initial = world at initial
  induction calls generalizing world with
  | nil => exact initial
  | cons call calls induction =>
    exact induction _ (kept world call initial)

/-! ## A node to run -/

/-- A node without a master key. -/
def plainConfig : Config where
  aead := Aead.ofLog []
  md5 := fun _ => ""
  localKey := none
  keyAllowed := fun _ => true
  defaultKeyID := fun _ _ => ""

/-- A call that meets no fault, with ids and times from a number. -/
def callEnv (number : UInt8) : Env where
  now := number.toNat
  modTime := number.toNat
  versionID := ⟨[number], List.cons_ne_nil _ _⟩
  uploadID := ⟨[number], List.cons_ne_nil _ _⟩
  tempName := "0"
  dek := List.replicate 32 0
  dek_length := List.length_replicate
  nonces := ⟨fun _ => List.replicate 12 0, fun _ => List.length_replicate⟩
  wrapNonce := List.replicate 12 0
  wrapNonce_length := List.length_replicate

/-- A put of three bytes. -/
def smallPut (key : String) : PutRequest where
  bucket := "b"
  key := key
  source := Source.ofBytes [1, 2, 3]
  size := 3

/-- A put whose body breaks off after one of three bytes. -/
def brokenPut : PutRequest where
  bucket := "b"
  key := "k"
  source := ⟨[[9]], .unexpectedEOF, false⟩
  size := 3

/-- A bucket without versioning and an object in it. -/
def plainCalls : List Call :=
  [.createBucket (callEnv 1) "b" "b" "" "",
    .putObject (callEnv 3) (smallPut "k")]

/-- A bucket with versioning and one version of an object in it. -/
def versionedCalls : List Call :=
  [.createBucket (callEnv 1) "b" "b" "" "",
    .setBucketVersioning (callEnv 2) "b" "Enabled",
    .putObject (callEnv 3) (smallPut "k")]

/-- The same bucket with versioning suspended. -/
def suspendedCalls : List Call :=
  versionedCalls ++ [.setBucketVersioning (callEnv 4) "b" "Suspended"]

end DataSafe.S3
