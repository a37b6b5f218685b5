import DataSafe.S3.Access
import DataSafe.S3.Calls

/-!
# Access of copies

`Handler.copyObject` authorizes the put at the destination, resolves both
buckets for the caller and has the service copy the object.  The right to
read the source is asked nowhere: the caller reads whatever bucket their
logical name resolves to.
-/

namespace DataSafe.S3

open Base Kms Metadata Storage

/-! ## Handler -/

/-- `copySourceBucketKey` -/
def copySourceBucketKey (source : String) : String × String :=
  let runes :=
    match source.toList with
    | '/' :: rest => rest
    | runes => runes
  (String.ofList (runes.takeWhile (· ≠ '/')),
    String.ofList ((runes.dropWhile (· ≠ '/')).drop 1))

/-- A copy as the handler sees it behind the authentication. -/
structure CopyCall where
  principal : String
  sourceIP : String
  secure : Bool
  /-- The header `x-amz-copy-source`. -/
  source : String
  dstBucket : String
  dstKey : String
  /-- The header for encryption names a known algorithm. -/
  knownSSE : Bool

def CopyCall.srcBucket (call : CopyCall) : String :=
  (copySourceBucketKey call.source).1

def CopyCall.srcKey (call : CopyCall) : String :=
  (copySourceBucketKey call.source).2

/-- The request that the handler authorizes. -/
def CopyCall.write (call : CopyCall) : AccessRequest :=
  ⟨call.dstBucket, call.dstKey, "s3:PutObject", call.principal,
    call.sourceIP, call.secure⟩

/-- The request for the object that is copied. -/
def CopyCall.read (call : CopyCall) : AccessRequest :=
  ⟨call.srcBucket, call.srcKey, "s3:GetObject", call.principal,
    call.sourceIP, call.secure⟩

inductive CopyErr where
  | accessDenied
  | noSuchBucket
  | invalidArgument
  | service (err : Err)
deriving DecidableEq

/-- What the handler decides before it calls the service. -/
def admitCopy (directory : Directory) (call : CopyCall) :
    Except CopyErr (String × String) :=
  if authorizeRequest directory call.write = false then .error .accessDenied
  else
    match directory.resolveBucketKey call.principal call.dstBucket,
        directory.resolveBucketKey call.principal call.srcBucket with
    | some target, some source =>
      if call.knownSSE = false then .error .invalidArgument
      else
        .ok (source.effectiveStorageKey, target.effectiveStorageKey)
    | _, _ => .error .noSuchBucket

/-- `Handler.copyObject` behind the authentication. -/
def handleCopy (config : Config) (env : Env) (directory : Directory)
    (world : World) (call : CopyCall) :
    World × Except CopyErr ObjectRecord :=
  match admitCopy directory call with
  | .error err => (world, .error err)
  | .ok (source, target) =>
    match copyObject config env world source call.srcKey target
        call.dstKey with
    | (copied, .ok record) => (copied, .ok record)
    | (copied, .error err) => (copied, .error (.service err))

/-! ## Copies -/

/-- The service can copy the object between the resolved buckets. -/
def Copyable (config : Config) (env : Env) (directory : Directory)
    (world : World) (call : CopyCall) : Prop :=
  ∃ source target record, admitCopy directory call = .ok (source, target) ∧
    (copyObject config env world source call.srcKey target
      call.dstKey).2 = .ok record

theorem handleCopy_ok_iff
    (config : Config) (env : Env) (directory : Directory) (world : World)
    (call : CopyCall) :
    (∃ record, (handleCopy config env directory world call).2 = .ok record) ↔
      Copyable config env directory world call := by
  unfold Copyable handleCopy
  cases admitted : admitCopy directory call with
  | error err => simp
  | ok pair =>
    obtain ⟨source, target⟩ := pair
    cases copied : copyObject config env world source call.srcKey target
        call.dstKey with
    | mk after result =>
      cases result with
      | error err => simp [copied]
      | ok record => simp [copied]

/-- The buckets of two users, and the key of one of them. -/
def twoOwners : Directory where
  ownerKey := "root"
  users := [⟨"u1", "bob", .user, "", ""⟩, ⟨"u2", "alice", .user, "", ""⟩]
  accessKeys := [⟨"AK1", "u1", "bob"⟩]
  buckets := [("b", ⟨"b", "b", "alice", "u2", "", "", .empty⟩),
    ("c", ⟨"c", "c", "bob", "u1", "", "", .empty⟩)]
  scopeIndex := fun _ _ => none
  tenants := fun _ => []
  teams := fun _ => []
  grants := fun _ => []
  prefixGrants := fun _ => []
  groupAccess := fun _ => []
  tenantGroups := fun _ => 0
  tenantGroupKeys := fun _ => []
  operatorWriteAll := false
  ipInAny := fun _ _ => false

/-- An object of alice, and an empty bucket of bob. -/
def twoBuckets : World :=
  run plainConfig (plainCalls ++ [.createBucket (callEnv 4) "c" "c" "" ""])

/-- Bob copies between these names. -/
def bobCopy (source dstBucket : String) : CopyCall where
  principal := "AK1"
  sourceIP := ""
  secure := true
  source := source
  dstBucket := dstBucket
  dstKey := "k"
  knownSSE := true

end DataSafe.S3
