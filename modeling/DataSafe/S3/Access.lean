import DataSafe.Base.Table
import DataSafe.Policy.Evaluator

/-!
# Access to buckets and objects

`AuthorizeRequest` decides every request that is signed with an access key.
A bucket policy that names the key decides alone.  Otherwise the owner of the
key needs access to the bucket, through a role, ownership, a tenant, a grant
or a group, and for a single object perhaps a grant for its folder; a policy
may then still deny the request.

`Directory` holds what these decisions read of the metadata.  Reads of it do
not fail.
-/

namespace DataSafe.S3

open Base Policy

/-! ## Roles and grants -/

inductive Role where
  | administrator
  | operator
  | user
  | other (text : String)
deriving DecidableEq

inductive TenantRole where
  | admin
  | member
  | viewer
  | other (text : String)
deriving DecidableEq

structure TenantMembership where
  tenantID : String
  role : TenantRole
deriving DecidableEq

/-- The level of a grant, where it is one of the known ones. -/
inductive GrantLevel where
  | read
  | write
  | admin
deriving DecidableEq

structure BucketGrant where
  userID : String
  canRead : Bool
  canWrite : Bool
  level : Option GrantLevel
deriving DecidableEq

structure PrefixGrant where
  userID : String
  folder : String
  canRead : Bool
  canWrite : Bool
deriving DecidableEq

structure GroupBucketAccess where
  canRead : Bool
  canWrite : Bool
deriving DecidableEq

/-- `TenantBucketAccessInput` -/
structure AccessInput where
  role : Role
  userID : String
  username : String
  teamIDs : List String
  bucketOwnerID : String
  bucketOwner : String
  bucketTeamID : String
  bucketTenantID : String
  userTenants : List TenantMembership
  grants : List BucketGrant
  prefixGrants : List PrefixGrant
  groupAccess : Option GroupBucketAccess
  tenantHasGroups : Bool
  bucketInTenantGroup : Bool
  /-- `STORAGE_OPERATOR_WRITE_ALL` is set. -/
  operatorWriteAll : Bool

def Role.canSeeAllBuckets (role : Role) : Bool :=
  decide (role = .administrator ∨ role = .operator)

def canWriteAllBuckets (operatorWriteAll : Bool) (role : Role) : Bool :=
  decide (role = .administrator) ||
    (decide (role = .operator) && operatorWriteAll)

def tenantMemberRole
    (memberships : List TenantMembership) (tenantID : String) :
    Option TenantRole :=
  if tenantID = "" then none
  else
    (memberships.find? (fun membership =>
      membership.tenantID = tenantID)).map TenantMembership.role

def TenantRole.canWrite : TenantRole → Bool
  | .admin => true
  | .member => true
  | _ => false

/-- `GrantLevel`: a missing level follows from the flags. -/
def BucketGrant.effectiveLevel (grant : BucketGrant) : Option GrantLevel :=
  match grant.level with
  | some level => some level
  | none =>
    if grant.canWrite then some .write
    else if grant.canRead then some .read
    else none

def grantAllows : List BucketGrant → String → Bool → Bool
  | [], _, _ => false
  | grant :: rest, userID, write =>
    if grant.userID ≠ userID then grantAllows rest userID write
    else
      match grant.effectiveLevel with
      | some .admin => true
      | some .write => true
      | some .read => !write
      | none => grantAllows rest userID write

/-- `NormalizeSharePrefix` -/
def normalizeFolder (folder : String) : String :=
  let folder := trimText folder
  let folder :=
    if startsWith "/" folder then String.ofList folder.toList.tail
    else folder
  if folder ≠ "" ∧ endsWith "/" folder = false then folder ++ "/"
  else folder

def objectKeyMatchesPrefix (key folder : String) : Bool :=
  if trimText folder = "" then true
  else
    startsWith (normalizeFolder folder) key ||
      decide (key =
        if endsWith "/" (normalizeFolder folder) then
          String.ofList (normalizeFolder folder).toList.dropLast
        else normalizeFolder folder)

def prefixGrantAllows :
    List PrefixGrant → String → String → Bool → Bool
  | [], _, _, _ => false
  | grant :: rest, userID, key, write =>
    if grant.userID ≠ userID ∨
        objectKeyMatchesPrefix key grant.folder = false then
      prefixGrantAllows rest userID key write
    else if write then grant.canWrite
    else grant.canRead || grant.canWrite

def userHasPrefixGrant (grants : List PrefixGrant) (userID : String) : Bool :=
  grants.any (fun grant =>
    decide (grant.userID = userID) && (grant.canRead || grant.canWrite))

/-! ## Bucket access -/

/-- The user is the owner of the bucket. -/
def AccessInput.owns (input : AccessInput) : Bool :=
  decide (input.bucketOwnerID ≠ "" ∧ input.bucketOwnerID = input.userID) ||
    decide (input.bucketOwner ≠ "" ∧ input.bucketOwner = input.username)

/-- The user is in the team of the bucket. -/
def AccessInput.inTeam (input : AccessInput) : Bool :=
  decide (input.bucketTeamID ≠ "" ∧ input.bucketTeamID ∈ input.teamIDs)

/-- The role alone suffices. -/
def AccessInput.byRole (input : AccessInput) (write : Bool) : Bool :=
  if write then canWriteAllBuckets input.operatorWriteAll input.role
  else input.role.canSeeAllBuckets

def resolveTenantBucketAccess (input : AccessInput) (write : Bool) : Bool :=
  let tenantRole := tenantMemberRole input.userTenants input.bucketTenantID
  let hasGrants := decide (input.grants ≠ [])
  let hasPrefixGrants := decide (input.prefixGrants ≠ [])
  if input.byRole write then true
  else if input.owns then true
  else if tenantRole = some .admin then true
  else if hasGrants && grantAllows input.grants input.userID write then true
  else if !write && hasPrefixGrants &&
      userHasPrefixGrant input.prefixGrants input.userID then true
  else
    match input.groupAccess with
    | some access => if write then access.canWrite else access.canRead
    | none =>
      if hasGrants || hasPrefixGrants ||
          (input.tenantHasGroups && input.bucketInTenantGroup) then false
      else if input.tenantHasGroups then false
      else
        match tenantRole with
        | some role => if write then role.canWrite else true
        | none => input.inTeam

def resolveObjectKeyAccess
    (input : AccessInput) (key : String) (write : Bool) : Bool :=
  let hasPrefixGrants := decide (input.prefixGrants ≠ [])
  if resolveTenantBucketAccess input write &&
      (!hasPrefixGrants || grantAllows input.grants input.userID write ||
        !userHasPrefixGrant input.prefixGrants input.userID) then true
  else
    hasPrefixGrants &&
      prefixGrantAllows input.prefixGrants input.userID key write

def canAccessBucket (input : AccessInput) : Bool :=
  input.role.canSeeAllBuckets || input.owns || input.inTeam ||
    (tenantMemberRole input.userTenants input.bucketTenantID).isSome

def canWriteBucket (input : AccessInput) : Bool :=
  let writeAll := canWriteAllBuckets input.operatorWriteAll input.role
  if !canAccessBucket input && !writeAll then false
  else if writeAll then true
  else if input.owns then true
  else if input.inTeam then true
  else
    match tenantMemberRole input.userTenants input.bucketTenantID with
    | some role => role.canWrite
    | none => false

def resolveBucketAccess (input : AccessInput) (write : Bool) : Bool :=
  if input.bucketTenantID ≠ "" ∨ input.grants ≠ [] ∨
      input.prefixGrants ≠ [] ∨ input.tenantHasGroups = true then
    resolveTenantBucketAccess input write
  else if write then canWriteBucket input
  else canAccessBucket input

/-! ## Directory -/

structure UserEntry where
  id : String
  username : String
  role : Role
  teamID : String
  tenantID : String
deriving DecidableEq

structure AccessKeyEntry where
  accessKey : String
  ownerID : String
  owner : String
deriving DecidableEq

/-- What access decisions read of the record of a bucket. -/
structure BucketEntry where
  storageKey : String
  name : String
  owner : String
  ownerID : String
  teamID : String
  tenantID : String
  policy : PolicyText
deriving DecidableEq

def BucketEntry.effectiveStorageKey (bucket : BucketEntry) : String :=
  if bucket.storageKey ≠ "" then bucket.storageKey else bucket.name

inductive BucketScope where
  | tenant (tenantID : String)
  | owner (ownerID : String)
deriving DecidableEq

/-- What access decisions read of the metadata. -/
structure Directory where
  /-- The access key of the installation. -/
  ownerKey : String
  users : List UserEntry
  accessKeys : List AccessKeyEntry
  /-- The buckets under their storage keys, in the order of a listing. -/
  buckets : List (String × BucketEntry)
  /-- `bucket_scope_index` -/
  scopeIndex : BucketScope → String → Option String
  tenants : String → List TenantMembership
  teams : String → List String
  grants : String → List BucketGrant
  prefixGrants : String → List PrefixGrant
  groupAccess : String → List (String × GroupBucketAccess)
  tenantGroups : String → Nat
  tenantGroupKeys : String → List String
  operatorWriteAll : Bool
  /-- `ipInAny` -/
  ipInAny : AddressTest

namespace Directory

variable (directory : Directory)

def getUser (id : String) : Option UserEntry :=
  directory.users.find? (fun user => user.id = id)

def getUserByUsername (username : String) : Option UserEntry :=
  directory.users.find? (fun user => user.username = username)

def getAccessKey (accessKey : String) : Option AccessKeyEntry :=
  directory.accessKeys.find? (fun entry => entry.accessKey = accessKey)

def getBucketByKey (storageKey : String) : Option BucketEntry :=
  (directory.buckets.find? (fun entry => entry.1 = storageKey)).map Prod.snd

def listBuckets : List BucketEntry :=
  directory.buckets.map Prod.snd

def getBucket (name : String) : Option BucketEntry :=
  match directory.getBucketByKey name with
  | some bucket => some bucket
  | none =>
    match directory.listBuckets.filter (fun bucket =>
        bucket.name = name) with
    | [bucket] => some bucket
    | _ => none

def resolveBucket (scope : BucketScope) (name : String) :
    Option BucketEntry :=
  match directory.scopeIndex scope name with
  | some key => directory.getBucketByKey key
  | none =>
    match scope with
    | .tenant _ => none
    | .owner ownerID =>
      (directory.getBucketByKey name).filter (fun bucket =>
        decide ((bucket.storageKey = "" ∨
          bucket.storageKey = bucket.name) ∧ bucket.ownerID = ownerID))

/-- `IsTenantScoped` -/
def isTenantScoped (tenantID : String) : Bool :=
  decide (tenantID ≠ "" ∧ tenantID ≠ "default")

/-- `resolveBucketOwner`: the id of the owner and their tenant. -/
def resolveBucketOwner (principal : String) : String × String :=
  match directory.getUserByUsername principal with
  | some user => (user.id, user.tenantID)
  | none =>
    match directory.getAccessKey principal with
    | none => ("", "")
    | some entry =>
      if entry.ownerID ≠ "" then
        match directory.getUser entry.ownerID with
        | some user => (entry.ownerID, user.tenantID)
        | none => (entry.ownerID, "")
      else if entry.owner ≠ "" then
        match directory.getUserByUsername entry.owner with
        | some user => (user.id, user.tenantID)
        | none => ("", "")
      else ("", "")

def bucketScopeForPrincipal (principal : String) : BucketScope :=
  let (ownerID, tenantID) := directory.resolveBucketOwner principal
  if isTenantScoped tenantID then .tenant tenantID
  else if ownerID ≠ "" then
    match (directory.tenants ownerID).find? (fun membership =>
        isTenantScoped membership.tenantID) with
    | some membership => .tenant membership.tenantID
    | none => .owner ownerID
  else .owner ownerID

/-- `ResolveBucketKey` -/
def resolveBucketKey (principal name : String) : Option BucketEntry :=
  let byOwnerKey :=
    if principal = directory.ownerKey then
      match directory.getBucketByKey name with
      | some bucket => some bucket
      | none => directory.listBuckets.find? (fun bucket =>
        bucket.name = name)
    else none
  match byOwnerKey with
  | some bucket => some bucket
  | none =>
    let scope := directory.bucketScopeForPrincipal principal
    match directory.resolveBucket scope name with
    | some bucket => some bucket
    | none =>
      let ownerID := (directory.resolveBucketOwner principal).1
      let byOwner :=
        match scope with
        | .owner _ => none
        | .tenant _ =>
          if ownerID ≠ "" then
            directory.resolveBucket (.owner ownerID) name
          else none
      match byOwner with
      | some bucket => some bucket
      | none => directory.getBucket name

/-! ## Identities -/

/-- `MergeTeamIDs` of the team of a user and their other teams. -/
def userTeamIDs (userID : String) : List String :=
  match directory.getUser userID with
  | some user =>
    ((user.teamID :: directory.teams userID).filter (· ≠ "")).eraseDups
  | none => directory.teams userID

/-- `accessKeyIdentity`: role, user id and username. -/
def accessKeyIdentity (entry : AccessKeyEntry) : Role × String × String :=
  if entry.ownerID ≠ "" then
    match directory.getUser entry.ownerID with
    | some user =>
      (user.role, entry.ownerID,
        if entry.owner = "" then user.username else entry.owner)
    | none => (.user, entry.ownerID, entry.owner)
  else if entry.owner ≠ "" then
    match directory.getUserByUsername entry.owner with
    | some user => (user.role, user.id, entry.owner)
    | none => (.user, "", entry.owner)
  else (.user, "", "")

/-- `tenantBucketAccessInput` for the owner of an access key. -/
def accessInput (entry : AccessKeyEntry) (bucket : BucketEntry) :
    AccessInput :=
  let (role, userID, username) := directory.accessKeyIdentity entry
  let key := bucket.effectiveStorageKey
  { role := role
    userID := userID
    username := username
    teamIDs := directory.userTeamIDs userID
    bucketOwnerID := bucket.ownerID
    bucketOwner := bucket.owner
    bucketTeamID := bucket.teamID
    bucketTenantID := bucket.tenantID
    userTenants := if userID = "" then [] else directory.tenants userID
    grants := directory.grants key
    prefixGrants := directory.prefixGrants key
    groupAccess := ((directory.groupAccess userID).find? (fun access =>
      access.1 = key)).map Prod.snd
    tenantHasGroups := decide (0 < directory.tenantGroups bucket.tenantID)
    bucketInTenantGroup :=
      decide (key ∈ directory.tenantGroupKeys bucket.tenantID)
    operatorWriteAll := directory.operatorWriteAll }

end Directory

/-! ## Policies that name a key -/

/-- A statement is given for this very principal. -/
def principalExact (principal : Principal) (want : String) : Bool :=
  match principal with
  | .text value => decide (want ≠ "" ∧ value = want)
  | .object members =>
    -- Struct decoding takes the last member, in any case of its name.
    match (members.reverse.find? (fun member =>
        equalFoldText member.1 "AWS")).map Prod.snd with
    | some (.text value) => decide (want ≠ "" ∧ value = want)
    | some (.items items) =>
      decide (want ≠ "") && items.all (· ≠ .other) &&
        items.any (· = .text want)
    | _ => false
  | _ => false

def policyBindsAccessKey (policy : PolicyText) (accessKey : String) : Bool :=
  match policy with
  | .document statements =>
    decide (accessKey ≠ "") && statements.any (fun statement =>
      principalExact statement.principal accessKey ||
        principalExact statement.principal (accessKeyARN accessKey))
  | _ => false

/-- The resource that a request for a key names; no key is the bucket. -/
def requestResource (bucket key : String) : String :=
  if key ≠ "" then objectARN bucket key else bucketARN bucket

/-- The principals of `policyDenies`. -/
def deniedPrincipals (principal : String) (entry : Option AccessKeyEntry) :
    List String :=
  [principal, accessKeyARN principal] ++
    match entry with
    | some entry =>
      if entry.owner ≠ "" then [entry.owner, userARN entry.owner] else []
    | none => []

/-- A request as far as authorization reads it. -/
structure AccessRequest where
  bucket : String
  key : String
  action : String
  principal : String
  sourceIP : String
  secure : Bool
deriving DecidableEq

/-- The context of a request under these names. -/
def AccessRequest.context
    (request : AccessRequest) (bucket : String) (principals : List String) :
    EvalContext where
  action := request.action
  resource := requestResource bucket request.key
  principals := principals
  sourceIP := request.sourceIP
  secureTransport := request.secure

def policyDenies
    (directory : Directory) (bucket : BucketEntry) (request : AccessRequest)
    (entry : Option AccessKeyEntry) : Bool :=
  Denies directory.ipInAny bucket.policy (request.context bucket.name
      (deniedPrincipals request.principal entry))

def isS3WriteAction (action : String) : Bool :=
  decide (action ∈ ["s3:CreateBucket", "s3:AbortMultipartUpload",
    "s3:CompleteMultipartUpload"]) ||
    startsWith "s3:Put" action || startsWith "s3:Delete" action

/-- The access that the owner of a key has without regard to policies. -/
def grantedByOwner
    (directory : Directory) (entry : AccessKeyEntry) (bucket : BucketEntry)
    (request : AccessRequest) : Bool :=
  let input := directory.accessInput entry bucket
  let write := isS3WriteAction request.action
  resolveBucketAccess input false &&
    (if write || decide (request.key ≠ "") then
      resolveBucketAccess input write && (decide (request.key = "") ||
          resolveObjectKeyAccess input request.key write)
    else true)

/-- `AuthorizeRequest` behind the resolution of the bucket. -/
def authorizeOn
    (directory : Directory) (bucket : BucketEntry) (request : AccessRequest) :
    Bool :=
  match directory.getAccessKey request.principal with
  | some entry =>
    if policyBindsAccessKey bucket.policy entry.accessKey then
      evaluateContext directory.ipInAny bucket.policy
        (request.context request.bucket
          [entry.accessKey, accessKeyARN entry.accessKey])
    else
      grantedByOwner directory entry bucket request &&
        !policyDenies directory bucket request (some entry)
  | none =>
    if bucket.owner = request.principal then
      !policyDenies directory bucket request none
    else
      evaluateContext directory.ipInAny bucket.policy
        (request.context request.bucket
          [request.principal, userARN request.principal,
            accessKeyARN request.principal])

/-- The user owns the bucket or holds a grant for it or a folder of it. -/
def ownsOrGranted
    (directory : Directory) (userID username : String)
    (bucket : BucketEntry) : Bool :=
  decide (userID ≠ "" ∧ bucket.ownerID = userID) ||
    decide (username ≠ "" ∧ bucket.owner = username) ||
    (directory.grants bucket.effectiveStorageKey).any (fun grant =>
      decide (grant.userID = userID) && (grant.canRead || grant.canWrite)) ||
    userHasPrefixGrant (directory.prefixGrants bucket.effectiveStorageKey)
      userID

def allowListAllMyBuckets (directory : Directory) (principal : String) :
    Bool :=
  match directory.getAccessKey principal with
  | none => false
  | some entry =>
    let (role, userID, username) := directory.accessKeyIdentity entry
    role.canSeeAllBuckets || directory.listBuckets.any
        (ownsOrGranted directory userID username) ||
      directory.listBuckets.any (fun bucket =>
        decide (bucket.policy ≠ .empty ∧ bucket.policy ≠ .blank) &&
          ["*", "arn:aws:s3:::*", bucketARN bucket.name].any (fun resource =>
              evaluateContext directory.ipInAny bucket.policy
                { action := "s3:ListAllMyBuckets"
                  resource := resource
                  principals := [entry.accessKey,
                    accessKeyARN entry.accessKey] }))

/-- `AuthorizeRequest` -/
def authorizeRequest
    (directory : Directory) (request : AccessRequest) : Bool :=
  if request.principal = "" then false
  else if request.principal = directory.ownerKey then true
  else if request.bucket = "" then
    allowListAllMyBuckets directory request.principal
  else
    match directory.resolveBucketKey request.principal request.bucket with
    | none => false
    | some bucket => authorizeOn directory bucket request

end DataSafe.S3
