import DataSafe.S3.GrantUnion

/-!
# Signed requests and the access rules

`AuthorizeRequest` asks three questions about an object in a bucket without a
policy: whether the owner of the key may see the bucket, whether they may read
or write in it, and only then whether they may read or write the object.
`ResolveObjectKeyAccess` answers the last question alone.  The two agree
unless one of the first two questions is answered more strictly:

* a prefix grant for writing does not let its user write in the bucket;
* a group that may write in a bucket may be unable to see it;
* where a bucket has no tenant, no grants and no groups of a tenant, the
  first two questions do not consider the groups of the user.
-/

namespace DataSafe.S3

open Base Policy

/-! ## The owner of a key -/

/-- `tenantBucketAccessInput` of the server, for a user who has logged in. -/
def Directory.userInput (directory : Directory) (user : UserEntry)
    (bucket : BucketEntry) : AccessInput :=
  let key := bucket.effectiveStorageKey
  { role := user.role
    userID := user.id
    username := user.username
    teamIDs := directory.userTeamIDs user.id
    bucketOwnerID := bucket.ownerID
    bucketOwner := bucket.owner
    bucketTeamID := bucket.teamID
    bucketTenantID := bucket.tenantID
    userTenants := if user.id = "" then [] else directory.tenants user.id
    grants := directory.grants key
    prefixGrants := directory.prefixGrants key
    groupAccess := ((directory.groupAccess user.id).find? (fun access =>
      access.1 = key)).map Prod.snd
    tenantHasGroups := decide (0 < directory.tenantGroups bucket.tenantID)
    bucketInTenantGroup :=
      decide (key ∈ directory.tenantGroupKeys bucket.tenantID)
    operatorWriteAll := directory.operatorWriteAll }

/-- The record of the key names this user, by their id or by their name. -/
def OwnedBy (directory : Directory) (entry : AccessKeyEntry)
    (user : UserEntry) : Prop :=
  (entry.ownerID ≠ "" ∧ directory.getUser entry.ownerID = some user ∧
      (entry.owner = "" ∨ entry.owner = user.username)) ∨
    (entry.ownerID = "" ∧ entry.owner ≠ "" ∧
      directory.getUserByUsername entry.owner = some user)

variable {directory : Directory} {user : UserEntry} {key : String}
  {write : Bool}

theorem accessKeyIdentity_of_ownedBy
    {entry : AccessKeyEntry} (owned : OwnedBy directory entry user) :
    directory.accessKeyIdentity entry =
      (user.role, user.id, user.username) := by
  rcases owned with ⟨byID, found, name⟩ | ⟨noID, byName, found⟩
  · have same : user.id = entry.ownerID := by
      simpa using List.find?_some found
    rw [Directory.accessKeyIdentity, if_pos byID, found]
    rcases name with empty | named
    · simp [empty, same]
    · by_cases empty : entry.owner = ""
      · simp [empty, same]
      · simp [same, named]
  · have same : user.username = entry.owner := by
      simpa using List.find?_some found
    rw [Directory.accessKeyIdentity, if_neg (not_not.mpr noID),
      if_pos byName, found]
    simp [same]

/-- The key is measured as its owner is. -/
theorem accessInput_eq_userInput
    {entry : AccessKeyEntry}
    (owned : OwnedBy directory entry user) (bucket : BucketEntry) :
    directory.accessInput entry bucket = directory.userInput user bucket := by
  rw [Directory.accessInput, accessKeyIdentity_of_ownedBy owned]
  rfl

/-! ## Where the questions differ -/

/-- The bucket has something that regulates access to it. -/
def AccessInput.Managed (input : AccessInput) : Prop :=
  input.bucketTenantID ≠ "" ∨ input.grants ≠ [] ∨
    input.prefixGrants ≠ [] ∨ input.tenantHasGroups = true

/-- Only a prefix grant lets the user write the key. -/
def WritesByFolder (input : AccessInput) (key : String) : Prop :=
  input.ungranted true = false ∧
    grantAllows input.grants input.userID true = false ∧
    userHasPrefixGrant input.prefixGrants input.userID = true ∧
    prefixGrantAllows input.prefixGrants input.userID key true = true

/-- Only a group that may not read lets the user write. -/
def WritesBlindly (input : AccessInput) : Prop :=
  input.Managed ∧ input.groupAccess = some ⟨false, true⟩ ∧
    input.byRole false = false ∧ input.owns = false ∧
    input.adminsTenant = false ∧
    grantAllows input.grants input.userID false = false ∧
    userHasPrefixGrant input.prefixGrants input.userID = false

/-- Only a group lets the user into a bucket that nothing regulates. -/
def UnmanagedGroup (input : AccessInput) (write : Bool) : Prop :=
  ¬ input.Managed ∧ (∃ access, input.groupAccess = some access ∧
      (if write then access.canWrite else access.canRead) = true) ∧
    input.byRole write = false ∧ input.owns = false ∧ input.inTeam = false

/-- None of the three ways in which the two decisions differ. -/
structure Aligned (input : AccessInput) (key : String) (write : Bool) :
    Prop where
  folder : write = true → ¬ WritesByFolder input key
  blind : write = true → ¬ WritesBlindly input
  unmanaged : ¬ UnmanagedGroup input write

section Decisions

variable {input : AccessInput}

theorem byRole_read_of_write (may : input.byRole true = true) :
    input.byRole false = true := by
  simp only [AccessInput.byRole, canWriteAllBuckets, if_true,
    Bool.or_eq_true, Bool.and_eq_true, decide_eq_true_eq] at may
  simp only [AccessInput.byRole, Role.canSeeAllBuckets,
    Bool.false_eq_true, if_false, decide_eq_true_eq]
  exact may.imp_right And.left

theorem grantAllows_read_of_write {grants : List BucketGrant}
    {userID : String} (may : grantAllows grants userID true = true) :
    grantAllows grants userID false = true := by
  rw [grantAllows_eq] at may ⊢
  cases levels : userLevels grants userID with
  | nil =>
    rw [levels] at may
    cases may
  | cons level rest => exact level.allows_read

/-- Writing without a grant and without reading comes from such a group. -/
theorem blindGroup_iff :
    input.ungranted true = true ∧ input.ungranted false = false ↔
      input.groupAccess = some ⟨false, true⟩ ∧
        input.byRole false = false ∧ input.owns = false ∧
        input.adminsTenant = false := by
  cases seen : input.byRole false with
  | true => simp [AccessInput.ungranted, seen]
  | false =>
  cases owner : input.owns with
  | true => simp [AccessInput.ungranted, owner]
  | false =>
  cases admin : input.adminsTenant with
  | true => simp [AccessInput.ungranted, admin]
  | false =>
    have written : input.byRole true = false := by
      by_contra may
      rw [byRole_read_of_write (by simpa using may)] at seen
      cases seen
    simp only [AccessInput.ungranted, seen, owner, admin, written]
    cases input.groupAccess with
    | some access =>
      obtain ⟨canRead, canWrite⟩ := access
      cases canRead <;> cases canWrite <;> simp
    | none =>
      -- A member who may write may read.
      generalize tenantMemberRole input.userTenants
        input.bucketTenantID = tenantRole
      cases tenantRole <;> simp_all

theorem resolveBucketAccess_of_managed (managed : input.Managed)
    (write : Bool) :
    resolveBucketAccess input write =
      resolveTenantBucketAccess input write := by
  exact if_pos managed

theorem managed_of_userHasPrefixGrant
    (has : userHasPrefixGrant input.prefixGrants input.userID = true) :
    input.Managed :=
  .inr (.inr (.inl (ne_nil_of_userHasPrefixGrant has)))

/-- Whoever may read an object in a regulated bucket may see the bucket. -/
theorem read_of_managed (managed : input.Managed)
    (permitted : resolveObjectKeyAccess input key false = true) :
    resolveBucketAccess input false = true := by
  rw [resolveBucketAccess_of_managed managed, resolveTenantBucketAccess_eq]
  rw [resolveObjectKeyAccess_eq, Bool.or_eq_true] at permitted
  rcases permitted with granted | decided
  · simp [granted]
  · split_ifs at decided with has
    · simp [has]
    · simp [decided]

/-- Whoever may write an object in a regulated bucket, but for two ways. -/
theorem write_of_managed (managed : input.Managed)
    (permitted : resolveObjectKeyAccess input key true = true) :
    resolveBucketAccess input false = true ∧
        resolveBucketAccess input true = true ↔
      ¬ WritesByFolder input key ∧ ¬ WritesBlindly input := by
  rw [resolveBucketAccess_of_managed managed,
    resolveBucketAccess_of_managed managed, resolveTenantBucketAccess_eq,
    resolveTenantBucketAccess_eq, WritesByFolder, WritesBlindly]
  rw [resolveObjectKeyAccess_eq] at permitted
  cases granted : grantAllows input.grants input.userID true with
  | true => simp [grantAllows_read_of_write granted]
  | false =>
  cases has : userHasPrefixGrant input.prefixGrants input.userID with
  | true =>
    have writes : prefixGrantAllows input.prefixGrants input.userID key
        true = true := by
      simpa [granted, has] using permitted
    cases input.ungranted true <;> simp [writes]
  | false =>
    have may : input.ungranted true = true := by
      simpa [granted, has] using permitted
    have blind : input.ungranted false = false ↔
        input.groupAccess = some ⟨false, true⟩ ∧
          input.byRole false = false ∧ input.owns = false ∧
          input.adminsTenant = false := by
      rw [← blindGroup_iff]
      simp [may]
    cases read : grantAllows input.grants input.userID false with
    | true => simp [may]
    | false =>
      simp only [may, managed, and_true, ← blind]
      simp

/-! ### Buckets that nothing regulates -/

section

variable (unmanaged : ¬ input.Managed)

include unmanaged

theorem tenantMemberRole_of_unmanaged :
    tenantMemberRole input.userTenants input.bucketTenantID = none := by
  have noTenant : input.bucketTenantID = "" := by
    by_contra tenant
    exact unmanaged (.inl tenant)
  rw [tenantMemberRole, if_pos noTenant]

/-- There a role, ownership or the team of the bucket decide. -/
theorem resolveBucketAccess_of_unmanaged
    (write : Bool) :
    resolveBucketAccess input write =
      (input.byRole write || input.owns || input.inTeam) := by
  have tenantRole := tenantMemberRole_of_unmanaged unmanaged
  have decided : resolveBucketAccess input write =
      if write then canWriteBucket input else canAccessBucket input :=
    if_neg unmanaged
  rw [decided]
  cases write with
  | false => simp [canAccessBucket, tenantRole, AccessInput.byRole]
  | true =>
    have sameRole : canWriteAllBuckets input.operatorWriteAll input.role =
        input.byRole true := rfl
    simp only [canWriteBucket, canAccessBucket, sameRole]
    cases input.byRole true <;> cases input.owns <;>
      cases input.inTeam <;> simp_all

theorem resolveObjectKeyAccess_of_unmanaged
    (key : String) (write : Bool) :
    resolveObjectKeyAccess input key write =
      (input.byRole write || input.owns ||
        match input.groupAccess with
        | some access => if write then access.canWrite else access.canRead
        | none => input.inTeam) := by
  simp only [AccessInput.Managed, not_or, not_not] at unmanaged
  obtain ⟨noTenant, noGrants, noFolders, noGroups⟩ := unmanaged
  have tenantRole :
      tenantMemberRole input.userTenants input.bucketTenantID = none := by
    rw [tenantMemberRole, if_pos noTenant]
  rw [resolveObjectKeyAccess_eq]
  simp only [grantAllows, userHasPrefixGrant, AccessInput.ungranted,
    AccessInput.adminsTenant, tenantRole, noGrants, noFolders, noGroups]
  cases input.groupAccess <;> simp

theorem access_of_unmanaged
    (permitted : resolveObjectKeyAccess input key write = true) :
    resolveBucketAccess input false = true ∧
        resolveBucketAccess input write = true ↔
      ¬ UnmanagedGroup input write := by
  have roles : input.byRole write = true → input.byRole false = true := by
    cases write
    · exact id
    · exact byRole_read_of_write
  rw [resolveObjectKeyAccess_of_unmanaged unmanaged] at permitted
  rw [resolveBucketAccess_of_unmanaged unmanaged,
    resolveBucketAccess_of_unmanaged unmanaged, UnmanagedGroup]
  cases team : input.inTeam with
  | true => simp
  | false =>
  cases owner : input.owns with
  | true => simp
  | false =>
  cases may : input.byRole write with
  | true => simp [roles may]
  | false =>
    simp only [team, owner, may] at permitted ⊢
    cases access : input.groupAccess with
    | none =>
      rw [access] at permitted
      cases permitted
    | some group =>
      rw [access] at permitted
      simpa [unmanaged] using permitted

end

/-! ### The ways in are ways in -/

theorem permitted_of_writesByFolder
    (folder : WritesByFolder input key) :
    resolveObjectKeyAccess input key true = true := by
  obtain ⟨-, -, has, writes⟩ := folder
  simp [resolveObjectKeyAccess_eq, has, writes]

theorem permitted_of_writesBlindly (blind : WritesBlindly input)
    (key : String) : resolveObjectKeyAccess input key true = true := by
  obtain ⟨-, group, seen, owner, admin, -, has⟩ := blind
  have may := (blindGroup_iff.mpr ⟨group, seen, owner, admin⟩).1
  simp [resolveObjectKeyAccess_eq, has, may]

theorem permitted_of_unmanagedGroup
    (group : UnmanagedGroup input write) (key : String) :
    resolveObjectKeyAccess input key write = true := by
  obtain ⟨unmanaged, ⟨access, found, may⟩, -⟩ := group
  rw [resolveObjectKeyAccess_of_unmanaged unmanaged, found, Bool.or_eq_true]
  exact .inr may

end Decisions

/-! ## The agreement -/

/-- What a signed request for an object is granted by the access rules. -/
def grantedFor (input : AccessInput) (key : String) (write : Bool) : Bool :=
  resolveBucketAccess input false && (resolveBucketAccess input write &&
      resolveObjectKeyAccess input key write)

theorem grantedFor_eq_iff (input : AccessInput) (key : String)
    (write : Bool) :
    grantedFor input key write = resolveObjectKeyAccess input key write ↔
      Aligned input key write := by
  by_cases permitted : resolveObjectKeyAccess input key write = true
  · have both : grantedFor input key write =
          resolveObjectKeyAccess input key write ↔
        resolveBucketAccess input false = true ∧
          resolveBucketAccess input write = true := by
      simp [grantedFor, permitted]
    rw [both]
    by_cases managed : input.Managed
    · have never : ¬ UnmanagedGroup input write := fun group =>
        group.1 managed
      cases write with
      | false =>
        have seen := read_of_managed managed permitted
        simp only [seen, and_self, true_iff]
        exact ⟨by simp, by simp, never⟩
      | true =>
        rw [write_of_managed managed permitted]
        exact ⟨fun ways => ⟨fun _ => ways.1, fun _ => ways.2, never⟩,
          fun aligned => ⟨aligned.folder rfl, aligned.blind rfl⟩⟩
    · rw [access_of_unmanaged managed permitted]
      refine ⟨fun group => ⟨fun _ folder => ?_, fun _ blind => ?_, group⟩,
        fun aligned => aligned.unmanaged⟩
      · exact managed (managed_of_userHasPrefixGrant folder.2.2.1)
      · exact managed blind.1
  · have aligned : Aligned input key write := by
      refine ⟨?_, ?_, fun group =>
        permitted (permitted_of_unmanagedGroup group key)⟩
      · rintro rfl folder
        exact permitted (permitted_of_writesByFolder folder)
      · rintro rfl blind
        exact permitted (permitted_of_writesBlindly blind key)
    simp [grantedFor, permitted, aligned]

/-- The requests for an object, with whether they write. -/
def objectActions : List (String × Bool) :=
  [("s3:GetObject", false), ("s3:PutObject", true),
    ("s3:DeleteObject", true)]

/--
A request for an object of a bucket without a policy, signed with a key that
has an owner and is not the key of the installation.
-/
structure ObjectRequest (directory : Directory) (request : AccessRequest)
    (user : UserEntry) (bucket : BucketEntry) (write : Bool) : Prop where
  signed : request.principal ≠ ""
  notOwner : request.principal ≠ directory.ownerKey
  owned : ∃ entry, directory.getAccessKey request.principal = some entry ∧
    OwnedBy directory entry user
  named : request.bucket ≠ ""
  resolved : directory.resolveBucketKey request.principal request.bucket =
    some bucket
  noPolicy : bucket.policy = .empty
  object : request.key ≠ ""
  action : (request.action, write) ∈ objectActions

theorem authorizeRequest_of_objectRequest
    {request : AccessRequest} {bucket : BucketEntry}
    (asked : ObjectRequest directory request user bucket write) :
    authorizeRequest directory request =
      grantedFor (directory.userInput user bucket) request.key write := by
  obtain ⟨entry, known, owned⟩ := asked.owned
  have writes : isS3WriteAction request.action = write := by
    have action := asked.action
    simp only [objectActions, List.mem_cons, Prod.mk.injEq,
      List.not_mem_nil, or_false] at action
    rcases action with ⟨same, rfl⟩ | ⟨same, rfl⟩ | ⟨same, rfl⟩ <;>
      rw [same] <;> decide
  have undenied : policyDenies directory bucket request (some entry) =
      false := by
    rw [policyDenies, asked.noPolicy]
    rfl
  have unbound : policyBindsAccessKey bucket.policy entry.accessKey =
      false := by
    rw [asked.noPolicy]
    rfl
  rw [authorizeRequest, if_neg asked.signed, if_neg asked.notOwner,
    if_neg asked.named, asked.resolved]
  simp [authorizeOn, known, unbound, undenied, grantedByOwner, grantedFor,
    accessInput_eq_userInput owned, writes, asked.object]

/--
A signed request for an object is decided as the access rules decide it for
the owner of the key, exactly where none of the three differences applies.
-/
theorem authorization_agrees_iff {directory : Directory}
    {request : AccessRequest} {user : UserEntry} {bucket : BucketEntry}
    {write : Bool}
    (asked : ObjectRequest directory request user bucket write) :
    authorizeRequest directory request =
        resolveObjectKeyAccess (directory.userInput user bucket) request.key
          write ↔
      Aligned (directory.userInput user bucket) request.key write := by
  rw [authorizeRequest_of_objectRequest asked, grantedFor_eq_iff]

/-! ### A grant for a folder -/

def folderUser : UserEntry :=
  ⟨"u2", "bob", .user, "", ""⟩

def folderBucket : BucketEntry :=
  ⟨"", "photos", "alice", "u1", "", "", .empty⟩

/-- A bucket of alice, in which bob has this prefix grant. -/
def folderDirectory (grant : PrefixGrant) : Directory where
  ownerKey := "root"
  users := [⟨"u1", "alice", .user, "", ""⟩, folderUser]
  accessKeys := [⟨"AK2", "u2", "bob"⟩]
  buckets := [("photos", folderBucket)]
  scopeIndex := fun _ _ => none
  tenants := fun _ => []
  teams := fun _ => []
  grants := fun _ => []
  prefixGrants := fun _ => [grant]
  groupAccess := fun _ => []
  tenantGroups := fun _ => 0
  tenantGroupKeys := fun _ => []
  operatorWriteAll := false
  ipInAny := fun _ _ => false

/-- A request for a picture of the folder with the key of bob. -/
def folderRequest (action : String) : AccessRequest :=
  ⟨"photos", "cats/tom", action, "AK2", "", true⟩

theorem objectRequest_folder (grant : PrefixGrant) {action : String}
    (known : (action, write) ∈ objectActions) :
    ObjectRequest (folderDirectory grant) (folderRequest action)
      folderUser folderBucket write where
  signed := (by decide : "AK2" ≠ "")
  notOwner := (by decide : "AK2" ≠ "root")
  owned := ⟨⟨"AK2", "u2", "bob"⟩, rfl,
    .inl ⟨(by decide : "u2" ≠ ""), rfl, .inr rfl⟩⟩
  named := (by decide : "photos" ≠ "")
  resolved := rfl
  noPolicy := rfl
  object := (by decide : "cats/tom" ≠ "")
  action := known

/-- With a grant for reading both decisions let bob read. -/
theorem authorization_agrees_reader :
    ObjectRequest (folderDirectory ⟨"u2", "cats", true, false⟩)
        (folderRequest "s3:GetObject") folderUser folderBucket false ∧
      authorizeRequest (folderDirectory ⟨"u2", "cats", true, false⟩)
        (folderRequest "s3:GetObject") = true ∧
      Aligned ((folderDirectory ⟨"u2", "cats", true, false⟩).userInput
        folderUser folderBucket) "cats/tom" false := by
  have asked : ObjectRequest (folderDirectory ⟨"u2", "cats", true, false⟩)
      (folderRequest "s3:GetObject") folderUser folderBucket false :=
    objectRequest_folder _ (by decide)
  refine ⟨asked, by decide +kernel, ?_⟩
  exact (authorization_agrees_iff asked).mp (by decide +kernel)

/-- With a grant for writing the access rules let bob write, and S3 does not. -/
theorem folder_writer_refused :
    ObjectRequest (folderDirectory ⟨"u2", "cats", true, true⟩)
        (folderRequest "s3:PutObject") folderUser folderBucket true ∧
      resolveObjectKeyAccess
        ((folderDirectory ⟨"u2", "cats", true, true⟩).userInput folderUser
          folderBucket) "cats/tom" true = true ∧
      authorizeRequest (folderDirectory ⟨"u2", "cats", true, true⟩)
        (folderRequest "s3:PutObject") = false :=
  ⟨objectRequest_folder _ (by decide), by decide, by decide⟩

end DataSafe.S3
