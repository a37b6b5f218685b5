import DataSafe.S3.Access
import DataSafe.S3.Calls

/-!
# Deletes of many objects

`Handler.deleteObject` deletes one object and `Handler.deleteObjects` a list
of them.  Both check the key, ask for the rights of the caller and hand the
entry to the service.  They ask for different rights: the delete of a version
needs `s3:DeleteObject` and `s3:DeleteObjectVersion` as a request of its own
and `s3:DeleteObjectVersion` alone in a list.

The result compares a list with the requests for its entries in order, entry
by entry and in the objects that are left.
-/

namespace DataSafe.S3

open Base Kms Metadata Policy Storage

/-! ## Requests -/

/-- The part of a delete request that does not depend on the object. -/
structure DeletingCall where
  bucket : String
  principal : String
  sourceIP : String
  secure : Bool
  /-- The query holds `X-Amz-Algorithm`. -/
  presigned : Bool := false
  /-- The header `x-amz-bypass-governance-retention`. -/
  bypass : String := ""

/-- An object that is to be deleted, with a version or without. -/
structure DeleteEntry where
  key : String
  versionID : String := ""
deriving DecidableEq

/-- What a handler makes of one entry. -/
inductive DeleteReply where
  | keyMissing
  | invalidKey (err : KeyErr)
  | presigned
  | accessDenied
  | bypassDenied
  | noSuchBucket
  | served (info : DeleteInfo) (err : Option Err)
deriving DecidableEq

/-- The answer of the service, if the entry gets to it. -/
def DeleteReply.served? : DeleteReply → Option (DeleteInfo × Option Err)
  | .served info err => some (info, err)
  | _ => none

def governanceHeader (call : DeletingCall) : Bool :=
  equalFoldText (trimText call.bypass) "true"

/-- `AuthorizeRequest` for an action on a key. -/
def DeletingCall.authorized (call : DeletingCall) (directory : Directory)
    (key action : String) : Bool :=
  authorizeRequest directory
    ⟨call.bucket, key, action, call.principal, call.sourceIP, call.secure⟩

/-- `governanceBypass`: nothing if the header comes without the right. -/
def governanceBypass (directory : Directory) (call : DeletingCall)
    (key : String) : Option Bool :=
  if governanceHeader call = false then some false
  else if call.authorized directory key "s3:BypassGovernanceRetention" then
    some true
  else none

/-- `DeleteObjectResult`, with the answer as a reply. -/
def deleteObjectResult (env : Env) (world : World) (bucket : String)
    (entry : DeleteEntry) (bypass : Bool) : World × DeleteReply :=
  match deleteObject env world bucket entry.key entry.versionID bypass with
  | (after, info, err) => (after, .served info err)

/-! ## One object -/

/-- `Handler.deleteObject` behind the authentication. -/
def handleDelete (directory : Directory) (call : DeletingCall) (env : Env)
    (world : World) (entry : DeleteEntry) : World × DeleteReply :=
  match validateObjectKey entry.key with
  | .error err => (world, .invalidKey err)
  | .ok () =>
    if call.presigned then (world, .presigned)
    else if call.authorized directory entry.key "s3:DeleteObject" = false
      then (world, .accessDenied)
    else if entry.versionID ≠ "" ∧
        call.authorized directory entry.key "s3:DeleteObjectVersion" =
          false then (world, .accessDenied)
    else
      match governanceBypass directory call entry.key with
      | none => (world, .accessDenied)
      | some bypass =>
        match directory.resolveBucketKey call.principal call.bucket with
        | none => (world, .noSuchBucket)
        | some bucket =>
          deleteObjectResult env world bucket.effectiveStorageKey
            entry bypass

/-! ## A list of objects -/

/-- The right that an entry of a list needs. -/
def entryAction (entry : DeleteEntry) : String :=
  if entry.versionID ≠ "" then "s3:DeleteObjectVersion"
  else "s3:DeleteObject"

/-- The body of the loop of `Handler.deleteObjects`. -/
def deleteEntry (directory : Directory) (call : DeletingCall)
    (storageKey : String) (env : Env) (world : World)
    (entry : DeleteEntry) : World × DeleteReply :=
  if entry.key = "" then (world, .keyMissing)
  else
    match validateObjectKey entry.key with
    | .error err => (world, .invalidKey err)
    | .ok () =>
      if call.authorized directory entry.key (entryAction entry) = false
        then (world, .accessDenied)
      else if governanceHeader call then
        if call.authorized directory entry.key
            "s3:BypassGovernanceRetention" = false then
          (world, .bypassDenied)
        else deleteObjectResult env world storageKey entry true
      else deleteObjectResult env world storageKey entry false

/-- Handle some entries in order, each in its own surroundings. -/
def inOrder
    (handle : Env → World → DeleteEntry → World × DeleteReply) :
    World → List (Env × DeleteEntry) → World × List DeleteReply
  | world, [] => (world, [])
  | world, (env, entry) :: rest =>
    let (next, reply) := handle env world entry
    let (last, replies) := inOrder handle next rest
    (last, reply :: replies)

/-- The errors for the request as a whole. -/
inductive DeleteObjectsErr where
  | presigned
  | noSuchBucket
  | malformedXML
  | badDigest
  | missingChecksum
  | tooManyKeys
deriving DecidableEq

def deleteObjectsMaxKeys : Nat := 1000

/-- `Handler.deleteObjects` behind the authentication, for a decoded body. -/
def deleteObjects (directory : Directory) (call : DeletingCall)
    (world : World)
    (body : Except DeleteObjectsErr (List (Env × DeleteEntry))) :
    World × Except DeleteObjectsErr (List DeleteReply) :=
  if call.presigned then (world, .error .presigned)
  else
    match directory.resolveBucketKey call.principal call.bucket with
    | none => (world, .error .noSuchBucket)
    | some bucket =>
      match body with
      | .error err => (world, .error err)
      | .ok entries =>
        if deleteObjectsMaxKeys < entries.length then
          (world, .error .tooManyKeys)
        else
          let (after, replies) :=
            inOrder (deleteEntry directory call
              bucket.effectiveStorageKey) world entries
          (after, .ok replies)

/-! ## Rights -/

/-- The entry passes every check of a handler that asks for these rights. -/
def entryAllowed (directory : Directory) (call : DeletingCall)
    (actions : List String) (entry : DeleteEntry) : Prop :=
  validateObjectKey entry.key = .ok () ∧ (∀ action ∈ actions,
      call.authorized directory entry.key action = true) ∧
    (governanceHeader call = true → call.authorized directory entry.key
        "s3:BypassGovernanceRetention" = true)

/-- The rights for a request of its own. -/
def singleActions (entry : DeleteEntry) : List String :=
  if entry.versionID = "" then ["s3:DeleteObject"]
  else ["s3:DeleteObject", "s3:DeleteObjectVersion"]

/-- A version that the caller may delete without the right for the object. -/
structure VersionOnly (directory : Directory) (call : DeletingCall)
    (entry : DeleteEntry) : Prop where
  versioned : entry.versionID ≠ ""
  allowed : entryAllowed directory call ["s3:DeleteObjectVersion"] entry
  denied : call.authorized directory entry.key "s3:DeleteObject" = false

section Rights

variable {directory : Directory} {call : DeletingCall} {entry : DeleteEntry}

theorem governanceBypass_eq_some_iff {key : String} {bypass : Bool} :
    governanceBypass directory call key = some bypass ↔
      (governanceHeader call = true →
        call.authorized directory key "s3:BypassGovernanceRetention" =
          true) ∧ bypass = governanceHeader call := by
  unfold governanceBypass
  cases governanceHeader call with
  | false => cases bypass <;> simp
  | true =>
    cases call.authorized directory key "s3:BypassGovernanceRetention" with
    | false => simp
    | true => cases bypass <;> simp

theorem singleActions_authorized_iff {key : String} :
    (∀ action ∈ singleActions entry,
        call.authorized directory key action = true) ↔
      call.authorized directory key "s3:DeleteObject" = true ∧
        (entry.versionID ≠ "" →
          call.authorized directory key "s3:DeleteObjectVersion" =
            true) := by
  unfold singleActions
  split <;> rename_i versionID <;> simp [versionID]

/-- The two lists of rights differ for a version of its own. -/
theorem allowed_alike_iff :
    (entryAllowed directory call [entryAction entry] entry ↔
        entryAllowed directory call (singleActions entry) entry) ↔
      ¬ VersionOnly directory call entry := by
  by_cases versionID : entry.versionID = ""
  · rw [entryAction, singleActions, if_neg (not_not.mpr versionID),
      if_pos versionID]
    exact iff_of_true Iff.rfl (fun only => only.versioned versionID)
  · rw [entryAction, singleActions, if_pos versionID, if_neg versionID]
    constructor
    · rintro alike ⟨-, allowed, denied⟩
      have both := (alike.mp allowed).2.1 "s3:DeleteObject" (by simp)
      rw [denied] at both
      cases both
    · intro apart
      constructor
      · intro allowed
        obtain ⟨valid, rights, bypass⟩ := allowed
        refine ⟨valid, fun action asked => ?_, bypass⟩
        rcases List.mem_cons.mp asked with rfl | version
        · by_contra denied
          exact apart ⟨versionID, ⟨valid, rights, bypass⟩, by
            simpa using denied⟩
        · exact rights action version
      · rintro ⟨valid, rights, bypass⟩
        exact ⟨valid, fun action asked =>
          rights action (List.mem_cons_of_mem _ asked), bypass⟩

end Rights

/-! ## What the handlers do -/

variable {bucket : BucketEntry}

section Handlers

variable {directory : Directory} {call : DeletingCall} {env : Env}
  {world : World} {entry : DeleteEntry}

/-- A reply that leaves the world alone and does not reach the service. -/
def Refuses (world : World) (answer : World × DeleteReply) : Prop :=
  answer.1 = world ∧ answer.2.served? = none

theorem handleDelete_allowed
    (signed : call.presigned = false)
    (resolved : directory.resolveBucketKey call.principal call.bucket =
      some bucket)
    (allowed : entryAllowed directory call (singleActions entry) entry) :
    handleDelete directory call env world entry =
      deleteObjectResult env world bucket.effectiveStorageKey entry
        (governanceHeader call) := by
  obtain ⟨valid, rights, bypass⟩ := allowed
  obtain ⟨object, version⟩ := singleActions_authorized_iff.mp rights
  have asked : ¬(entry.versionID ≠ "" ∧
      call.authorized directory entry.key "s3:DeleteObjectVersion" =
        false) := by
    rintro ⟨versioned, denied⟩
    rw [version versioned] at denied
    cases denied
  simp only [handleDelete, valid, signed, object,
    governanceBypass_eq_some_iff.mpr ⟨bypass, rfl⟩, resolved]
  simp [asked]

theorem handleDelete_refused (env : Env) (world : World)
    (refused : call.presigned = true ∨
      directory.resolveBucketKey call.principal call.bucket = none ∨
      ¬ entryAllowed directory call (singleActions entry) entry) :
    Refuses world (handleDelete directory call env world entry) := by
  unfold handleDelete
  split
  · exact ⟨rfl, rfl⟩
  · rename_i valid
    split
    · exact ⟨rfl, rfl⟩
    · split
      · exact ⟨rfl, rfl⟩
      · split
        · exact ⟨rfl, rfl⟩
        · split
          · exact ⟨rfl, rfl⟩
          · split
            · exact ⟨rfl, rfl⟩
            · rename_i presigned object version _ _ bypass _ _ resolved
              rcases refused with signed | missing | barred
              · exact absurd signed presigned
              · rw [missing] at resolved
                cases resolved
              · refine absurd ⟨valid, singleActions_authorized_iff.mpr
                  ⟨by simpa using object, fun versioned => ?_⟩,
                  (governanceBypass_eq_some_iff.mp bypass).1⟩ barred
                simpa [versioned] using version

theorem deleteEntry_allowed {storageKey : String}
    (allowed : entryAllowed directory call [entryAction entry] entry) :
    deleteEntry directory call storageKey env world entry =
      deleteObjectResult env world storageKey entry
        (governanceHeader call) := by
  obtain ⟨valid, rights, bypass⟩ := allowed
  have named : entry.key ≠ "" := by
    intro missing
    rw [missing] at valid
    cases valid
  have action : call.authorized directory entry.key (entryAction entry) =
      true :=
    rights _ List.mem_cons_self
  unfold deleteEntry
  rw [if_neg named]
  simp only [valid, action]
  cases header : governanceHeader call with
  | false => simp
  | true => simp [bypass header]

theorem deleteEntry_refused (storageKey : String) (env : Env) (world : World)
    (refused : ¬ entryAllowed directory call [entryAction entry] entry) :
    Refuses world
      (deleteEntry directory call storageKey env world entry) := by
  unfold deleteEntry
  split
  · exact ⟨rfl, rfl⟩
  · split
    · exact ⟨rfl, rfl⟩
    · rename_i valid
      split
      · exact ⟨rfl, rfl⟩
      · rename_i action
        have rights : ∀ right ∈ [entryAction entry],
            call.authorized directory entry.key right = true := by
          simpa using action
        split
        · split
          · exact ⟨rfl, rfl⟩
          · rename_i bypass
            exact absurd ⟨valid, rights, fun _ => by simpa using bypass⟩
              refused
        · rename_i header
          exact absurd ⟨valid, rights, fun given => absurd given header⟩
            refused

theorem deleteObjectResult_served (env : Env) (world : World)
    (bucket : String) (entry : DeleteEntry) (bypass : Bool) :
    (deleteObjectResult env world bucket entry bypass).2.served? ≠ none := by
  unfold deleteObjectResult
  simp [DeleteReply.served?]

theorem handleDelete_served_iff
    (signed : call.presigned = false)
    (resolved : directory.resolveBucketKey call.principal call.bucket =
      some bucket) :
    (handleDelete directory call env world entry).2.served? ≠ none ↔
      entryAllowed directory call (singleActions entry) entry := by
  constructor
  · intro served
    by_contra refused
    exact served (handleDelete_refused env world (.inr (.inr refused))).2
  · intro allowed
    rw [handleDelete_allowed signed resolved allowed]
    exact deleteObjectResult_served _ _ _ _ _

theorem deleteEntry_served_iff {storageKey : String} :
    (deleteEntry directory call storageKey env world entry).2.served? ≠
        none ↔
      entryAllowed directory call [entryAction entry] entry := by
  constructor
  · intro served
    by_contra refused
    exact served (deleteEntry_refused storageKey env world refused).2
  · intro allowed
    rw [deleteEntry_allowed allowed]
    exact deleteObjectResult_served _ _ _ _ _

/-- Where the rights agree, both handlers do the same. -/
theorem deleteEntry_alike
    (signed : call.presigned = false)
    (resolved : directory.resolveBucketKey call.principal call.bucket = some
      bucket) (agree : ¬ VersionOnly directory call entry) :
    (deleteEntry directory call bucket.effectiveStorageKey env world
        entry).1 = (handleDelete directory call env world entry).1 ∧
      (deleteEntry directory call bucket.effectiveStorageKey env world
          entry).2.served? =
        (handleDelete directory call env world entry).2.served? := by
  have rights := allowed_alike_iff.mpr agree
  by_cases allowed :
      entryAllowed directory call (singleActions entry) entry
  · rw [handleDelete_allowed signed resolved allowed,
      deleteEntry_allowed (rights.mpr allowed)]
    exact ⟨rfl, rfl⟩
  · obtain ⟨singleWorld, single⟩ :=
      handleDelete_refused env world (.inr (.inr allowed))
    obtain ⟨listWorld, list⟩ :=
      deleteEntry_refused bucket.effectiveStorageKey env world
        (fun listed => allowed (rights.mp listed))
    exact ⟨listWorld.trans singleWorld.symm, list.trans single.symm⟩

end Handlers

/-! ## Whole lists -/

section Lists

variable {first second : Env → World → DeleteEntry → World × DeleteReply}

/-- Handlers that do the same with every entry do the same with the list. -/
theorem inOrder_alike {entries : List (Env × DeleteEntry)}
    (alike : ∀ pair ∈ entries, ∀ world, (first pair.1 world pair.2).1 =
      (second pair.1 world pair.2).1 ∧ (first pair.1 world pair.2).2.served? =
      (second pair.1 world pair.2).2.served?) (world : World) :
    (inOrder first world entries).1 = (inOrder second world entries).1 ∧
      (inOrder first world entries).2.map DeleteReply.served? =
        (inOrder second world entries).2.map DeleteReply.served? := by
  induction entries generalizing world with
  | nil => exact ⟨rfl, rfl⟩
  | cons pair rest induction =>
    obtain ⟨env, entry⟩ := pair
    obtain ⟨world_eq, served_eq⟩ := alike (env, entry)
      List.mem_cons_self world
    obtain ⟨last, replies⟩ := induction
      (fun pair later => alike pair (List.mem_cons_of_mem _ later))
      (first env world entry).1
    simp only [inOrder, List.map_cons]
    rw [← world_eq, ← last, ← replies, served_eq]
    exact ⟨rfl, rfl⟩

/-- Equal outcomes mean that the same entries got to the service. -/
theorem served_alike {entries : List (Env × DeleteEntry)}
    {firstWorld secondWorld : World}
    (same : (inOrder first firstWorld entries).2.map DeleteReply.served? =
      (inOrder second secondWorld entries).2.map DeleteReply.served?) :
    ∀ pair ∈ entries, ∃ left right, (first pair.1 left pair.2).2.served? =
        (second pair.1 right pair.2).2.served? := by
  induction entries generalizing firstWorld secondWorld with
  | nil => simp
  | cons pair rest induction =>
    simp only [inOrder, List.map_cons, List.cons.injEq] at same
    intro other listed
    rcases List.mem_cons.mp listed with rfl | later
    · exact ⟨firstWorld, secondWorld, same.1⟩
    · exact induction same.2 other later

/-- A handler that turns every entry away. -/
def refuseAll (_ : Env) (world : World) (_ : DeleteEntry) :
    World × DeleteReply :=
  (world, .accessDenied)

theorem inOrder_refuseAll (world : World)
    (entries : List (Env × DeleteEntry)) :
    inOrder refuseAll world entries =
      (world, entries.map (fun _ => .accessDenied)) := by
  induction entries with
  | nil => rfl
  | cons pair rest induction => simp [inOrder, refuseAll, induction]

end Lists

/-! ## Agreement -/

/-- What became of each entry of a list. -/
def entryOutcomes (entries : List (Env × DeleteEntry)) :
    Except DeleteObjectsErr (List DeleteReply) →
      List (Option (DeleteInfo × Option Err))
  | .error _ => entries.map (fun _ => none)
  | .ok replies => replies.map DeleteReply.served?

/-- A list does what the requests for its entries do in order. -/
structure DeletesAlike (directory : Directory) (call : DeletingCall)
    (world : World) (entries : List (Env × DeleteEntry)) : Prop where
  outcomes :
    entryOutcomes entries
        (deleteObjects directory call world (.ok entries)).2 =
      (inOrder (handleDelete directory call) world entries).2.map
        DeleteReply.served?
  world :
    (deleteObjects directory call world (.ok entries)).1 =
      (inOrder (handleDelete directory call) world entries).1

/-- No entry is allowed in a list and refused alone, or the other way. -/
def RightsAgree (directory : Directory) (call : DeletingCall)
    (entries : List (Env × DeleteEntry)) : Prop :=
  call.presigned = true ∨
    directory.resolveBucketKey call.principal call.bucket = none ∨
    if entries.length ≤ deleteObjectsMaxKeys then
      ∀ pair ∈ entries, ¬ VersionOnly directory call pair.2
    else
      ∀ pair ∈ entries,
        ¬ entryAllowed directory call (singleActions pair.2) pair.2

section Agreement

variable {directory : Directory} {call : DeletingCall}
  {entries : List (Env × DeleteEntry)}

/-- The whole list as one handler for its entries. -/
def listHandler (directory : Directory) (call : DeletingCall)
    (count : Nat) : Env → World → DeleteEntry → World × DeleteReply :=
  if call.presigned = true ∨ deleteObjectsMaxKeys < count then refuseAll
  else
    match directory.resolveBucketKey call.principal call.bucket with
    | none => refuseAll
    | some bucket => deleteEntry directory call bucket.effectiveStorageKey

theorem deleteObjects_eq (directory : Directory) (call : DeletingCall)
    (world : World) (entries : List (Env × DeleteEntry)) :
    (deleteObjects directory call world (.ok entries)).1 =
        (inOrder (listHandler directory call entries.length) world
          entries).1 ∧
      entryOutcomes entries
          (deleteObjects directory call world (.ok entries)).2 =
        (inOrder (listHandler directory call entries.length) world
          entries).2.map DeleteReply.served? := by
  have refused : ∀ err,
      (world : World) = (inOrder refuseAll world entries).1 ∧
        entryOutcomes entries (.error err) =
          (inOrder refuseAll world entries).2.map DeleteReply.served? := by
    intro err
    rw [inOrder_refuseAll]
    simp [entryOutcomes, DeleteReply.served?]
  unfold deleteObjects listHandler
  by_cases presigned : call.presigned = true
  · rw [if_pos presigned, if_pos (.inl presigned)]
    exact refused _
  · rw [if_neg presigned]
    cases resolved : directory.resolveBucketKey call.principal
        call.bucket with
    | none => simpa using refused .noSuchBucket
    | some bucket =>
      dsimp only
      by_cases many : deleteObjectsMaxKeys < entries.length
      · rw [if_pos many, if_pos (.inr many)]
        exact refused _
      · rw [if_neg many, if_neg (by simp [presigned, many])]
        exact ⟨rfl, rfl⟩

theorem deletesAlike_iff (world : World) :
    DeletesAlike directory call world entries ↔
      (inOrder (listHandler directory call entries.length) world entries).1 =
        (inOrder (handleDelete directory call) world entries).1 ∧
      (inOrder (listHandler directory call entries.length) world
          entries).2.map DeleteReply.served? =
        (inOrder (handleDelete directory call) world entries).2.map
          DeleteReply.served? := by
  obtain ⟨after, outcomes⟩ := deleteObjects_eq directory call world entries
  rw [← after, ← outcomes]
  exact ⟨fun alike => ⟨alike.world, alike.outcomes⟩,
    fun both => ⟨both.2, both.1⟩⟩

/-- A list that is refused does what refused requests do. -/
theorem refusals_alike
    (refused : ∀ pair ∈ entries, ∀ world, Refuses world (handleDelete
      directory call pair.1 world pair.2)) (world : World) :
    (inOrder refuseAll world entries).1 =
        (inOrder (handleDelete directory call) world entries).1 ∧
      (inOrder refuseAll world entries).2.map DeleteReply.served? =
        (inOrder (handleDelete directory call) world entries).2.map
          DeleteReply.served? := by
  apply inOrder_alike
  intro pair listed world
  obtain ⟨same, unserved⟩ := refused pair listed world
  exact ⟨same.symm, unserved.symm⟩

/--
A list of deletes does, entry by entry and in the objects that are left, what
the requests for its entries do in order exactly if no entry names a version
that the caller may delete as a version and not as an object.  Lists over the
limit are refused as a whole, and agree with requests that are all refused.
-/
theorem multi_delete_agrees_iff (directory : Directory) (call : DeletingCall)
    (world : World) (entries : List (Env × DeleteEntry)) :
    DeletesAlike directory call world entries ↔
      RightsAgree directory call entries := by
  rw [deletesAlike_iff, RightsAgree]
  cases presigned : call.presigned with
  | true =>
    have refuses : listHandler directory call entries.length =
        refuseAll := by
      simp [listHandler, presigned]
    rw [refuses]
    exact iff_of_true (refusals_alike (fun pair _ world =>
      handleDelete_refused pair.1 world (.inl presigned)) world) (.inl rfl)
  | false =>
    cases resolved : directory.resolveBucketKey call.principal
        call.bucket with
    | none =>
      have refuses : listHandler directory call entries.length =
          refuseAll := by
        simp [listHandler, resolved]
      rw [refuses]
      exact iff_of_true (refusals_alike (fun pair _ world =>
        handleDelete_refused pair.1 world (.inr (.inl resolved))) world)
        (.inr (.inl rfl))
    | some bucket =>
      by_cases few : entries.length ≤ deleteObjectsMaxKeys
      · have handler : listHandler directory call entries.length =
            deleteEntry directory call bucket.effectiveStorageKey := by
          simp [listHandler, presigned, resolved, few]
        simp only [handler, few, reduceCtorEq, false_or]
        constructor
        · intro same pair listed
          obtain ⟨left, right, served⟩ :=
            served_alike same.2 pair listed
          rw [← allowed_alike_iff, ← deleteEntry_served_iff,
            ← handleDelete_served_iff presigned resolved, served]
        · intro agree
          exact inOrder_alike (fun pair listed _ =>
            deleteEntry_alike presigned resolved (agree pair listed)) world
      · have handler : listHandler directory call entries.length =
            refuseAll := by
          simp [listHandler, not_le.mp few]
        simp only [handler, few, reduceCtorEq, false_or]
        constructor
        · intro same pair listed
          obtain ⟨left, right, served⟩ :=
            served_alike same.2 pair listed
          rw [← handleDelete_served_iff presigned resolved, ← served]
          simp [refuseAll, DeleteReply.served?]
        · intro refused
          exact refusals_alike (fun pair listed world =>
            handleDelete_refused pair.1 world
              (.inr (.inr (refused pair listed)))) world

end Agreement

/-! ### A version that only a list deletes -/

/-- The user bob may not delete objects; nothing is said about versions. -/
def denyObjectDelete : Statement where
  effect := "Deny"
  principal := .text "arn:aws:iam::datasafe:user/bob"
  action := ["s3:DeleteObject"]
  resource := ["*"]

def keptBucket : BucketEntry where
  storageKey := "b"
  name := "b"
  owner := "bob"
  ownerID := "u1"
  teamID := ""
  tenantID := ""
  policy := .document [denyObjectDelete]

/-- A directory with the bucket of bob and their key. -/
def keptDirectory : Directory where
  ownerKey := "root"
  users := [⟨"u1", "bob", .user, "", ""⟩]
  accessKeys := [⟨"AK1", "u1", "bob"⟩]
  buckets := [("b", keptBucket)]
  scopeIndex := fun _ _ => none
  tenants := fun _ => []
  teams := fun _ => []
  grants := fun _ => []
  prefixGrants := fun _ => []
  groupAccess := fun _ => []
  tenantGroups := fun _ => 0
  tenantGroupKeys := fun _ => []
  operatorWriteAll := false
  ipInAny := fun _ _ => false

def keptCall : DeletingCall where
  bucket := "b"
  principal := "AK1"
  sourceIP := ""
  secure := true

/-- A bucket with one version of one object. -/
def keptWorld : World := run plainConfig versionedCalls

/-- The list deletes the version that the request for it may not delete. -/
theorem version_deleted_by_list :
    (keptWorld.store.objects.get ⟨"b", "k", "03"⟩).isSome = true ∧
      (handleDelete keptDirectory keptCall (callEnv 4) keptWorld
        ⟨"k", "03"⟩).2 = .accessDenied ∧
      (handleDelete keptDirectory keptCall (callEnv 4) keptWorld
        ⟨"k", "03"⟩).1.store.objects.get ⟨"b", "k", "03"⟩ =
          keptWorld.store.objects.get ⟨"b", "k", "03"⟩ ∧
      (deleteObjects keptDirectory keptCall keptWorld
        (.ok [(callEnv 4, ⟨"k", "03"⟩)])).1.store.objects.get
          ⟨"b", "k", "03"⟩ = none := by
  decide +kernel

end DataSafe.S3
