import DataSafe.S3.Access

/-!
# Explicit denials

A denial of a bucket policy is to win for every identity of the caller: the
access key, its resource name, the username of its owner and the resource
name of that user.  Which of these are evaluated depends on the branch.  A
policy that names the key is evaluated for the key alone, and otherwise the
owner is evaluated only if the record of the key holds their username.
-/

namespace DataSafe.S3

open Base Policy

/-- The identities of the caller of a request. -/
def callerIdentities (directory : Directory) (request : AccessRequest) :
    List String :=
  [request.principal, accessKeyARN request.principal] ++
    match directory.getAccessKey request.principal with
    | some entry =>
      let username := (directory.accessKeyIdentity entry).2.2
      if username ≠ "" then [username, userARN username] else []
    | none => []

/-- The identities that are evaluated under a policy of one kind. -/
def evaluatedIdentities
    (directory : Directory) (request : AccessRequest) (binds : Bool) :
    List String :=
  if binds then [request.principal, accessKeyARN request.principal]
  else
    deniedPrincipals request.principal
      (directory.getAccessKey request.principal)

/-- The request is granted as far as no denial stands against it. -/
def grantedUnder
    (directory : Directory) (bucket : BucketEntry) (request : AccessRequest)
    (binds : Bool) : Bool :=
  match directory.getAccessKey request.principal with
  | some entry =>
    decide (request.principal ≠ "") &&
      (binds || grantedByOwner directory entry bucket request)
  | none => true

variable {directory : Directory} {bucket : BucketEntry}
  {request : AccessRequest} {ctx : EvalContext} {token : String}

theorem accessKey_of_getAccessKey
    {accessKey : String} {entry : AccessKeyEntry}
    (known : directory.getAccessKey accessKey = some entry) :
    entry.accessKey = accessKey := by
  simpa using List.find?_some known

/-- The context under which a denial stands against the caller. -/
def denialContext
    (directory : Directory) (bucket : BucketEntry) (request : AccessRequest) :
    EvalContext :=
  request.context bucket.name (callerIdentities directory request)

theorem denies_of_covered
    {principals : List String}
    (covered : Covered (callerIdentities directory request) principals)
    (denied : DenyMatches directory.ipInAny bucket.policy
      (denialContext directory bucket request)) :
    Denies directory.ipInAny bucket.policy
      (request.context bucket.name principals) = true :=
  denied.denies rfl rfl rfl rfl rfl rfl covered

/-- A caller without a record has no identities but the key itself. -/
theorem covered_of_unknown
    (unknown : directory.getAccessKey request.principal = none)
    {principals : List String} (key : request.principal ∈ principals)
    (arn : accessKeyARN request.principal ∈ principals) :
    Covered (callerIdentities directory request) principals := by
  apply covered_of_subset
  intro identity member
  rw [callerIdentities, unknown] at member
  rcases List.mem_cons.mp member with rfl | member
  · exact key
  · rwa [List.mem_singleton.mp member]

/-- A denial wins where the evaluated identities cover the caller. -/
theorem authorizeOn_of_covered
    (named : request.bucket = bucket.name) {binds : Bool}
    (kind : policyBindsAccessKey bucket.policy request.principal = binds)
    (covered : grantedUnder directory bucket request binds = true → Covered
      (callerIdentities directory request) (evaluatedIdentities directory
      request binds)) (nonempty : request.principal ≠ "")
    (denied : DenyMatches directory.ipInAny bucket.policy (denialContext
      directory bucket request)) :
    authorizeOn directory bucket request = false := by
  unfold authorizeOn
  cases known : directory.getAccessKey request.principal with
  | some entry =>
    have key := accessKey_of_getAccessKey known
    dsimp only
    rw [key, kind, named]
    unfold grantedUnder evaluatedIdentities at covered
    rw [known] at covered
    simp only [nonempty, ne_eq, not_false_eq_true, decide_true,
      Bool.true_and, Bool.or_eq_true] at covered
    cases binds with
    | true =>
      exact evaluateContext_of_denies _
        (denies_of_covered (covered (.inl rfl)) denied)
    | false =>
      rw [if_neg Bool.false_ne_true]
      by_cases granted :
          grantedByOwner directory entry bucket request = true
      · have found := denies_of_covered (covered (.inr granted)) denied
        rw [if_neg Bool.false_ne_true] at found
        rw [policyDenies, found, Bool.not_true, Bool.and_false]
      · rw [Bool.eq_false_iff.mpr granted, Bool.false_and]
  | none =>
    split_ifs
    · have found : policyDenies directory bucket request none = true :=
        denies_of_covered (covered_of_unknown known List.mem_cons_self
          (.tail _ List.mem_cons_self)) denied
      rw [found, Bool.not_true]
    · rw [named]
      exact evaluateContext_of_denies _
        (denies_of_covered (covered_of_unknown known List.mem_cons_self
          (.tail _ (.tail _ List.mem_cons_self))) denied)

/-! ## Policies against an identity that is not evaluated -/

/-- A denial of everything to one token, which names no key exactly. -/
def denyToken (token : String) : Statement where
  effect := "Deny"
  principal := .object [("AWS", .items [.text token, .other])]
  action := ["*"]
  resource := ["*"]

/-- A grant of everything to all, which names one key exactly. -/
def allowKey (accessKey : String) : Statement where
  effect := "Allow"
  principal := .object [("AWS", .items [.text accessKey, .text "*"])]
  action := ["*"]
  resource := ["*"]

/-- The policy of one kind that denies a token everything. -/
def tokenPolicy (binds : Bool) (accessKey token : String) : PolicyText :=
  .document (if binds then [allowKey accessKey, denyToken token]
    else [denyToken token])

theorem principalExact_denyToken (token want : String) :
    principalExact (denyToken token).principal want = false := by
  have fold : equalFoldText "AWS" "AWS" = true := by decide
  simp [denyToken, principalExact, fold]

theorem policyBindsAccessKey_tokenPolicy
    {accessKey : String} (nonempty : accessKey ≠ "") (binds : Bool)
    (token : String) :
    policyBindsAccessKey (tokenPolicy binds accessKey token) accessKey =
      binds := by
  have fold : equalFoldText "AWS" "AWS" = true := by decide
  cases binds with
  | true =>
    simp [policyBindsAccessKey, tokenPolicy, nonempty, allowKey,
      principalExact, fold]
  | false =>
    simp [policyBindsAccessKey, tokenPolicy, principalExact_denyToken]

theorem statementMatches_denyToken
    (ipInAny : AddressTest) (known : ctx.anonymous = false) (token : String) :
    statementMatches ipInAny (denyToken token) ctx =
      namesOne ctx.principals token := by
  simp [statementMatches, denyToken, principalMatches, memberNamed,
    actionMatches, resourceListMatches, resourceMatches, conditionMatches,
    principalTokenMatches_eq known]

theorem denies_denyToken (token : String) :
    (denyToken token).denies = true := by
  change equalFoldText "Deny" "Deny" = true
  decide

theorem statementMatches_allowKey
    (ipInAny : AddressTest)
    (known : ctx.anonymous = false) (accessKey : String) :
    statementMatches ipInAny (allowKey accessKey) ctx = true := by
  have all : namesOne ctx.principals "*" = true := by
    have star : trimText "*" = "*" := by decide
    simp [namesOne, star]
  simp [statementMatches, allowKey, principalMatches, memberNamed,
    actionMatches, resourceListMatches, resourceMatches, conditionMatches,
    principalTokenMatches_eq known, all]

/-- The denial of a token that names the caller matches. -/
theorem denyMatches_tokenPolicy
    (ipInAny : AddressTest) (known : ctx.anonymous = false)
    (names : namesOne ctx.principals token = true) (binds : Bool)
    (accessKey : String) :
    DenyMatches ipInAny (tokenPolicy binds accessKey token) ctx := by
  refine ⟨_, rfl, denyToken token, ?_, denies_denyToken token, ?_⟩
  · cases binds <;> simp
  · rw [statementMatches_denyToken ipInAny known, names]

/-- A policy that names the key grants what it does not deny. -/
theorem evaluateContext_tokenPolicy
    (ipInAny : AddressTest) (known : ctx.anonymous = false)
    (missed : namesOne ctx.principals token = false) (accessKey : String) :
    evaluateContext ipInAny (tokenPolicy true accessKey token) ctx = true := by
  have allows : (allowKey accessKey).denies = false ∧
      (allowKey accessKey).allows = true := by
    change equalFoldText "Allow" "Deny" = false ∧
      equalFoldText "Allow" "Allow" = true
    decide
  rw [tokenPolicy, evaluateContext_document_iff]
  refine ⟨?_, allowKey accessKey, List.mem_cons_self,
    statementMatches_allowKey ipInAny known accessKey, allows.2⟩
  intro statement member found
  rcases List.mem_cons.mp member with rfl | member
  · exact allows.1
  · rw [List.mem_singleton.mp member,
      statementMatches_denyToken ipInAny known, missed] at found
    cases found

theorem denies_tokenPolicy
    (ipInAny : AddressTest) (known : ctx.anonymous = false)
    (missed : namesOne ctx.principals token = false) (accessKey : String) :
    Denies ipInAny (tokenPolicy false accessKey token) ctx = false := by
  simp [Denies, tokenPolicy, statementMatches_denyToken ipInAny known,
    missed]

/-- A denial of a token that names no evaluated identity is not seen. -/
theorem authorizeOn_tokenPolicy
    {entry : AccessKeyEntry}
    (known : directory.getAccessKey request.principal = some entry)
    {binds : Bool}
    (granted : grantedUnder directory bucket request binds = true)
    (missed : namesOne (evaluatedIdentities directory request binds) token =
      false) :
    authorizeOn directory
      { bucket with policy := tokenPolicy binds request.principal token }
      request = true := by
  have key := accessKey_of_getAccessKey known
  rw [grantedUnder, known] at granted
  simp only [Bool.and_eq_true, decide_eq_true_eq, Bool.or_eq_true] at granted
  have kind := policyBindsAccessKey_tokenPolicy granted.1 binds token
  unfold authorizeOn
  rw [known]
  dsimp only
  rw [key, kind]
  cases binds with
  | true =>
    rw [if_pos rfl]
    have signedIn : (request.context request.bucket
        [request.principal, accessKeyARN request.principal]).anonymous =
          false := rfl
    exact evaluateContext_tokenPolicy directory.ipInAny signedIn missed _
  | false =>
    rw [evaluatedIdentities, known] at missed
    have granting : grantedByOwner directory entry bucket request = true :=
      granted.2.resolve_left Bool.false_ne_true
    have sameInput : grantedByOwner directory entry
        { bucket with
          policy := tokenPolicy false request.principal token }
        request = grantedByOwner directory entry bucket request := rfl
    have signedIn : (request.context bucket.name
        (deniedPrincipals request.principal (some entry))).anonymous =
          false := rfl
    have unseen := denies_tokenPolicy directory.ipInAny signedIn missed
      request.principal
    rw [sameInput, granting, policyDenies, unseen]
    rfl

/-! ## Denials win -/

/--
Under policies of one kind a denial for any identity of the caller wins
exactly if a request that is granted otherwise is evaluated for identities
that cover those of the caller.
-/
theorem deny_wins_iff
    (directory : Directory) (request : AccessRequest) (bucket : BucketEntry)
    (caller : request.principal ≠ directory.ownerKey)
    (nonempty : request.principal ≠ "") (bucketed : request.bucket ≠ "")
    (resolved : directory.resolveBucketKey request.principal request.bucket =
      some bucket) (named : request.bucket = bucket.name) (binds : Bool) :
    authorizeRequest directory request =
        authorizeOn directory bucket request ∧
      ((∀ policy, policyBindsAccessKey policy request.principal = binds →
        DenyMatches directory.ipInAny policy
          (denialContext directory bucket request) →
        authorizeOn directory { bucket with policy := policy } request =
          false) ↔
      (grantedUnder directory bucket request binds = true →
        Covered (callerIdentities directory request)
          (evaluatedIdentities directory request binds))) := by
  constructor
  · rw [authorizeRequest, if_neg nonempty, if_neg caller, if_neg bucketed,
      resolved]
  constructor
  · intro wins granted token names
    by_contra missed
    rw [Bool.not_eq_true] at missed
    cases known : directory.getAccessKey request.principal with
    | none =>
      have covered : Covered (callerIdentities directory request)
          (evaluatedIdentities directory request binds) := by
        apply covered_of_unknown known <;>
          cases binds <;> simp [evaluatedIdentities, deniedPrincipals]
      rw [covered token names] at missed
      cases missed
    | some entry =>
      have signedIn : (denialContext directory bucket request).anonymous =
          false := rfl
      have denied := denyMatches_tokenPolicy directory.ipInAny signedIn names
        binds request.principal
      have refused := wins (tokenPolicy binds request.principal token)
        (policyBindsAccessKey_tokenPolicy nonempty binds token) denied
      rw [authorizeOn_tokenPolicy known granted missed] at refused
      cases refused
  · intro covered policy kind denied
    exact authorizeOn_of_covered named kind covered nonempty denied

/-! ### A key and its owner -/

/-- A bucket of the user bob with this policy. -/
def bobBucket (policy : PolicyText) : BucketEntry where
  storageKey := ""
  name := "photos"
  owner := "bob"
  ownerID := "u1"
  teamID := ""
  tenantID := ""
  policy := policy

/-- A directory with one user, one bucket and one key that bob owns. -/
def bobDirectory (entry : AccessKeyEntry) (policy : PolicyText) :
    Directory where
  ownerKey := "root"
  users := [⟨"u1", "bob", .user, "", ""⟩]
  accessKeys := [entry]
  buckets := [("photos", bobBucket policy)]
  scopeIndex := fun _ _ => none
  tenants := fun _ => []
  teams := fun _ => []
  grants := fun _ => []
  prefixGrants := fun _ => []
  groupAccess := fun _ => []
  tenantGroups := fun _ => 0
  tenantGroupKeys := fun _ => []
  operatorWriteAll := false
  ipInAny := fun _ _ => false

/-- A read of one object with the key of bob. -/
def bobRead : AccessRequest := ⟨"photos", "cat", "s3:GetObject", "AK1", "", true⟩

/-- A denial of everything to the user bob. -/
def denyBob : Statement where
  effect := "Deny"
  principal := .text "arn:aws:iam::datasafe:user/bob"
  action := ["s3:*"]
  resource := ["*"]

/-- A grant of everything to the key of bob. -/
def allowBobKey : Statement where
  effect := "Allow"
  principal := .text "AK1"
  action := ["s3:*"]
  resource := ["*"]

/-- A denial wins for a key whose record names its owner. -/
theorem deny_wins_for_named_owner :
    DenyMatches (fun _ _ => false) (.document [denyBob])
        (denialContext (bobDirectory ⟨"AK1", "u1", "bob"⟩ .empty)
          (bobBucket .empty) bobRead) ∧
      authorizeOn (bobDirectory ⟨"AK1", "u1", "bob"⟩ .empty)
        (bobBucket (.document [denyBob])) bobRead = false := by
  have named : DenyMatches (fun _ _ => false) (.document [denyBob])
      (denialContext (bobDirectory ⟨"AK1", "u1", "bob"⟩ .empty)
        (bobBucket .empty) bobRead) :=
    ⟨_, rfl, denyBob, by decide, by decide, by decide⟩
  refine ⟨named, (deny_wins_iff (bobDirectory ⟨"AK1", "u1", "bob"⟩ .empty)
    bobRead (bobBucket .empty) (by decide) (by decide) (by decide)
    (by decide) rfl false).2.mpr ?_ _ (by decide) named⟩
  intro _
  exact covered_of_subset (List.Subset.refl _)

/--
A denial to the owner is missed if the record of the key holds only the id
of the owner, and if the policy names the key.
-/
theorem deny_missed_for_owner :
    (DenyMatches (fun _ _ => false) (.document [denyBob]) (denialContext
          (bobDirectory ⟨"AK1", "u1", ""⟩ (.document [denyBob]))
          (bobBucket (.document [denyBob])) bobRead) ∧
      authorizeRequest
        (bobDirectory ⟨"AK1", "u1", ""⟩ (.document [denyBob])) bobRead =
          true) ∧
    (DenyMatches (fun _ _ => false) (.document [allowBobKey, denyBob])
        (denialContext (bobDirectory ⟨"AK1", "u1", "bob"⟩
            (.document [allowBobKey, denyBob]))
          (bobBucket (.document [allowBobKey, denyBob])) bobRead) ∧
      authorizeRequest (bobDirectory ⟨"AK1", "u1", "bob"⟩
          (.document [allowBobKey, denyBob])) bobRead = true) :=
  ⟨⟨⟨_, rfl, denyBob, by decide, by decide, by decide⟩, by decide⟩,
    ⟨_, rfl, denyBob, by decide, by decide, by decide⟩, by decide⟩

end DataSafe.S3
