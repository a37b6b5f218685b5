import DataSafe.Base.Machine
import DataSafe.Base.Text
import DataSafe.Metadata.Records
import Mathlib.Data.List.Perm.Subperm

/-!
# The gate before dangerous actions

`allowDangerous` reads the user, the settings and what makes the user a
subject of the policy, decides whether a step-up is needed, and then consumes
the token of the request in one transaction.  An error of a read is never an
error of the gate: the user passes, or is taken for somebody the policy does
not cover.
-/

namespace DataSafe.Mfa

open Base Metadata

/-! ## The policy -/

/-- The fields of `MFASettings` that the policy uses. -/
structure MFASettings where
  requireAdminMFA : Bool
  requireBucketAdminMFA : Bool
  gracePeriodDays : Option Int
  applyToTenantAdmins : Bool
  applyToGlobalAdmins : Bool
  enabledAt : Option Time

/-- `GraceDays` -/
def MFASettings.graceDays (settings : MFASettings) : Int :=
  match settings.gracePeriodDays with
  | none => 7
  | some days => if days < 0 then 0 else if 90 < days then 90 else days

/-- `AppliesToGlobalAdmins` -/
def MFASettings.appliesToGlobalAdmins (settings : MFASettings) : Bool :=
  settings.requireAdminMFA || settings.applyToGlobalAdmins

structure MFAPolicy where
  enabled : Bool
  graceDays : Int
  applyTenantAdmins : Bool
  applyGlobalAdmins : Bool
  enabledAt : Time

/-- `mfaPolicy` -/
def mfaPolicy (settings : MFASettings) (now : Time) : MFAPolicy where
  enabled := settings.requireBucketAdminMFA
  graceDays := settings.graceDays
  applyTenantAdmins := settings.applyToTenantAdmins
  applyGlobalAdmins := settings.appliesToGlobalAdmins
  enabledAt := settings.enabledAt.getD now

/-- `SubjectInput` -/
structure SubjectInput where
  role : String
  bucketAdmin : Bool
  tenantAdmin : Bool
  bucketAdminSince : Option Time
  subjectSince : Option Time

structure FactorState where
  totp : Bool
  webAuthn : Bool
  idPMFA : Bool

def FactorState.hasFactor (factors : FactorState) : Bool :=
  factors.totp || factors.webAuthn || factors.idPMFA

def FactorState.hasLocalFactor (factors : FactorState) : Bool :=
  factors.totp || factors.webAuthn

/-- The code of a decision. -/
inductive DecisionCode where
  | mfaRequired
  | stepUp
deriving DecidableEq

structure Decision where
  subject : Bool
  inGrace : Bool
  code : Option DecisionCode
deriving DecidableEq

/-- `subject` -/
def subject (policy : MFAPolicy) (input : SubjectInput) : Bool :=
  input.bucketAdmin || (policy.applyTenantAdmins && input.tenantAdmin) ||
    (policy.applyGlobalAdmins && input.role == "administrator")

/-- A later moment replaces the start of the grace period. -/
def laterOf (start : Time) (since : Option Time) : Time :=
  match since with
  | none => start
  | some moment => if start < moment then moment else start

/-- `Decide` -/
def decideMFA (policy : MFAPolicy) (input : SubjectInput)
    (factors : FactorState) (dangerous : Bool) (now : Time) : Decision :=
  if !policy.enabled then ⟨false, false, none⟩
  else if !subject policy input then ⟨false, false, none⟩
  else
    let start := laterOf policy.enabledAt
      (if input.bucketAdmin then input.bucketAdminSince else none)
    let start := laterOf start input.subjectSince
    let days := if policy.graceDays < 0 then 0 else policy.graceDays
    if now < start + days * 24 * 3600 * 1000000000 then
      ⟨true, true,
        if dangerous && factors.hasLocalFactor then some .stepUp else none⟩
    else if !factors.hasFactor || (dangerous && !factors.hasLocalFactor) then
      ⟨true, false, some .mfaRequired⟩
    else ⟨true, false, if dangerous then some .stepUp else none⟩

/-- A subject with a local factor steps up, in the grace period or behind it. -/
theorem decideMFA_of_subject
    {policy : MFAPolicy} {input : SubjectInput} {factors : FactorState}
    (enabled : policy.enabled = true) (covered : subject policy input = true)
    (factor : factors.hasLocalFactor = true) (now : Time) :
    (decideMFA policy input factors true now).subject = true ∧
      (decideMFA policy input factors true now).code = some .stepUp := by
  have some_factor : factors.hasFactor = true := by
    unfold FactorState.hasLocalFactor at factor
    unfold FactorState.hasFactor
    rw [factor]
    rfl
  unfold decideMFA
  simp only [enabled, covered, factor, some_factor, Bool.not_true,
    Bool.and_self, Bool.and_false, Bool.or_self, Bool.false_eq_true,
    if_false]
  -- both branches of the grace period ask for a step-up
  split_ifs <;> exact ⟨rfl, rfl⟩

/-! ## Who is a subject -/

/-- The fields of a user record that the gate reads. -/
structure Account where
  username : String
  role : String
  bucketAdminSince : Option Time
  mfaPolicySince : Option Time
  factors : FactorState

/-- The fields of a bucket record that make an administrator. -/
structure OwnedBucket where
  ownerID : String
  owner : String
  storageKey : String

/-- The fields of a `BucketAccessGrant` that make an administrator. -/
structure AdminGrant where
  userID : String
  level : String
deriving DecidableEq

/-- What the metadata says about users and buckets. -/
structure Registry where
  users : String → Option Account
  settings : MFASettings
  /-- The roles of a user in tenants. -/
  tenants : String → List String
  buckets : List OwnedBucket
  grants : String → List AdminGrant

/-- The reads that fail. -/
structure ReadFaults where
  user : Bool
  settings : Bool
  tenants : Bool
  buckets : Bool
  grants : String → Bool

/-- No read fails. -/
def ReadFaults.clear : ReadFaults := ⟨false, false, false, false, fun _ => false⟩

def OwnedBucket.ownedBy (bucket : OwnedBucket) (userID username : String) :
    Bool :=
  userID ≠ "" &&
    (bucket.ownerID = userID || (bucket.ownerID = "" && bucket.owner = username))

/-- The buckets of `MFASubjectFor`; one whose grants fail is passed over. -/
def administersBucket (registry : Registry) (faults : ReadFaults)
    (userID username : String) (bucket : OwnedBucket) : Bool :=
  bucket.ownedBy userID username || (!faults.grants bucket.storageKey &&
      (registry.grants bucket.storageKey).any (fun grant =>
        grant.userID = userID && grant.level = "admin"))

/-- `MFASubjectFor` as `subjectInput` hands it on -/
def subjectInput (registry : Registry) (faults : ReadFaults)
    (userID : String) (account : Account) : SubjectInput where
  role := account.role
  bucketAdmin := !faults.buckets && registry.buckets.any
    (administersBucket registry faults userID account.username)
  tenantAdmin := !faults.tenants &&
    (registry.tenants userID).any (· = "tenant_admin")
  bucketAdminSince := account.bucketAdminSince
  subjectSince := account.mfaPolicySince

/-- `mfaDecision` -/
def mfaDecision (registry : Registry) (faults : ReadFaults)
    (userID : String) (account : Account) (dangerous : Bool) (now : Time) :
    Decision :=
  if faults.settings then ⟨false, false, none⟩
  else
    decideMFA (mfaPolicy registry.settings now)
      (subjectInput registry faults userID account) account.factors dangerous
      now

/-! ## Tokens -/

/-- `MFATokenMatch` -/
structure TokenMatch where
  userID : String
  sessionID : String
  action : String
  target : String
deriving DecidableEq

/-- `MFAActionToken` without its hash, which is its key -/
structure ActionToken where
  bound : TokenMatch
  expiresAt : Time
  usedAt : Option Time
deriving DecidableEq

abbrev Tokens := String → Option ActionToken

/-- `PutMFAActionToken` -/
def putToken (tokens : Tokens) (hash : String) (token : ActionToken) :
    Tokens :=
  Function.update tokens hash (some token)

@[simp]
theorem putToken_self (tokens : Tokens) (hash : String)
    (token : ActionToken) : putToken tokens hash token hash = some token := by
  simp [putToken]

variable {hash : String}

@[simp]
theorem putToken_of_ne {other : String} (distinct : other ≠ hash)
    (tokens : Tokens) (token : ActionToken) :
    putToken tokens hash token other = tokens other := by
  simp [putToken, distinct]

/-- `ConsumeMFAActionToken` -/
def consumeToken (tokens : Tokens) (hash : String) (bound : TokenMatch)
    (now : Time) : Option Tokens :=
  match tokens hash with
  | none => none
  | some token =>
    if token.usedAt ≠ none ∨ ¬ now < token.expiresAt ∨
        token.bound ≠ bound then none
    else some (putToken tokens hash { token with usedAt := some now })

/-- `PurgeMFAActionTokens` -/
def purgeTokens (tokens : Tokens) (now : Time) : Tokens := fun hash =>
  (tokens hash).filter (fun token => now < token.expiresAt)

/-! ## The gate -/

/-- `DangerousActions` -/
def dangerousActions : List String :=
  ["crypto_shred", "key_rotate", "trash_purge", "sharing_policy_change",
    "grants_change", "encryption_disable", "object_lock_config",
    "compliance_retention", "bucket_delete", "mfa_reset",
    "revoke_all_shares", "access_key_create"]

/-- A request at the gate. -/
structure GateCall where
  /-- The user and the session of the request, if it has any. -/
  caller : Option (String × String)
  action : String
  target : String
  /-- The header with the token. -/
  header : String
  decidedAt : Time
  now : Time

def GateCall.bound (call : GateCall) (userID sessionID : String) :
    TokenMatch :=
  ⟨userID, sessionID, call.action, call.target⟩

/-- `consumePresentedToken` -/
def consumePresentedToken (hashToken : String → String) (fails : Bool)
    (call : GateCall) (userID sessionID : String) (tokens : Tokens) :
    Bool × Tokens :=
  if trimText call.header = "" then (false, tokens)
  else if fails then (false, tokens)
  else
    match consumeToken tokens (hashToken (trimText call.header))
        (call.bound userID sessionID) call.now with
    | none => (false, tokens)
    | some rest => (true, rest)

/-- `allowDangerous` -/
def allowDangerous (hashToken : String → String) (registry : Registry)
    (faults : ReadFaults) (fails : Bool) (call : GateCall)
    (tokens : Tokens) : Bool × Tokens :=
  if !dangerousActions.contains call.action then (true, tokens)
  else
    match call.caller with
    | none => (true, tokens)
    | some (userID, sessionID) =>
      if userID = "" then (true, tokens)
      else
        match if faults.user then none else registry.users userID with
        | none => (true, tokens)
        | some account =>
          let decision := mfaDecision registry faults userID account true
            call.decidedAt
          if !decision.subject || decision.code = none then (true, tokens)
          else if decision.code = some .mfaRequired then (false, tokens)
          else
            consumePresentedToken hashToken fails call userID sessionID
              tokens

/-- The dangerous action of a subject of the policy with a local factor. -/
structure Covers (registry : Registry) (call : GateCall)
    (userID sessionID : String) (account : Account) : Prop where
  dangerous : call.action ∈ dangerousActions
  caller : call.caller = some (userID, sessionID)
  named : userID ≠ ""
  user : registry.users userID = some account
  enabled : registry.settings.requireBucketAdminMFA = true
  subject : subject (mfaPolicy registry.settings call.decidedAt)
    (subjectInput registry .clear userID account) = true
  factor : account.factors.hasLocalFactor = true

/--
The reads of the user and of the settings work, and so does a read that shows
the user to be a subject.
-/
structure ReadsSubject (registry : Registry) (faults : ReadFaults)
    (userID : String) (account : Account) : Prop where
  user : faults.user = false
  settings : faults.settings = false
  subject :
    (registry.settings.appliesToGlobalAdmins = true ∧
      account.role = "administrator") ∨
    (registry.settings.applyToTenantAdmins = true ∧ faults.tenants = false ∧
      "tenant_admin" ∈ registry.tenants userID) ∨
    (faults.buckets = false ∧ ∃ bucket ∈ registry.buckets,
      bucket.ownedBy userID account.username = true ∨
        (faults.grants bucket.storageKey = false ∧
          ⟨userID, "admin"⟩ ∈ registry.grants bucket.storageKey))

/-- A stored token that a request may use. -/
structure Usable (hashToken : String → String) (tokens : Tokens)
    (call : GateCall) (userID sessionID : String) (token : ActionToken) :
    Prop where
  stored : tokens (hashToken (trimText call.header)) = some token
  unused : token.usedAt = none
  unexpired : call.now < token.expiresAt
  bound : token.bound = call.bound userID sessionID

section Gate

variable {hashToken : String → String} {registry : Registry}
  {faults : ReadFaults} {fails : Bool} {call : GateCall}
  {userID sessionID : String} {account : Account} {tokens : Tokens}

theorem subject_iff_readsSubject
    (works : faults.user = false) (read : faults.settings = false)
    (now : Time) :
    subject (mfaPolicy registry.settings now)
        (subjectInput registry faults userID account) = true ↔
      ReadsSubject registry faults userID account := by
  have grants : ∀ bucket : OwnedBucket,
      (∃ grant ∈ registry.grants bucket.storageKey,
        grant.userID = userID ∧ grant.level = "admin") ↔
      (⟨userID, "admin"⟩ : AdminGrant) ∈
        registry.grants bucket.storageKey := by
    intro bucket
    constructor
    · rintro ⟨⟨_, _⟩, member, rfl, rfl⟩
      exact member
    · intro member
      exact ⟨_, member, rfl, rfl⟩
  have tenants : (∃ role ∈ registry.tenants userID, role = "tenant_admin") ↔
      "tenant_admin" ∈ registry.tenants userID := by
    simp
  simp only [subject, subjectInput, administersBucket, Bool.or_eq_true,
    Bool.and_eq_true, Bool.not_eq_true', decide_eq_true_eq, beq_iff_eq,
    List.any_eq_true, grants, tenants]
  constructor
  · rintro ((bucket | tenant) | global)
    · exact ⟨works, read, .inr (.inr bucket)⟩
    · exact ⟨works, read, .inr (.inl tenant)⟩
    · exact ⟨works, read, .inl global⟩
  · intro reads
    obtain global | tenant | bucket := reads.subject
    · exact .inr global
    · exact .inl (.inr tenant)
    · exact .inl (.inl bucket)

theorem consumeToken_some
    {bound : TokenMatch} {now : Time} {rest : Tokens}
    (consumed : consumeToken tokens hash bound now = some rest) :
    ∃ token, tokens hash = some token ∧ token.usedAt = none ∧
      now < token.expiresAt ∧ token.bound = bound ∧
      rest = putToken tokens hash { token with usedAt := some now } := by
  unfold consumeToken at consumed
  cases found : tokens hash with
  | none =>
    rw [found] at consumed
    cases consumed
  | some token =>
    rw [found] at consumed
    dsimp only at consumed
    split_ifs at consumed with refused
    cases consumed
    push Not at refused
    exact ⟨token, rfl, refused.1, refused.2.1, refused.2.2, rfl⟩

/-- Behind the reads of a subject, the gate opens for a usable token only. -/
theorem allowDangerous_consumes
    (covers : Covers registry call userID sessionID account)
    (reads : ReadsSubject registry faults userID account)
    (permitted : (allowDangerous hashToken registry faults fails call
      tokens).1 = true) :
    ∃ token, Usable hashToken tokens call userID sessionID token ∧
      (allowDangerous hashToken registry faults fails call tokens).2 =
        putToken tokens (hashToken (trimText call.header))
          { token with usedAt := some call.now } := by
  have decided := decideMFA_of_subject
    (show (mfaPolicy registry.settings call.decidedAt).enabled = true from
      covers.enabled)
    ((subject_iff_readsSubject reads.user reads.settings
      call.decidedAt).mpr reads) covers.factor call.decidedAt
  have gate : allowDangerous hashToken registry faults fails call tokens =
      consumePresentedToken hashToken fails call userID sessionID tokens := by
    simp [allowDangerous, covers.dangerous, covers.caller, covers.named,
      reads.user, covers.user, mfaDecision, reads.settings, decided.1,
      decided.2]
  rw [gate] at permitted ⊢
  unfold consumePresentedToken at permitted ⊢
  split_ifs at permitted ⊢
  cases consumed : consumeToken tokens (hashToken (trimText call.header))
      (call.bound userID sessionID) call.now with
  | none =>
    rw [consumed] at permitted
    cases permitted
  | some rest =>
    obtain ⟨token, stored, unused, unexpired, bound, same⟩ :=
      consumeToken_some consumed
    exact ⟨token, ⟨stored, unused, unexpired, bound⟩, same⟩

/-- The gate leaves the tokens alone, or it consumes one. -/
theorem allowDangerous_tokens
    (hashToken : String → String) (registry : Registry) (faults : ReadFaults)
    (fails : Bool) (call : GateCall) (tokens : Tokens) :
    (allowDangerous hashToken registry faults fails call tokens).2 = tokens ∨
      ∃ hash token, tokens hash = some token ∧
        (allowDangerous hashToken registry faults fails call tokens).2 =
          putToken tokens hash { token with usedAt := some call.now } := by
  unfold allowDangerous
  split
  · exact .inl rfl
  · split
    · exact .inl rfl
    · split
      · exact .inl rfl
      · split
        · exact .inl rfl
        · dsimp only
          split
          · exact .inl rfl
          · split
            · exact .inl rfl
            · unfold consumePresentedToken
              split
              · exact .inl rfl
              · split
                · exact .inl rfl
                · split
                  · exact .inl rfl
                  · rename_i rest consumed
                    obtain ⟨token, stored, _, _, _, same⟩ :=
                      consumeToken_some consumed
                    exact .inr ⟨_, token, stored, same⟩

end Gate

/-! ## Histories of tokens -/

/-- What happens to the tokens. -/
inductive GateAct where
  /-- `issueActionToken` -/
  | issue (hash : String) (bound : TokenMatch) (expiresAt : Time)
      (fails : Bool)
  /-- A request at the gate, with what its reads find. -/
  | gate (registry : Registry) (faults : ReadFaults) (fails : Bool)
      (call : GateCall)
  | purge (now : Time) (fails : Bool)

/-- The tokens, and what was issued and permitted so far. -/
structure GateState where
  tokens : Tokens
  issued : List (String × ActionToken)
  /-- The hashes of the tokens of the permitted actions of subjects. -/
  permits : List String

/-- Whether the request is the dangerous action of a covered user. -/
def coveredCall (registry : Registry) (call : GateCall) : Bool :=
  match call.caller with
  | none => false
  | some (userID, _) =>
    match registry.users userID with
    | none => false
    | some account =>
      dangerousActions.contains call.action && userID ≠ "" &&
        registry.settings.requireBucketAdminMFA &&
        subject (mfaPolicy registry.settings call.decidedAt)
          (subjectInput registry .clear userID account) &&
        account.factors.hasLocalFactor

theorem covers_of_coveredCall
    {registry : Registry} {call : GateCall}
    (covered : coveredCall registry call = true) :
    ∃ userID sessionID account,
      Covers registry call userID sessionID account := by
  unfold coveredCall at covered
  split at covered
  · cases covered
  · rename_i userID sessionID caller
    split at covered
    · cases covered
    · rename_i account user
      simp only [Bool.and_eq_true, List.contains_iff_mem,
        decide_eq_true_eq] at covered
      obtain ⟨⟨⟨⟨dangerous, named⟩, enabled⟩, covered⟩, factor⟩ := covered
      exact ⟨userID, sessionID, account, dangerous, caller, named, user,
        enabled, covered, factor⟩

/-- One step of a history. -/
def gateStep (hashToken : String → String)
    (state : GateState) : GateAct → GateState
  | .issue hash bound expiresAt fails =>
    if fails then state
    else
      { state with
        tokens := putToken state.tokens hash ⟨bound, expiresAt, none⟩
        issued := (hash, ⟨bound, expiresAt, none⟩) :: state.issued }
  | .gate registry faults fails call =>
    { state with
      tokens := (allowDangerous hashToken registry faults fails call
        state.tokens).2
      permits :=
        if coveredCall registry call &&
            (allowDangerous hashToken registry faults fails call
              state.tokens).1 then
          hashToken (trimText call.header) :: state.permits
        else state.permits }
  | .purge now fails =>
    if fails then state
    else { state with tokens := purgeTokens state.tokens now }

/-- No token was issued yet. -/
def noTokens : GateState := ⟨fun _ => none, [], []⟩

/-- The reads of a covered request show its user to be a subject. -/
def ReadsCovered (_ : GateState) : GateAct → Prop
  | .gate registry faults _ call =>
    ∀ userID sessionID account,
      Covers registry call userID sessionID account →
        ReadsSubject registry faults userID account
  | _ => True

/-- What is known of the tokens in every state of a history. -/
structure Accounted (state : GateState) : Prop where
  /-- A stored token was issued as it is. -/
  issued : ∀ hash token, state.tokens hash = some token →
    (hash, { token with usedAt := none }) ∈ state.issued
  /-- A permitted action has used up one of the tokens of its hash. -/
  used : ∀ hash, state.permits.count hash ≤
    (state.issued.map Prod.fst).count hash
  /-- A token that is not used is one more. -/
  left : ∀ hash token, state.tokens hash = some token → token.usedAt = none →
    state.permits.count hash < (state.issued.map Prod.fst).count hash

section History

variable {hashToken : String → String} {state : GateState}

theorem accounted_noTokens : Accounted noTokens where
  issued _ _ found := by cases found
  used _ := le_refl _
  left _ _ found := by cases found

section

variable (accounted : Accounted state) {token : ActionToken}

include accounted

theorem Accounted.purge
    (now : Time) :
    Accounted { state with tokens := purgeTokens state.tokens now } where
  issued hash token found :=
    accounted.issued hash token (Option.filter_eq_some_iff.mp found).1
  used := accounted.used
  left hash token found :=
    accounted.left hash token (Option.filter_eq_some_iff.mp found).1

theorem Accounted.issue
    (hash : String) (bound : TokenMatch) (expiresAt : Time) :
    Accounted { state with
      tokens := putToken state.tokens hash ⟨bound, expiresAt, none⟩
      issued := (hash, ⟨bound, expiresAt, none⟩) :: state.issued } := by
  have more : ∀ other, (state.issued.map Prod.fst).count other ≤
      (hash :: state.issued.map Prod.fst).count other := fun other =>
    List.count_le_count_cons
  refine ⟨?_, fun other => (accounted.used other).trans (more other), ?_⟩
  · intro other token found
    by_cases same : other = hash
    · subst same
      dsimp only at found
      rw [putToken_self] at found
      cases found
      exact List.mem_cons_self
    · dsimp only at found
      rw [putToken_of_ne same] at found
      exact List.mem_cons_of_mem _ (accounted.issued other token found)
  · intro other token found unused
    by_cases same : other = hash
    · subst same
      have before := accounted.used other
      simp only [List.map_cons, List.count_cons_self]
      omega
    · dsimp only at found
      rw [putToken_of_ne same] at found
      exact (accounted.left other token found unused).trans_le (more other)

/-- A used token in the place of a stored one. -/
theorem Accounted.mark
    (stored : state.tokens hash = some token) (now : Time) :
    Accounted { state with
      tokens := putToken state.tokens hash
        { token with usedAt := some now } } := by
  refine ⟨?_, accounted.used, ?_⟩
  · intro other found there
    by_cases same : other = hash
    · subst same
      dsimp only at there
      rw [putToken_self] at there
      cases there
      exact accounted.issued other token stored
    · dsimp only at there
      rw [putToken_of_ne same] at there
      exact accounted.issued other found there
  · intro other found there unused
    by_cases same : other = hash
    · subst same
      dsimp only at there
      rw [putToken_self] at there
      cases there
      cases unused
    · dsimp only at there
      rw [putToken_of_ne same] at there
      exact accounted.left other found there unused

/-- The permitted action that has used the token. -/
theorem Accounted.permit
    (stored : state.tokens hash = some token) (unused : token.usedAt = none)
    (now : Time) :
    Accounted { state with
      tokens := putToken state.tokens hash { token with usedAt := some now }
      permits := hash :: state.permits } := by
  have marked := accounted.mark stored now
  have room := accounted.left hash token stored unused
  refine ⟨marked.issued, fun other => ?_, fun other found there free => ?_⟩
  · by_cases same : other = hash
    · subst same
      simp only [List.count_cons_self]
      omega
    · rw [List.count_cons_of_ne (Ne.symm same)]
      exact accounted.used other
  · by_cases same : other = hash
    · subst same
      dsimp only at there
      rw [putToken_self] at there
      cases there
      cases free
    · rw [List.count_cons_of_ne (Ne.symm same)]
      exact marked.left other found there free

theorem accounted_gateStep
    {act : GateAct} (reads : ReadsCovered state act) :
    Accounted (gateStep hashToken state act) := by
  cases act with
  | issue hash bound expiresAt fails =>
    cases fails with
    | true => exact accounted
    | false => exact accounted.issue hash bound expiresAt
  | purge now fails =>
    cases fails with
    | true => exact accounted
    | false => exact accounted.purge now
  | gate registry faults fails call =>
    unfold gateStep
    dsimp only
    split_ifs with permits
    · obtain ⟨covered, permitted⟩ := Bool.and_eq_true_iff.mp permits
      obtain ⟨userID, sessionID, account, covers⟩ :=
        covers_of_coveredCall covered
      obtain ⟨token, usable, after⟩ := allowDangerous_consumes covers
        (reads userID sessionID account covers) permitted
      rw [after]
      exact accounted.permit usable.stored usable.unused call.now
    · obtain same | ⟨hash, token, stored, after⟩ :=
        allowDangerous_tokens hashToken registry faults fails call
          state.tokens
      · rw [same]
        exact accounted
      · rw [after]
        exact accounted.mark stored call.now

end

/--
In a history where the reads of covered requests work, a request that passes
the gate consumes a stored token that was issued for it, is not expired and
was not used before, and there are no more permitted actions than tokens.
-/
theorem dangerous_actions_consume
    {acts : List GateAct}
    (reads : Guarded (gateStep hashToken) ReadsCovered noTokens acts) :
    (∀ front registry faults fails call userID sessionID account,
      front ++ [.gate registry faults fails call] <+: acts →
      Covers registry call userID sessionID account →
      (allowDangerous hashToken registry faults fails call
        (runAll (gateStep hashToken) noTokens front).tokens).1 = true →
      ∃ token,
        Usable hashToken (runAll (gateStep hashToken) noTokens front).tokens
          call userID sessionID token ∧
        (hashToken (trimText call.header), token) ∈
          (runAll (gateStep hashToken) noTokens front).issued ∧
        (runAll (gateStep hashToken) noTokens front).permits.count
            (hashToken (trimText call.header)) <
          ((runAll (gateStep hashToken) noTokens front).issued.map
            Prod.fst).count (hashToken (trimText call.header)) ∧
        (allowDangerous hashToken registry faults fails call
          (runAll (gateStep hashToken) noTokens front).tokens).2 =
            putToken (runAll (gateStep hashToken) noTokens front).tokens
              (hashToken (trimText call.header))
              { token with usedAt := some call.now }) ∧
    (runAll (gateStep hashToken) noTokens acts).permits.length ≤
      (runAll (gateStep hashToken) noTokens acts).issued.length := by
  have accounted : ∀ front, front <+: acts →
      Accounted (runAll (gateStep hashToken) noTokens front) := by
    intro front earlier
    exact (reads.mono earlier).invariant accounted_noTokens
      fun state act held reads => accounted_gateStep held reads
  refine ⟨?_, ?_⟩
  · intro front registry faults fails call userID sessionID account made
      covers permitted
    have known := accounted front ((List.prefix_append _ _).trans made)
    obtain ⟨token, usable, after⟩ := allowDangerous_consumes covers
      (reads front _ made userID sessionID account covers) permitted
    have issued := known.issued _ token usable.stored
    rw [← usable.unused] at issued
    exact ⟨token, usable, issued,
      known.left _ token usable.stored usable.unused, after⟩
  · have fewer : (runAll (gateStep hashToken) noTokens acts).permits.Subperm
        ((runAll (gateStep hashToken) noTokens acts).issued.map Prod.fst) :=
      List.subperm_ext_iff.mpr fun hash _ =>
        (accounted acts (List.prefix_refl _)).used hash
    simpa using fewer.length_le

end History

/-! ## A gate that stands open -/

/-- The user owns a bucket and has codes. -/
def ownerAccount : Account where
  username := "alice"
  role := "user"
  bucketAdminSince := none
  mfaPolicySince := none
  factors := ⟨true, false, false⟩

/-- The policy is on, for the owner of one bucket. -/
def ownerRegistry : Registry where
  users id := if id = "u1" then some ownerAccount else none
  settings := ⟨false, true, none, false, false, some 0⟩
  tenants _ := []
  buckets := [⟨"u1", "alice", "b1"⟩]
  grants _ := []

/-- The owner asks to delete the bucket. -/
def deleteCall (header : String) : GateCall where
  caller := some ("u1", "s1")
  action := "bucket_delete"
  target := "b1"
  header := header
  decidedAt := 10
  now := 10

/-- No token was ever issued; a failed read of the user opens the gate. -/
theorem failed_read_opens_gate :
    coveredCall ownerRegistry (deleteCall "") = true ∧
      (runAll (gateStep id) noTokens
        [.gate ownerRegistry { ReadFaults.clear with user := true } false
          (deleteCall "")]).permits.length = 1 ∧
      (runAll (gateStep id) noTokens
        [.gate ownerRegistry { ReadFaults.clear with user := true } false
          (deleteCall "")]).issued = [] := by
  decide

/-- A token is issued and presented twice. -/
def presentedTwice : List GateAct :=
  [.issue "token" ⟨"u1", "s1", "bucket_delete", "b1"⟩ 70 false,
    .gate ownerRegistry .clear false (deleteCall "token"),
    .gate ownerRegistry .clear false (deleteCall "token"), .purge 80 false]

theorem dangerous_action_consumes_once :
    (runAll (gateStep id) noTokens presentedTwice).permits = ["token"] ∧
      (runAll (gateStep id) noTokens presentedTwice).permits.length ≤
        (runAll (gateStep id) noTokens presentedTwice).issued.length := by
  have reads : ∀ userID sessionID account,
      Covers ownerRegistry (deleteCall "token") userID sessionID account →
        ReadsSubject ownerRegistry .clear userID account := by
    intro userID sessionID account covers
    cases covers.caller
    cases covers.user
    exact ⟨rfl, rfl, .inr (.inr ⟨rfl, _, List.mem_cons_self,
      .inl (by decide)⟩)⟩
  refine ⟨by decide +kernel, (dangerous_actions_consume ?_).2⟩
  simp only [presentedTwice, guarded_cons_iff, guarded_nil, ReadsCovered,
    and_true, true_and]
  exact ⟨reads, reads⟩

end DataSafe.Mfa
