import DataSafe.Base.Machine
import DataSafe.Mfa.Users

/-!
# Requests of a user and of administrators

The handlers of logins, second factors and changes of a user, as sequences of
calls of the store.  A handler reads the whole record, decides in memory, and
writes the whole record back; only the claim of a time step and the count of
failed step-ups are transactions of their own.  Each call of the store is one
step and may fail, and the steps of several requests interleave.
-/

namespace DataSafe.Mfa

open Base Metadata

/-- What a request is for, with its inputs. -/
inductive Kind where
  /-- `handleAdminLogin` of a local user -/
  | login (password : String)
  /-- `handleMFALogin` behind the check of its token -/
  | mfaLogin (code : String)
  /-- `handleMFAEnroll` with the encrypted new secret -/
  | enroll (secret : String)
  /-- `handleMFAVerifyEnroll` with the hashes of the new recovery codes -/
  | verifyEnroll (code : String) (hashes : List String)
  /-- `handleMFADisable` -/
  | disable (password code : String)
  /-- `handleStepUp` -/
  | stepUp (code : String)
  /-- `handleStepUpWebAuthnFinish` with the outcome of the assertion -/
  | stepUpWebAuthn (proved : Bool)
  /-- `handleUpdateUser` of an administrator -/
  | updateUser (role : String) (status : Option Status)
  /-- `handleResetPassword` of an administrator with the new hash -/
  | resetPassword (hash : String)
  /-- `handleMFAReset` of an administrator -/
  | resetMFA

structure Request where
  kind : Kind
  now : Time

/-- A code that a request was accepted for. -/
inductive Used where
  | totp (step : Int)
  | recovery (hash : String)
deriving DecidableEq

inductive Reply where
  | refused
  | accepted (used : Option Used)
deriving DecidableEq

/-- Where a request stands, by the call of the store that comes next. -/
inductive Stage where
  /-- `GetUser` -/
  | start
  /-- `MFAStepUpLocked` -/
  | checking (read : User)
  /-- `ClaimTOTPStep` -/
  | claiming (read : User) (step : Int)
  /-- `NoteMFAStepUpFailure` -/
  | noting (read : User)
  /-- `ClearMFAStepUpFailures` -/
  | clearing (read user : User) (used : Option Used)
  /-- `UpdateUser`, with the record as it was read and as it is written -/
  | saving (read user : User) (used : Option Used) (proved : Bool)
  /-- `PutMFAActionToken` -/
  | issuing (used : Option Used)
  /-- `ResetTOTPStep` -/
  | resetting
  | done (reply : Reply)
deriving DecidableEq

/-- How a request goes on when its code is accepted. -/
def accepted (request : Request) (read user : User) (used : Option Used) :
    Stage :=
  match request.kind with
  | .mfaLogin _ =>
    .saving read { user with lastLogin := some request.now } used true
  | .disable _ _ =>
    .saving read { user with
      mfaEnabled := false
      totpSecret := ""
      recoveryCodes := [] } used true
  | .stepUp _ => .clearing read user used
  | .stepUpWebAuthn _ => .clearing read user used
  | _ => .done .refused

/-- How a request goes on when its code is rejected. -/
def rejected (request : Request) (read : User) : Stage :=
  match request.kind with
  | .stepUp _ => .noting read
  | .stepUpWebAuthn _ => .noting read
  | _ => .done .refused

/-- `validateUserMFACode` -/
def tryCode (checks : Checks) (request : Request) (read : User)
    (code : String) : Stage :=
  match checkCode checks read code request.now with
  | .rejected => rejected request read
  | .totp step => .claiming read step
  | .recovery hash rest =>
    accepted request read { read with recoveryCodes := rest }
      (some (.recovery hash))

/-- How a request goes on with the record that it has read. -/
def loaded (checks : Checks) (request : Request) (read : User) : Stage :=
  match request.kind with
  | .login password =>
    if read.status ≠ .active then .done .refused
    else if checks.checkPassword read.passwordHash password = false then
      .done .refused
    else if read.mfaEnabled ||
        checks.hasCredentials read.webAuthnCredentials then
      .done .refused
    else
      .saving read { read with lastLogin := some request.now } none true
  | .mfaLogin code =>
    if read.status ≠ .active then .done .refused
    else if read.mfaEnabled = false then .done .refused
    else tryCode checks request read code
  | .enroll secret =>
    if read.mfaEnabled then .done .refused
    else .saving read { read with totpSecret := secret } none true
  | .verifyEnroll code hashes =>
    if read.mfaEnabled then .done .refused
    else
      match (checks.decrypt read.totpSecret).bind (fun secret =>
          totpStep checks secret code request.now) with
      | none => .done .refused
      | some step =>
        .saving read { read with
          mfaEnabled := true
          mfaResetRequired := false
          recoveryCodes := hashes } (some (.totp step)) true
  | .disable password code =>
    if read.mfaEnabled = false then .done .refused
    else if password = "" ∨
        checks.checkPassword read.passwordHash password = false then
      .done .refused
    else tryCode checks request read code
  | .stepUp _ =>
    if read.mfaEnabled ||
        checks.hasCredentials read.webAuthnCredentials then .checking read
    else .done .refused
  | .stepUpWebAuthn _ =>
    if read.mfaEnabled ||
        checks.hasCredentials read.webAuthnCredentials then .checking read
    else .done .refused
  | .updateUser role status =>
    .saving read { read with
      role := if role = "" then read.role else role
      status := status.getD read.status } none true
  | .resetPassword hash =>
    .saving read { read with passwordHash := hash } none true
  | .resetMFA =>
    .saving read { read with
      mfaEnabled := false
      totpSecret := ""
      recoveryCodes := []
      webAuthnCredentials := ""
      idPMFA := false
      mfaResetRequired := true
      totpLastStep := 0 } none true

/-- How a step-up goes on when it is not locked. -/
def unlocked (checks : Checks) (request : Request) (read : User) : Stage :=
  match request.kind with
  | .stepUp code => tryCode checks request read code
  | .stepUpWebAuthn true => accepted request read read none
  | _ => rejected request read

/-- How a request goes on behind `UpdateUser`; some ignore its error. -/
def saved (request : Request) (used : Option Used) (proved written : Bool) :
    Stage :=
  match request.kind with
  | .login _ => .done (.accepted none)
  | .stepUp _ => if proved then .issuing used else .done .refused
  | .stepUpWebAuthn _ => if proved then .issuing used else .done .refused
  | .resetMFA => if written then .resetting else .done .refused
  | _ => if written then .done (.accepted used) else .done .refused

/-- One call of the store. -/
def advance (checks : Checks) (request : Request) (fails : Bool)
    (store : UserStore) : Stage → UserStore × Stage
  | .start =>
    match if fails then none else store.user with
    | none => (store, .done .refused)
    | some user => (store, loaded checks request user)
  | .checking read =>
    if fails || store.fails.locked request.now then (store, .done .refused)
    else (store, unlocked checks request read)
  | .claiming read step =>
    if fails then (store, rejected request read)
    else
      match store.claimTOTPStep step with
      | (store, true) =>
        (store, accepted request read { read with totpLastStep := step }
          (some (.totp step)))
      | (store, false) => (store, rejected request read)
  | .noting read =>
    (if fails then store
      else { store with fails := store.fails.advance request.now },
      .saving read read none false)
  | .clearing read user used =>
    (if fails then store else { store with fails := .clear },
      .saving read user used true)
  | .saving _ user used proved =>
    match if fails then none else store.updateUser user with
    | some written => (written, saved request used proved true)
    | none => (store, saved request used proved false)
  | .issuing used =>
    (store, .done (if fails then .refused else .accepted used))
  | .resetting =>
    (if fails then store else store.resetTOTPStep, .done (.accepted none))
  | .done reply => (store, .done reply)

/-! ## What a request carries along -/

/-- The hashes that an enrolment stores. -/
def Kind.hashes : Kind → Option (List String)
  | .verifyEnroll _ hashes => some hashes
  | _ => none

/-- Logins and step-ups, which change no settings of the user. -/
def Kind.attempts : Kind → Bool
  | .login _ => true
  | .mfaLogin _ => true
  | .stepUp _ => true
  | .stepUpWebAuthn _ => true
  | _ => false

/-- Requests that present a code of the user. -/
def Kind.presentsCode : Kind → Bool
  | .mfaLogin _ => true
  | .verifyEnroll _ _ => true
  | .disable _ _ => true
  | .stepUp _ => true
  | _ => false

/-- The settings of a user that logins and step-ups leave alone. -/
structure Standing where
  status : Status
  role : String
  passwordHash : String
  mfaEnabled : Bool
  totpSecret : String
  webAuthnCredentials : String
  idPMFA : Bool
  mfaResetRequired : Bool
deriving DecidableEq

def User.standing (user : User) : Standing where
  status := user.status
  role := user.role
  passwordHash := user.passwordHash
  mfaEnabled := user.mfaEnabled
  totpSecret := user.totpSecret
  webAuthnCredentials := user.webAuthnCredentials
  idPMFA := user.idPMFA
  mfaResetRequired := user.mfaResetRequired

/-- The hash of a recovery code that was accepted. -/
def taken : Option Used → List String
  | some (.recovery hash) => [hash]
  | _ => []

/-- A time step that the code of a request may be for. -/
structure Near (request : Request) (step : Int) : Prop where
  presents : request.kind.presentsCode = true
  lower : timeStep request.now - 1 ≤ step
  upper : step ≤ timeStep request.now + 1

/-- How the record that a request writes comes from the one it has read. -/
structure Follows (request : Request) (read user : User)
    (used : Option Used) : Prop where
  near : ∀ step, used = some (.totp step) → Near request step
  /-- An accepted recovery code is taken out of those that were read. -/
  codes : request.kind.hashes = none →
    (taken used ++ user.recoveryCodes).Subperm read.recoveryCodes
  enrolled : ∀ hashes, request.kind.hashes = some hashes →
    user.recoveryCodes = hashes ∧ taken used = []
  standing : request.kind.attempts = true → user.standing = read.standing

/-- What a request knows at each of its stages. -/
def Sound (request : Request) : Stage → Prop
  | .checking _ => request.kind.hashes = none
  | .claiming _ step => request.kind.hashes = none ∧ Near request step
  | .noting _ => request.kind.hashes = none
  | .clearing read user used => Follows request read user used
  | .saving read user used _ => Follows request read user used
  | .issuing used =>
    ∀ step, used = some (.totp step) → Near request step
  | .resetting => request.kind = .resetMFA
  | .done (.accepted used) =>
    ∀ step, used = some (.totp step) → Near request step
  | _ => True

section Sound

variable {checks : Checks} {request : Request}

section

variable (read : User) {used : Option Used}
  (plain : request.kind.hashes = none)

include plain

/-- A record that is written as it was read. -/
theorem Follows.unchanged :
    Follows request read read none where
  near _ made := by cases made
  codes _ := List.Subperm.refl _
  enrolled hashes made := by
    rw [plain] at made
    cases made
  standing _ := rfl

omit plain in
theorem sound_accepted
    {read user : User} (follows : Follows request read user used) :
    Sound request (accepted request read user used) := by
  obtain ⟨kind, now⟩ := request
  cases kind with
  | mfaLogin code =>
    exact ⟨follows.near, follows.codes, follows.enrolled, follows.standing⟩
  | disable password code =>
    refine ⟨follows.near, fun plain => ?_, fun hashes made => ?_,
      fun attempt => ?_⟩
    · have fewer : (taken used ++ []).Sublist
          (taken used ++ user.recoveryCodes) :=
        (List.nil_sublist _).append_left _
      exact fewer.subperm.trans (follows.codes plain)
    · cases made
    · cases attempt
  | stepUp code => exact follows
  | stepUpWebAuthn proved => exact follows
  | _ => trivial

theorem sound_rejected :
    Sound request (rejected request read) := by
  obtain ⟨kind, now⟩ := request
  cases kind with
  | stepUp code => exact plain
  | stepUpWebAuthn proved => exact plain
  | _ => trivial

omit plain in
theorem sound_tryCode
    (code : String) (plain : request.kind.hashes = none)
    (presents : request.kind.presentsCode = true) :
    Sound request (tryCode checks request read code) := by
  unfold tryCode
  cases found : checkCode checks read code request.now with
  | rejected => exact sound_rejected read plain
  | totp step =>
    have near := checkCode_totp_near found
    exact ⟨plain, presents, near.1, near.2⟩
  | recovery hash rest =>
    refine sound_accepted ⟨fun step made => ?_, fun _ => ?_,
      fun hashes made => ?_, fun _ => rfl⟩
    · cases made
    · exact (checkCode_recovery_perm found).symm.subperm
    · rw [plain] at made
      cases made

theorem sound_unlocked :
    Sound request (unlocked checks request read) := by
  unfold unlocked
  split
  · rename_i code same
    exact sound_tryCode read code plain (by rw [same]; rfl)
  · exact sound_accepted (.unchanged read plain)
  · exact sound_rejected read plain

omit plain in
theorem sound_loaded :
    Sound request (loaded checks request read) := by
  obtain ⟨kind, now⟩ := request
  cases kind with
  | login password =>
    unfold loaded
    dsimp only
    split_ifs
    · trivial
    · trivial
    · trivial
    · have follows : Follows ⟨.login password, now⟩ read read none :=
        .unchanged read rfl
      exact ⟨follows.near, follows.codes, follows.enrolled, follows.standing⟩
  | mfaLogin code =>
    unfold loaded
    dsimp only
    split_ifs
    · trivial
    · trivial
    · exact sound_tryCode read code rfl rfl
  | enroll secret =>
    unfold loaded
    dsimp only
    split_ifs
    · trivial
    · exact ⟨by simp, fun _ => List.Subperm.refl _, by simp [Kind.hashes],
        by simp [Kind.attempts]⟩
  | verifyEnroll code hashes =>
    unfold loaded
    dsimp only
    split_ifs
    · trivial
    · split
      · trivial
      · rename_i step found
        obtain ⟨secret, _, found⟩ := Option.bind_eq_some_iff.mp found
        refine ⟨fun other made => ?_, fun plain => ?_, fun others made => ?_,
          fun attempt => ?_⟩
        · cases made
          have near := totpStep_near found
          exact ⟨rfl, near.1, near.2⟩
        · cases plain
        · cases made
          exact ⟨rfl, rfl⟩
        · cases attempt
  | disable password code =>
    unfold loaded
    dsimp only
    split_ifs
    · trivial
    · trivial
    · exact sound_tryCode read code rfl rfl
  | stepUp code =>
    unfold loaded
    dsimp only
    split_ifs
    · exact (rfl : Kind.hashes (.stepUp code) = none)
    · trivial
  | stepUpWebAuthn proved =>
    unfold loaded
    dsimp only
    split_ifs
    · exact (rfl : Kind.hashes (.stepUpWebAuthn proved) = none)
    · trivial
  | updateUser role status =>
    exact ⟨by simp, fun _ => List.Subperm.refl _, by simp [Kind.hashes],
      by simp [Kind.attempts]⟩
  | resetPassword hash =>
    exact ⟨by simp, fun _ => List.Subperm.refl _, by simp [Kind.hashes],
      by simp [Kind.attempts]⟩
  | resetMFA =>
    exact ⟨by simp, fun _ => List.nil_subperm, by simp [Kind.hashes],
      by simp [Kind.attempts]⟩

omit plain in
theorem sound_saved
    (near : ∀ step, used = some (.totp step) → Near request step)
    (proved written : Bool) :
    Sound request (saved request used proved written) := by
  obtain ⟨kind, now⟩ := request
  have nothing : ∀ step, none = some (Used.totp step) → Near ⟨kind, now⟩ step := by
    intro step made
    cases made
  cases kind <;> cases proved <;> cases written <;> first
    | exact near
    | exact nothing
    | exact (rfl : Kind.resetMFA = .resetMFA)
    | trivial

end

/-- What a request knows holds again after its next call. -/
theorem sound_advance
    {stage : Stage} (sound : Sound request stage) (fails : Bool)
    (store : UserStore) :
    Sound request (advance checks request fails store stage).2 := by
  cases stage with
  | start =>
    unfold advance
    dsimp only
    split
    · trivial
    · exact sound_loaded _
  | checking read =>
    unfold advance
    dsimp only
    split_ifs
    · trivial
    · exact sound_unlocked read sound
  | claiming read step =>
    obtain ⟨plain, near⟩ := sound
    unfold advance
    dsimp only
    split_ifs
    · exact sound_rejected read plain
    · split
      · refine sound_accepted ⟨fun other made => ?_, fun _ => ?_,
          fun hashes made => ?_, fun _ => rfl⟩
        · cases made
          exact near
        · exact List.Subperm.refl _
        · rw [plain] at made
          cases made
      · exact sound_rejected read plain
  | noting read => exact Follows.unchanged read sound
  | clearing read user used => exact sound
  | saving read user used proved =>
    unfold advance
    dsimp only
    split
    · exact sound_saved sound.near _ _
    · exact sound_saved sound.near _ _
  | issuing used =>
    cases fails with
    | false => exact sound
    | true => trivial
  | resetting =>
    intro step made
    cases made
  | done reply => exact sound

end Sound

/-! ## What a call does to the store -/

/-- The next call writes the record. -/
def Stage.saves : Stage → Bool
  | .saving _ _ _ _ => true
  | _ => false

/-- What one call may do to the record of the user. -/
inductive Effect (request : Request) (fails : Bool) (store after : UserStore) :
    Stage → Prop where
  | quiet {stage : Stage} (same : after.user = store.user)
      (idle : stage.saves = false ∨ fails = true ∨ store.user = none) :
      Effect request fails store after stage
  | claimed {read stored : User} {step : Int}
      (held : store.user = some stored) (later : stored.totpLastStep < step)
      (made : after.user = some { stored with totpLastStep := step }) :
      Effect request fails store after (.claiming read step)
  | written {read user stored : User} {used : Option Used} {proved : Bool}
      (held : store.user = some stored) (works : fails = false)
      (made : after.user = some { user with
        totpLastStep := max stored.totpLastStep user.totpLastStep }) :
      Effect request fails store after (.saving read user used proved)
  | reset
      (made : after.user = store.user.map (fun user =>
        { user with totpLastStep := 0 })) :
      Effect request fails store after .resetting

theorem claimTOTPStep_cases
    (store : UserStore) (step : Int) :
    store.claimTOTPStep step = (store, false) ∨
      ∃ stored, store.user = some stored ∧ stored.totpLastStep < step ∧
        store.claimTOTPStep step =
          ({ store with user := some { stored with totpLastStep := step } },
            true) := by
  unfold UserStore.claimTOTPStep
  cases held : store.user with
  | none => exact .inl rfl
  | some stored =>
    by_cases earlier : step ≤ stored.totpLastStep
    · exact .inl (by simp [earlier])
    · exact .inr ⟨stored, rfl, by omega, by simp [earlier]⟩

theorem advance_effect
    (checks : Checks) (request : Request) (fails : Bool) (store : UserStore)
    (stage : Stage) :
    Effect request fails store
      (advance checks request fails store stage).1 stage := by
  cases stage with
  | start =>
    refine .quiet ?_ (.inl rfl)
    unfold advance
    dsimp only
    split <;> rfl
  | checking read =>
    refine .quiet ?_ (.inl rfl)
    unfold advance
    split_ifs <;> rfl
  | claiming read step =>
    cases fails with
    | true => exact .quiet rfl (.inl rfl)
    | false =>
      obtain refused | ⟨stored, held, later, claimed⟩ :=
        claimTOTPStep_cases store step
      · refine .quiet ?_ (.inl rfl)
        simp [advance, refused]
      · refine .claimed held later ?_
        simp [advance, claimed]
  | noting read =>
    cases fails with
    | true => exact .quiet rfl (.inl rfl)
    | false => exact .quiet rfl (.inl rfl)
  | clearing read user used =>
    cases fails with
    | true => exact .quiet rfl (.inl rfl)
    | false => exact .quiet rfl (.inl rfl)
  | saving read user used proved =>
    cases fails with
    | true => exact .quiet rfl (.inr (.inl rfl))
    | false =>
      cases held : store.user with
      | none =>
        refine .quiet ?_ (.inr (.inr held))
        simp [advance, UserStore.updateUser, held]
      | some stored =>
        refine .written held rfl ?_
        simp [advance, UserStore.updateUser, held]
  | issuing used => exact .quiet rfl (.inl rfl)
  | resetting =>
    cases fails with
    | true => exact .quiet rfl (.inl rfl)
    | false => exact .reset rfl
  | done reply => exact .quiet rfl (.inl rfl)

/-! ## Interleavings -/

/-- A request and how far it has come. -/
structure Session where
  request : Request
  stage : Stage

/-- The store and the requests on it. -/
structure MfaState where
  store : UserStore
  sessions : List Session

/-- A request that is to make its next call, and whether the call fails. -/
structure Act where
  index : Nat
  fails : Bool

/-- The next call of one request. -/
def step (checks : Checks) (state : MfaState) (act : Act) : MfaState :=
  match state.sessions[act.index]? with
  | none => state
  | some session =>
    let result := advance checks session.request act.fails state.store
      session.stage
    { store := result.1
      sessions := state.sessions.set act.index
        { session with stage := result.2 } }

/-- Requests that have not begun. -/
def opened (store : UserStore) (requests : List Request) : MfaState where
  store := store
  sessions := requests.map (fun request => ⟨request, .start⟩)

def run (checks : Checks) (store : UserStore) (requests : List Request)
    (acts : List Act) : MfaState :=
  runAll (step checks) (opened store requests) acts

/-! ## What one step changes -/

variable {session : Session}

section Step

variable {checks : Checks} {state : MfaState} {act : Act}

theorem step_of_absent (absent : state.sessions[act.index]? = none) :
    step checks state act = state := by
  simp [step, absent]

theorem step_store
    (found : state.sessions[act.index]? = some session) :
    (step checks state act).store =
      (advance checks session.request act.fails state.store
        session.stage).1 := by
  simp [step, found]

/-- The session that moves, and the others as they were. -/
theorem step_session
    (found : state.sessions[act.index]? = some session) (index : Nat) :
    (step checks state act).sessions[index]? =
      if index = act.index then
        some { session with
          stage := (advance checks session.request act.fails state.store
            session.stage).2 }
      else state.sessions[index]? := by
  have bound : act.index < state.sessions.length :=
    (List.getElem?_eq_some_iff.mp found).1
  simp only [step, found]
  by_cases same : index = act.index
  · simp [same, bound]
  · simp [same, Ne.symm same]

/-- A session after a step is the one that moves, or is as it was. -/
theorem step_session_cases
    {moving : Session} (found : state.sessions[act.index]? = some moving)
    {index : Nat}
    (there : (step checks state act).sessions[index]? = some session) :
    (index = act.index ∧ session = { moving with
        stage := (advance checks moving.request act.fails state.store
          moving.stage).2 }) ∨
      (index ≠ act.index ∧ state.sessions[index]? = some session) := by
  rw [step_session found] at there
  by_cases same : index = act.index
  · rw [if_pos same] at there
    exact .inl ⟨same, (Option.some.inj there).symm⟩
  · rw [if_neg same] at there
    exact .inr ⟨same, there⟩

/-- What requests know holds in every state. -/
theorem sound_step
    (sound : ∀ session ∈ state.sessions,
      Sound session.request session.stage) :
    ∀ session ∈ (step checks state act).sessions,
      Sound session.request session.stage := by
  cases found : state.sessions[act.index]? with
  | none => rwa [step_of_absent found]
  | some moving =>
    intro session member
    obtain ⟨index, there⟩ := List.mem_iff_getElem?.mp member
    obtain ⟨_, made⟩ | ⟨_, before⟩ := step_session_cases found there
    · rw [made]
      exact sound_advance (sound moving (List.mem_of_getElem? found)) _ _
    · exact sound session (List.mem_of_getElem? before)

/-- The requests stay the same. -/
theorem step_requests :
    (step checks state act).sessions.map Session.request =
      state.sessions.map Session.request := by
  cases found : state.sessions[act.index]? with
  | none => rw [step_of_absent found]
  | some session =>
    refine List.ext_getElem? fun index => ?_
    rw [List.getElem?_map, List.getElem?_map, step_session found]
    split_ifs with same
    · rw [same, found]
      rfl
    · rfl

end Step

theorem sound_opened (store : UserStore) (requests : List Request) :
    ∀ session ∈ (opened store requests).sessions,
      Sound session.request session.stage := by
  intro session member
  obtain ⟨request, _, rfl⟩ := List.mem_map.mp member
  trivial

end DataSafe.Mfa
