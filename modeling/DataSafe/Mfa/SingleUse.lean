import DataSafe.Mfa.Requests

/-!
# Codes of a second factor are used once

A time step is claimed in a transaction of its own, so that of the requests
that claim it one is accepted.  The verification of an enrolment accepts a
step without a claim, and a recovery code is consumed in memory and leaves the
store only when the record is written back.  Codes are used once in the runs
where no code is presented near an enrolment, and where no request writes back
recovery codes that have changed since it read them.
-/

namespace DataSafe.Mfa

open Base Metadata

/-- The code that a request was accepted for, or will be unless a call fails. -/
def held : Stage → Option Used
  | .clearing _ _ used => used
  | .saving _ _ used _ => used
  | .issuing used => used
  | .done (.accepted used) => used
  | _ => none

/-- The code that a request was accepted for behind its write. -/
def spent : Stage → Option Used
  | .issuing used => used
  | .done (.accepted used) => used
  | _ => none

/-- The request has not returned. -/
def Stage.running : Stage → Bool
  | .done _ => false
  | _ => true

def Kind.isStepUp : Kind → Bool
  | .stepUp _ => true
  | .stepUpWebAuthn _ => true
  | _ => false

/-- The request has returned and was accepted for the code. -/
def Accepts (state : MfaState) (index : Nat) (used : Used) : Prop :=
  state.sessions[index]?.map Session.stage =
    some (.done (.accepted (some used)))

instance (state : MfaState) (index : Nat) (used : Used) :
    Decidable (Accepts state index used) :=
  inferInstanceAs (Decidable (_ = _))

/--
The recovery codes in the store are those that the request has read, when it
writes its record back.  A step-up that was accepted for a recovery code does
write it: it goes on when the write fails.
-/
def undisturbed (state : MfaState) (act : Act) : Bool :=
  match state.sessions[act.index]? with
  | some ⟨request, .saving read _ used _⟩ =>
    if act.fails then !request.kind.isStepUp || taken used = []
    else
      state.store.user.map User.recoveryCodes = some read.recoveryCodes
  | _ => true

/-- No code is presented within two time steps of an enrolment. -/
def EnrolmentsApart (requests : List Request) : Prop :=
  requests.Pairwise (fun first second =>
    first.kind.presentsCode = true → second.kind.presentsCode = true →
    (first.kind.hashes ≠ none ∨ second.kind.hashes ≠ none) →
      timeStep first.now + 3 ≤ timeStep second.now ∨
        timeStep second.now + 3 ≤ timeStep first.now)

/-- The hashes of the recovery codes in the store. -/
def UserStore.codes (store : UserStore) : List String :=
  (store.user.map User.recoveryCodes).getD []

/-- The hashes of recovery codes differ, as they are drawn at random. -/
structure DrawnApart (store : UserStore) (requests : List Request) :
    Prop where
  stored : store.codes.Nodup
  drawn : ∀ request ∈ requests, (request.kind.hashes.getD []).Nodup
  new : ∀ request ∈ requests,
    store.codes.Disjoint (request.kind.hashes.getD [])
  apart : requests.Pairwise (fun first second =>
    (first.kind.hashes.getD []).Disjoint (second.kind.hashes.getD []))

/-! ## What a request comes to hold -/

variable {read : User} {used : Option Used} {code : Used} {fails : Bool}
  {store : UserStore} {stage : Stage} {state : MfaState} {act : Act}

section Held

variable {checks : Checks} {request : Request}

theorem held_rejected (read : User) : held (rejected request read) = none := by
  obtain ⟨kind, now⟩ := request
  cases kind <;> rfl

theorem spent_rejected (read : User) :
    spent (rejected request read) = none := by
  obtain ⟨kind, now⟩ := request
  cases kind <;> rfl

theorem held_accepted
    {user : User}
    (made : held (accepted request read user used) = some code) :
    used = some code := by
  obtain ⟨kind, now⟩ := request
  cases kind <;> first | exact made | cases made

theorem spent_accepted (read user : User) (used : Option Used) :
    spent (accepted request read user used) = none := by
  obtain ⟨kind, now⟩ := request
  cases kind <;> rfl

theorem held_tryCode
    {code : String} {step : Int} :
    held (tryCode checks request read code) ≠ some (.totp step) := by
  unfold tryCode
  split
  · simp [held_rejected]
  · simp [held]
  · intro made
    cases held_accepted made

theorem spent_tryCode (read : User) (code : String) :
    spent (tryCode checks request read code) = none := by
  unfold tryCode
  split
  · exact spent_rejected read
  · rfl
  · exact spent_accepted _ _ _

theorem held_unlocked {step : Int} :
    held (unlocked checks request read) ≠ some (.totp step) := by
  unfold unlocked
  split
  · exact held_tryCode
  · intro made
    cases held_accepted made
  · simp [held_rejected]

theorem spent_unlocked (read : User) :
    spent (unlocked checks request read) = none := by
  unfold unlocked
  split
  · exact spent_tryCode _ _
  · exact spent_accepted _ _ _
  · exact spent_rejected read

theorem held_loaded
    (plain : request.kind.hashes = none) {step : Int} :
    held (loaded checks request read) ≠ some (.totp step) := by
  unfold loaded
  split
  · split_ifs <;> simp [held]
  · split_ifs
    · simp [held]
    · simp [held]
    · exact held_tryCode
  · split_ifs <;> simp [held]
  · rename_i code hashes same
    rw [same] at plain
    cases plain
  · split_ifs
    · simp [held]
    · simp [held]
    · exact held_tryCode
  · split_ifs <;> simp [held]
  · split_ifs <;> simp [held]
  · simp [held]
  · simp [held]
  · simp [held]

theorem spent_loaded (read : User) :
    spent (loaded checks request read) = none := by
  unfold loaded
  split
  · split_ifs <;> rfl
  · split_ifs
    · rfl
    · rfl
    · exact spent_tryCode _ _
  · split_ifs <;> rfl
  · split_ifs
    · rfl
    · split <;> rfl
  · split_ifs
    · rfl
    · rfl
    · exact spent_tryCode _ _
  · split_ifs <;> rfl
  · split_ifs <;> rfl
  · rfl
  · rfl
  · rfl

/-- Behind a write that fails, only a step-up is accepted for its code. -/
theorem spent_saved
    {proved written : Bool}
    (made : spent (saved request used proved written) = some code) :
    used = some code ∧ (written = true ∨ request.kind.isStepUp = true) := by
  obtain ⟨kind, now⟩ := request
  cases kind <;> cases proved <;> cases written <;> first
    | exact ⟨made, .inl rfl⟩
    | exact ⟨made, .inr rfl⟩
    | cases made

theorem held_saved
    {proved written : Bool}
    (made : held (saved request used proved written) = some code) :
    used = some code := by
  obtain ⟨kind, now⟩ := request
  cases kind <;> cases proved <;> cases written <;> first
    | exact made
    | cases made

/-- A request without an enrolment holds a step that it has claimed. -/
theorem held_advance
    (plain : request.kind.hashes = none) {step : Int}
    (made : held (advance checks request fails store stage).2 = some (.totp
      step)) :
    held stage = some (.totp step) ∨
      ∃ stored, store.user = some stored ∧ stored.totpLastStep < step ∧
        (advance checks request fails store stage).1.user =
          some { stored with totpLastStep := step } := by
  cases stage with
  | start =>
    unfold advance at made
    dsimp only at made
    split at made
    · cases made
    · exact absurd made (held_loaded plain)
  | checking read =>
    unfold advance at made
    dsimp only at made
    split_ifs at made
    · cases made
    · exact absurd made held_unlocked
  | claiming read claim =>
    unfold advance at made ⊢
    dsimp only at made ⊢
    cases fails with
    | true =>
      rw [if_pos rfl, held_rejected] at made
      cases made
    | false =>
      obtain refused | ⟨stored, here, later, claimed⟩ :=
        claimTOTPStep_cases store claim
      · rw [refused] at made
        change held (rejected request read) = _ at made
        rw [held_rejected] at made
        cases made
      · rw [claimed] at made ⊢
        cases held_accepted made
        exact .inr ⟨stored, here, later, rfl⟩
  | noting read => cases made
  | clearing read user used => exact .inl made
  | saving read user used proved =>
    unfold advance at made
    dsimp only at made
    split at made
    · exact .inl (held_saved made)
    · exact .inl (held_saved made)
  | issuing used =>
    cases fails with
    | true => cases made
    | false => exact .inl made
  | resetting => cases made
  | done reply => exact .inl made

/-- A request is accepted for a code when it writes its record back. -/
theorem spent_advance
    (made : spent (advance checks request fails store stage).2 = some code) :
    spent stage = some code ∨
      ∃ read user proved, stage = .saving read user (some code) proved ∧
        (fails = true → request.kind.isStepUp = true) := by
  cases stage with
  | start =>
    unfold advance at made
    dsimp only at made
    split at made
    · cases made
    · rw [spent_loaded] at made
      cases made
  | checking read =>
    unfold advance at made
    dsimp only at made
    split_ifs at made
    · cases made
    · rw [spent_unlocked] at made
      cases made
  | claiming read claim =>
    unfold advance at made
    dsimp only at made
    split_ifs at made
    · rw [spent_rejected] at made
      cases made
    · split at made
      · rw [spent_accepted] at made
        cases made
      · rw [spent_rejected] at made
        cases made
  | noting read => cases made
  | clearing read user used => cases made
  | saving read user used proved =>
    unfold advance at made
    dsimp only at made
    split at made
    · rename_i written found
      obtain ⟨rfl, _⟩ := spent_saved made
      refine .inr ⟨read, user, proved, rfl, fun failing => ?_⟩
      rw [if_pos failing] at found
      cases found
    · obtain ⟨rfl, stepUp⟩ := spent_saved made
      exact .inr ⟨read, user, proved, rfl,
        fun _ => stepUp.resolve_left (by simp)⟩
  | issuing used =>
    cases fails with
    | true => cases made
    | false => exact .inl made
  | resetting => cases made
  | done reply => exact .inl made

/-- A request that has returned does not run again. -/
theorem running_of_advance
    (later : (advance checks request fails store stage).2.running = true) :
    stage.running = true := by
  cases stage <;> first | rfl | cases later

/-- An enrolment returns behind its write. -/
theorem running_saved
    {hashes : List String} (enrols : request.kind.hashes = some hashes)
    (used : Option Used) (proved written : Bool) :
    (saved request used proved written).running = false := by
  obtain ⟨kind, now⟩ := request
  cases kind with
  | verifyEnroll code others => cases written <;> rfl
  | _ => cases enrols

end Held

/-! ## Time steps -/

/-- The steps that were claimed by the requests that hold them. -/
structure Claimed (state : MfaState) : Prop where
  bounded : ∀ (index : Nat) session step,
    state.sessions[index]? = some session →
    session.request.kind.hashes = none →
    held session.stage = some (.totp step) →
    ∃ user, state.store.user = some user ∧ step ≤ user.totpLastStep
  once : ∀ (index other : Nat) session second step,
    state.sessions[index]? = some session →
    state.sessions[other]? = some second →
    session.request.kind.hashes = none →
    second.request.kind.hashes = none →
    held session.stage = some (.totp step) →
    held second.stage = some (.totp step) → index = other

/-- The last step that was claimed never falls without a reset. -/
theorem Effect.totpLastStep_le
    {request : Request} {after : UserStore}
    (effect : Effect request fails store after stage)
    (resets : stage ≠ .resetting) {stored : User}
    (here : store.user = some stored) :
    ∃ user, after.user = some user ∧
      stored.totpLastStep ≤ user.totpLastStep := by
  cases effect with
  | quiet same idle => exact ⟨stored, same.trans here, le_refl _⟩
  | claimed found later made =>
    cases here.symm.trans found
    exact ⟨_, made, later.le⟩
  | written found works made =>
    cases here.symm.trans found
    exact ⟨_, made, le_max_left _ _⟩
  | reset made => exact absurd rfl resets

theorem Claimed.step
    {checks : Checks} (claimed : Claimed state)
    (resets : ∀ session ∈ state.sessions, session.stage ≠ .resetting) :
    Claimed (step checks state act) := by
  cases found : state.sessions[act.index]? with
  | none => rwa [step_of_absent found]
  | some moving =>
    have grows := fun stored (here : state.store.user = some stored) =>
      (advance_effect checks moving.request act.fails state.store
        moving.stage).totpLastStep_le
        (resets moving (List.mem_of_getElem? found)) here
    -- a step that is claimed now is later than all that are held
    have claims : ∀ step other second, moving.request.kind.hashes = none →
        held (advance checks moving.request act.fails state.store
          moving.stage).2 = some (.totp step) →
        other ≠ act.index → state.sessions[other]? = some second →
        second.request.kind.hashes = none →
        held second.stage ≠ some (.totp step) := by
      intro step other second plain made distinct there plain' also
      obtain before | ⟨stored, here, later, _⟩ := held_advance plain made
      · exact distinct (claimed.once other act.index second moving step
          there found plain' plain also before)
      · obtain ⟨user, same, below⟩ :=
          claimed.bounded other second step there plain' also
        cases here.symm.trans same
        omega
    refine ⟨?_, ?_⟩
    · intro index session step there plain holds
      rw [step_store found]
      obtain ⟨_, rfl⟩ | ⟨_, before⟩ := step_session_cases found there
      · obtain before | ⟨stored, here, later, made⟩ :=
          held_advance plain holds
        · obtain ⟨stored, here, below⟩ :=
            claimed.bounded act.index moving step found plain before
          obtain ⟨user, same, above⟩ := grows stored here
          exact ⟨user, same, below.trans above⟩
        · exact ⟨_, made, le_refl _⟩
      · obtain ⟨stored, here, below⟩ :=
          claimed.bounded index session step before plain holds
        obtain ⟨user, same, above⟩ := grows stored here
        exact ⟨user, same, below.trans above⟩
    · intro index other session second step there there' plain plain' one two
      obtain ⟨rfl, rfl⟩ | ⟨distinct, before⟩ := step_session_cases found there
      · obtain ⟨rfl, rfl⟩ | ⟨distinct', before'⟩ :=
          step_session_cases found there'
        · rfl
        · exact absurd two (claims step other second plain one distinct'
            before' plain')
      · obtain ⟨rfl, rfl⟩ | ⟨distinct', before'⟩ :=
          step_session_cases found there'
        · exact absurd one (claims step index session plain' two distinct
            before plain)
        · exact claimed.once index other session second step before before'
            plain plain' one two

/-! ## Recovery codes -/

/-- The recovery codes that were accepted are gone for good. -/
structure Consumed (state : MfaState) : Prop where
  nodup : state.store.codes.Nodup
  new : ∀ (index : Nat) session, state.sessions[index]? = some session →
    session.stage.running = true →
    state.store.codes.Disjoint (session.request.kind.hashes.getD [])
  gone : ∀ (index : Nat) session hash,
    state.sessions[index]? = some session →
    spent session.stage = some (.recovery hash) →
    hash ∉ state.store.codes ∧
      ∀ (other : Nat) second, state.sessions[other]? = some second →
        second.stage.running = true →
        hash ∉ second.request.kind.hashes.getD []
  once : ∀ (index other : Nat) session second hash,
    state.sessions[index]? = some session →
    state.sessions[other]? = some second →
    spent session.stage = some (.recovery hash) →
    spent second.stage = some (.recovery hash) → index = other

/-- What an undisturbed call does to the recovery codes in the store. -/
inductive CodesChange (request : Request) (store after : UserStore)
    (stage next : Stage) : Prop where
  | same (codes : after.codes = store.codes)
      (spends : ∀ hash, spent next = some (.recovery hash) →
        spent stage = some (.recovery hash))
  | removed (plain : request.kind.hashes = none) (used : Option Used)
      (fewer : (taken used ++ after.codes).Subperm store.codes)
      (spends : ∀ hash, spent next = some (.recovery hash) →
        used = some (.recovery hash))
  | drawn (hashes : List String) (enrols : request.kind.hashes = some hashes)
      (codes : after.codes = hashes) (began : stage.running = true)
      (returned : next.running = false)
      (spends : ∀ hash, spent next ≠ some (.recovery hash))

theorem Effect.codes_same
    {request : Request} {after : UserStore}
    (effect : Effect request fails store after stage)
    (reads : ∀ read user used proved,
      stage = .saving read user used proved → fails = true) :
    after.codes = store.codes := by
  cases effect with
  | quiet same idle => rw [UserStore.codes, same, UserStore.codes]
  | claimed found later made =>
    rw [UserStore.codes, made, UserStore.codes, found]
    rfl
  | written found works made =>
    rw [reads _ _ _ _ rfl] at works
    cases works
  | reset made =>
    rw [UserStore.codes, made, Option.map_map]
    rfl

theorem codesChange_of_undisturbed
    (checks : Checks) {moving : Session}
    (found : state.sessions[act.index]? = some moving)
    (sound : Sound moving.request moving.stage)
    (calm : undisturbed state act = true) :
    CodesChange moving.request state.store
      (advance checks moving.request act.fails state.store moving.stage).1
      moving.stage
      (advance checks moving.request act.fails state.store
        moving.stage).2 := by
  obtain ⟨request, stage⟩ := moving
  have effect := advance_effect checks request act.fails state.store stage
  by_cases writes : ∃ read user used proved,
      stage = .saving read user used proved ∧ act.fails = false
  · obtain ⟨read, user, used, proved, rfl, works⟩ := writes
    have calm' : state.store.user.map User.recoveryCodes =
        some read.recoveryCodes := by
      simpa [undisturbed, found, works] using calm
    obtain ⟨stored, here, same⟩ := Option.map_eq_some_iff.mp calm'
    have result : advance checks request act.fails state.store
        (.saving read user used proved) =
          ({ state.store with user := some { user with
              totpLastStep := max stored.totpLastStep user.totpLastStep } },
            saved request used proved true) := by
      simp [advance, works, UserStore.updateUser, here]
    have before : state.store.codes = read.recoveryCodes := by
      rw [UserStore.codes, calm']
      rfl
    rw [result]
    cases enrols : request.kind.hashes with
    | none =>
      refine .removed enrols used ?_ fun hash made => (spent_saved made).1
      rw [before]
      exact sound.codes enrols
    | some hashes =>
      obtain ⟨codes, nothing⟩ := sound.enrolled hashes enrols
      refine .drawn hashes enrols codes rfl
        (running_saved enrols used proved true) fun hash made => ?_
      rw [(spent_saved made).1] at nothing
      cases nothing
  · refine .same (effect.codes_same fun read user used proved made => ?_)
      fun hash made => ?_
    · by_contra works
      exact writes ⟨read, user, used, proved, made, by simpa using works⟩
    · obtain before | ⟨read, user, proved, rfl, stepUp⟩ := spent_advance made
      · exact before
      · -- a step-up whose write fails has taken no recovery code
        have failing : act.fails = true := by
          by_contra works
          exact writes ⟨read, user, _, proved, rfl, by simpa using works⟩
        simp [undisturbed, found, failing, stepUp failing, taken] at calm

section Consumed

variable {checks : Checks} {state : MfaState} {act : Act} {moving : Session}

section

variable (consumed : Consumed state)
  (found : state.sessions[act.index]? = some moving)

include consumed found

theorem Consumed.of_same
    (codes : (step checks state act).store.codes = state.store.codes)
    (spends : ∀ hash, spent (advance checks moving.request act.fails
      state.store moving.stage).2 = some (.recovery hash) → spent moving.stage
      = some (.recovery hash)) :
    Consumed (step checks state act) := by
  -- every session comes from one that ran and spent at least as much
  have origin : ∀ (index : Nat) session,
      (step checks state act).sessions[index]? = some session →
      ∃ before, state.sessions[index]? = some before ∧
        before.request = session.request ∧
        (session.stage.running = true → before.stage.running = true) ∧
        ∀ hash, spent session.stage = some (.recovery hash) →
          spent before.stage = some (.recovery hash) := by
    intro index session there
    obtain ⟨rfl, rfl⟩ | ⟨_, before⟩ := step_session_cases found there
    · exact ⟨moving, found, rfl, running_of_advance, spends⟩
    · exact ⟨session, before, rfl, id, fun _ => id⟩
  refine ⟨?_, ?_, ?_, ?_⟩
  · rw [codes]
    exact consumed.nodup
  · intro index session there running
    obtain ⟨before, here, same, ran, _⟩ := origin index session there
    rw [codes, ← same]
    exact consumed.new index before here (ran running)
  · intro index session hash there made
    obtain ⟨before, here, _, _, had⟩ := origin index session there
    obtain ⟨absent, later⟩ :=
      consumed.gone index before hash here (had hash made)
    rw [codes]
    refine ⟨absent, fun other second there' running => ?_⟩
    obtain ⟨before', here', same', ran', _⟩ := origin other second there'
    rw [← same']
    exact later other before' here' (ran' running)
  · intro index other session second hash there there' one two
    obtain ⟨before, here, _, _, had⟩ := origin index session there
    obtain ⟨before', here', _, _, had'⟩ := origin other second there'
    exact consumed.once index other before before' hash here here'
      (had hash one) (had' hash two)

omit consumed found in
theorem nodup_of_subperm
    {codes others : List String} (fewer : codes.Subperm others)
    (nodup : others.Nodup) : codes.Nodup := by
  obtain ⟨middle, same, inside⟩ := fewer
  exact same.nodup_iff.mp (nodup.sublist inside)

theorem Consumed.of_removed
    (plain : moving.request.kind.hashes = none)
    (fewer : (taken used ++ (step checks state act).store.codes).Subperm
      state.store.codes)
    (spends : ∀ hash, spent (advance checks moving.request act.fails
      state.store moving.stage).2 = some (.recovery hash) → used = some
      (.recovery hash)) :
    Consumed (step checks state act) := by
  have nodup := nodup_of_subperm fewer consumed.nodup
  have inside : ∀ hash ∈ (step checks state act).store.codes,
      hash ∈ state.store.codes := fun hash member =>
    fewer.subset (List.mem_append_right _ member)
  -- the code that is accepted now was in the store and is not any more
  have accepts : ∀ hash, spent (advance checks moving.request act.fails
      state.store moving.stage).2 = some (.recovery hash) →
      hash ∈ state.store.codes ∧
        hash ∉ (step checks state act).store.codes := by
    intro hash made
    rw [spends hash made] at fewer nodup
    exact ⟨fewer.subset List.mem_cons_self, (List.nodup_cons.mp nodup).1⟩
  refine ⟨nodup.of_append_right, ?_, ?_, ?_⟩
  · intro index session there running
    obtain ⟨_, rfl⟩ | ⟨_, before⟩ := step_session_cases found there
    · simp [plain]
    · intro hash member
      exact consumed.new index session before running (inside hash member)
  · intro index session hash there made
    obtain ⟨_, rfl⟩ | ⟨_, before⟩ := step_session_cases found there
    · obtain ⟨was, absent⟩ := accepts hash made
      refine ⟨absent, fun other second there' running => ?_⟩
      obtain ⟨_, rfl⟩ | ⟨_, before'⟩ := step_session_cases found there'
      · simp [plain]
      · exact consumed.new other second before' running was
    · obtain ⟨absent, later⟩ := consumed.gone index session hash before made
      refine ⟨fun member => absent (inside hash member),
        fun other second there' running => ?_⟩
      obtain ⟨_, rfl⟩ | ⟨_, before'⟩ := step_session_cases found there'
      · simp [plain]
      · exact later other second before' running
  · intro index other session second hash there there' one two
    obtain ⟨rfl, rfl⟩ | ⟨_, before⟩ := step_session_cases found there
    · obtain ⟨rfl, rfl⟩ | ⟨_, before'⟩ := step_session_cases found there'
      · rfl
      · exact absurd (accepts hash one).1
          (consumed.gone other second hash before' two).1
    · obtain ⟨rfl, rfl⟩ | ⟨_, before'⟩ := step_session_cases found there'
      · exact absurd (accepts hash two).1
          (consumed.gone index session hash before one).1
      · exact consumed.once index other session second hash before before'
          one two

theorem Consumed.of_drawn
    {hashes : List String} (enrols : moving.request.kind.hashes = some hashes)
    (nodup : hashes.Nodup)
    (apart : ∀ (other : Nat) second, other ≠ act.index →
      state.sessions[other]? = some second → hashes.Disjoint
      (second.request.kind.hashes.getD []))
    (codes : (step checks state act).store.codes = hashes)
    (began : moving.stage.running = true)
    (returned : (advance checks moving.request act.fails state.store
      moving.stage).2.running = false)
    (spends : ∀ hash, spent (advance checks moving.request act.fails
      state.store moving.stage).2 ≠ some (.recovery hash)) :
    Consumed (step checks state act) := by
  refine ⟨?_, ?_, ?_, ?_⟩
  · rwa [codes]
  · intro index session there running
    obtain ⟨_, rfl⟩ | ⟨distinct, before⟩ := step_session_cases found there
    · rw [returned] at running
      cases running
    · rw [codes]
      exact apart index session distinct before
  · intro index session hash there made
    obtain ⟨_, rfl⟩ | ⟨_, before⟩ := step_session_cases found there
    · exact absurd made (spends hash)
    · obtain ⟨_, later⟩ := consumed.gone index session hash before made
      refine ⟨?_, fun other second there' running => ?_⟩
      · have absent := later act.index moving found began
        rwa [enrols, ← codes] at absent
      · obtain ⟨_, rfl⟩ | ⟨_, before'⟩ := step_session_cases found there'
        · rw [returned] at running
          cases running
        · exact later other second before' running
  · intro index other session second hash there there' one two
    obtain ⟨_, rfl⟩ | ⟨_, before⟩ := step_session_cases found there
    · exact absurd one (spends hash)
    · obtain ⟨_, rfl⟩ | ⟨_, before'⟩ := step_session_cases found there'
      · exact absurd two (spends hash)
      · exact consumed.once index other session second hash before before'
          one two

end

end Consumed

theorem pairwise_of_ne
    {related : Request → Request → Prop} {requests : List Request}
    (pairs : requests.Pairwise related)
    (symmetric : ∀ first second, related first second → related second first)
    {index other : Nat} {first second : Request} (distinct : index ≠ other)
    (here : requests[index]? = some first)
    (there : requests[other]? = some second) : related first second := by
  obtain ⟨bound, rfl⟩ := List.getElem?_eq_some_iff.mp here
  obtain ⟨bound', rfl⟩ := List.getElem?_eq_some_iff.mp there
  obtain before | after := Nat.lt_or_gt_of_ne distinct
  · exact List.pairwise_iff_getElem.mp pairs index other bound bound' before
  · exact symmetric _ _
      (List.pairwise_iff_getElem.mp pairs other index bound' bound after)

/-! ## Whole runs -/

/-- What holds in every state of an undisturbed run without a reset. -/
structure UsedOnce (requests : List Request) (state : MfaState) : Prop where
  requests_eq : state.sessions.map Session.request = requests
  sound : ∀ session ∈ state.sessions, Sound session.request session.stage
  claimed : Claimed state
  consumed : Consumed state

section Runs

variable {checks : Checks} {store : UserStore} {requests : List Request}

theorem usedOnce_opened (drawn : DrawnApart store requests) :
    UsedOnce requests (opened store requests) := by
  have begins : ∀ (index : Nat) session,
      (opened store requests).sessions[index]? = some session →
      session.request ∈ requests ∧ session.stage = .start := by
    intro index session there
    obtain ⟨request, member, rfl⟩ :=
      List.mem_map.mp (List.mem_of_getElem? there)
    exact ⟨member, rfl⟩
  refine ⟨by simp [opened, Function.comp_def], sound_opened store requests,
    ⟨?_, ?_⟩, ⟨drawn.stored, ?_, ?_, ?_⟩⟩
  · intro index session step there _ holds
    rw [(begins index session there).2] at holds
    cases holds
  · intro index other session second step there _ _ _ holds
    rw [(begins index session there).2] at holds
    cases holds
  · intro index session there _
    exact drawn.new session.request (begins index session there).1
  · intro index session hash there made
    rw [(begins index session there).2] at made
    cases made
  · intro index other session second hash there _ made
    rw [(begins index session there).2] at made
    cases made

theorem usedOnce_step
    (once : UsedOnce requests state)
    (resets : ∀ request ∈ requests, request.kind ≠ .resetMFA)
    (drawn : DrawnApart store requests)
    (calm : undisturbed state act = true) :
    UsedOnce requests (step checks state act) := by
  have known : ∀ (index : Nat) session,
      state.sessions[index]? = some session →
      requests[index]? = some session.request := by
    intro index session there
    rw [← once.requests_eq, List.getElem?_map, there]
    rfl
  refine ⟨step_requests.trans once.requests_eq, sound_step once.sound,
    once.claimed.step fun session member same => ?_, ?_⟩
  · have sound := once.sound session member
    rw [same] at sound
    obtain ⟨index, there⟩ := List.mem_iff_getElem?.mp member
    exact resets _ (List.mem_of_getElem? (known index session there)) sound
  · cases found : state.sessions[act.index]? with
    | none =>
      rw [step_of_absent found]
      exact once.consumed
    | some moving =>
      have change := codesChange_of_undisturbed checks found
        (once.sound moving (List.mem_of_getElem? found)) calm
      rw [← step_store found] at change
      cases change with
      | same codes spends => exact once.consumed.of_same found codes spends
      | removed plain used fewer spends =>
        exact once.consumed.of_removed found plain fewer spends
      | drawn hashes enrols codes began returned spends =>
        refine once.consumed.of_drawn found enrols ?_ ?_ codes began
          returned spends
        · have nodup := drawn.drawn _
            (List.mem_of_getElem? (known act.index moving found))
          rwa [enrols] at nodup
        · intro other second distinct there
          have apart := pairwise_of_ne drawn.apart
            (fun _ _ => List.disjoint_comm.mp) distinct.symm
            (known act.index moving found) (known other second there)
          rwa [enrols] at apart

/--
In an undisturbed run without a reset, when no code is presented near an
enrolment, every time step and every recovery code is accepted by one request
at most.
-/
theorem code_accepted_once
    {acts : List Act}
    (resets : ∀ request ∈ requests, request.kind ≠ .resetMFA)
    (drawn : DrawnApart store requests) (apart : EnrolmentsApart requests)
    (calm : Guarded (step checks) (fun state act => undisturbed state act =
      true) (opened store requests) acts) {index other : Nat} {used : Used}
    (one : Accepts (run checks store requests acts) index used)
    (two : Accepts (run checks store requests acts) other used) :
    index = other := by
  have once : UsedOnce requests (run checks store requests acts) :=
    calm.invariant (usedOnce_opened drawn)
      fun state act held calm => usedOnce_step held resets drawn calm
  obtain ⟨session, there, done⟩ := Option.map_eq_some_iff.mp one
  obtain ⟨second, there', done'⟩ := Option.map_eq_some_iff.mp two
  cases used with
  | recovery hash =>
    refine once.consumed.once index other session second hash there there'
      ?_ ?_
    · rw [done]
      rfl
    · rw [done']
      rfl
  | totp step =>
    have sound := once.sound session (List.mem_of_getElem? there)
    have sound' := once.sound second (List.mem_of_getElem? there')
    rw [done] at sound
    rw [done'] at sound'
    have near := sound step rfl
    have near' := sound' step rfl
    by_contra distinct
    by_cases plain : session.request.kind.hashes = none ∧
        second.request.kind.hashes = none
    · refine distinct (once.claimed.once index other session second step
        there there' plain.1 plain.2 ?_ ?_)
      · rw [done]
        rfl
      · rw [done']
        rfl
    · have known := once.requests_eq ▸ apart
      have far := pairwise_of_ne known
        (fun first second related presents presents' enrols =>
          (related presents' presents enrols.symm).symm) distinct
        (by rw [List.getElem?_map, there]; rfl)
        (by rw [List.getElem?_map, there']; rfl)
        near.presents near'.presents (by tauto)
      have lower := near.lower
      have upper := near.upper
      have lower' := near'.lower
      have upper' := near'.upper
      omega

end Runs

/-! ## Two requests for one code -/

/-- Codes that spell their time step, and hashes that spell their code. -/
def plainChecks : Checks where
  decrypt := some
  totpCode _ step := some (if step = 100 then "100100" else "other")
  checkPassword hash password := hash = password
  checkRecoveryCode hash code := hash = code
  hasCredentials text := text ≠ ""

/-- A moment of the time step. -/
def momentOf (step : Int) : Time := step * 30000000000

/-- A user whose second factor is set up. -/
def enrolledUser : User where
  passwordHash := "password"
  role := "user"
  status := .active
  mfaEnabled := true
  totpSecret := "secret"
  recoveryCodes := ["first", "second"]
  webAuthnCredentials := ""
  totpLastStep := 0
  idPMFA := false
  mfaResetRequired := false
  lastLogin := none

/-- The user before the enrolment is verified. -/
def enrollingUser : User :=
  { enrolledUser with mfaEnabled := false, recoveryCodes := [] }

/-- The next calls of requests, none of which fails. -/
def calls (indices : List Nat) : List Act :=
  indices.map (fun index => ⟨index, false⟩)

/--
The code that verifies an enrolment is accepted again by a login, and two
logins that overlap are accepted for the same recovery code.
-/
theorem codes_accepted_twice :
    (Accepts (run plainChecks ⟨some enrollingUser, .clear⟩
        [⟨.verifyEnroll "100100" ["first"], momentOf 100⟩,
          ⟨.mfaLogin "100100", momentOf 100⟩] (calls [0, 0, 1, 1, 1]))
        0 (.totp 100) ∧
      Accepts (run plainChecks ⟨some enrollingUser, .clear⟩
        [⟨.verifyEnroll "100100" ["first"], momentOf 100⟩,
          ⟨.mfaLogin "100100", momentOf 100⟩] (calls [0, 0, 1, 1, 1]))
        1 (.totp 100)) ∧
    (Accepts (run plainChecks ⟨some enrolledUser, .clear⟩
        [⟨.mfaLogin "first", momentOf 100⟩,
          ⟨.mfaLogin "first", momentOf 100⟩] (calls [0, 1, 0, 1]))
        0 (.recovery "first") ∧
      Accepts (run plainChecks ⟨some enrolledUser, .clear⟩
        [⟨.mfaLogin "first", momentOf 100⟩,
          ⟨.mfaLogin "first", momentOf 100⟩] (calls [0, 1, 0, 1]))
        1 (.recovery "first")) := by
  refine ⟨⟨?_, ?_⟩, ?_, ?_⟩ <;> decide

/-- An enrolment, and logins for a time step and for a recovery code. -/
def oneByOne : List Request :=
  [⟨.verifyEnroll "other" ["third"], momentOf 90⟩,
    ⟨.mfaLogin "100100", momentOf 100⟩,
    ⟨.stepUp "third", momentOf 100⟩, ⟨.mfaLogin "100100", momentOf 101⟩]

/-- The requests one by one, apart from two logins that overlap. -/
def afterOneByOne : MfaState :=
  run plainChecks ⟨some enrollingUser, .clear⟩ oneByOne
    (calls [0, 0, 1, 3, 1, 3, 1, 2, 2, 2, 2, 2])

theorem code_accepted_one_by_one :
    Accepts afterOneByOne 1 (.totp 100) ∧
      Accepts afterOneByOne 2 (.recovery "third") ∧
      ∀ index other used, Accepts afterOneByOne index used →
        Accepts afterOneByOne other used → index = other := by
  refine ⟨by decide, by decide, ?_⟩
  intro index other used one two
  refine code_accepted_once ?_ ?_ ?_ ?_ one two
  · simp [oneByOne]
  · refine ⟨?_, ?_, ?_, ?_⟩ <;>
      simp [oneByOne, UserStore.codes, enrollingUser, Kind.hashes]
  · unfold EnrolmentsApart
    decide
  · decide

end DataSafe.Mfa
