import DataSafe.Mfa.SingleUse

/-!
# Changes of an administrator

Logins and step-ups write the whole record of a user back, a failed step-up
as well, and so undo what an administrator has stored since they read it.
The change of an administrator lasts in the runs where a login or a step-up
finds the settings of the user as it read them when it writes.
-/

namespace DataSafe.Mfa

open Base Metadata

/-- Requests of an administrator. -/
def Kind.administers : Kind → Bool
  | .updateUser _ _ => true
  | .resetPassword _ => true
  | .resetMFA => true
  | _ => false

/-- The record that an administrator stores in a step. -/
def adminWrite (state : MfaState) (act : Act) : Option User :=
  match state.sessions[act.index]? with
  | some ⟨request, .saving _ user _ _⟩ =>
    if request.kind.administers && !act.fails then some user else none
  | _ => none

/-- The record that the last administrator of a run has stored. -/
def lastAdminWrite (checks : Checks) :
    MfaState → List Act → Option User
  | _, [] => none
  | state, act :: rest =>
    (lastAdminWrite checks (step checks state act) rest).or
      (adminWrite state act)

/--
The settings and the recovery codes are those that a login or a step-up has
read, when it writes its record back; codes may have been added.
-/
def readsCurrent (state : MfaState) (act : Act) : Bool :=
  match state.sessions[act.index]?, state.store.user with
  | some ⟨request, .saving read _ _ _⟩, some stored =>
    !request.kind.attempts || act.fails ||
      (stored.standing = read.standing &&
        read.recoveryCodes.all (stored.recoveryCodes.contains ·))
  | _, _ => true

/-- A record has the settings of another, and no other recovery codes. -/
structure Keeps (stored reference : User) : Prop where
  standing : stored.standing = reference.standing
  codes : stored.recoveryCodes ⊆ reference.recoveryCodes

theorem Keeps.trans
    {first second third : User} (one : Keeps first second)
    (two : Keeps second third) : Keeps first third :=
  ⟨one.standing.trans two.standing, List.Subset.trans one.codes two.codes⟩

theorem Keeps.refl (user : User) : Keeps user user :=
  ⟨rfl, List.Subset.refl _⟩

/-- A claimed time step changes nothing else. -/
theorem keeps_totpLastStep (user : User) (step : Int) :
    Keeps { user with totpLastStep := step } user :=
  ⟨rfl, List.Subset.refl _⟩

/-- The record of a login or of a step-up keeps the one that was read. -/
theorem Follows.keeps
    {request : Request} {read user : User} {used : Option Used}
    (follows : Follows request read user used)
    (attempt : request.kind.attempts = true) : Keeps user read := by
  refine ⟨follows.standing attempt, fun hash member => ?_⟩
  have plain : request.kind.hashes = none := by
    obtain ⟨kind, now⟩ := request
    cases kind <;> first | rfl | cases attempt
  exact (follows.codes plain).subset (List.mem_append_right _ member)

section Steps

variable {state : MfaState} {act : Act} {reference : User}

/-- An administrator's record, or what is there already, is kept. -/
theorem keeps_step
    (checks : Checks)
    (sound : ∀ session ∈ state.sessions, Sound session.request session.stage)
    (kinds : ∀ session ∈ state.sessions, (session.request.kind.attempts ||
      session.request.kind.administers) = true)
    (current : readsCurrent state act = true) {stored : User}
    (here : state.store.user = some stored) (kept : Keeps stored reference) :
    ∃ after, (step checks state act).store.user = some after ∧
      Keeps after ((adminWrite state act).getD reference) := by
  cases found : state.sessions[act.index]? with
  | none =>
    rw [step_of_absent found]
    refine ⟨stored, here, ?_⟩
    simpa [adminWrite, found] using kept
  | some session =>
    obtain ⟨request, stage⟩ := session
    have member := List.mem_of_getElem? found
    rw [step_store found]
    have effect := advance_effect checks request act.fails state.store stage
    generalize (advance checks request act.fails state.store stage).1 =
      result at effect ⊢
    cases effect with
    | quiet same idle =>
      refine ⟨stored, same.trans here, ?_⟩
      have nothing : adminWrite state act = none := by
        unfold adminWrite
        rw [found]
        split
        · rename_i there
          cases there
          obtain other | failing | absent := idle
          · cases other
          · simp [failing]
          · rw [here] at absent
            cases absent
        · rfl
      rwa [nothing]
    | claimed same later made =>
      cases here.symm.trans same
      refine ⟨_, made, ?_⟩
      simpa [adminWrite, found] using
        (keeps_totpLastStep stored _).trans kept
    | @written read user _ _ _ same works made =>
      refine ⟨_, made, (keeps_totpLastStep user _).trans ?_⟩
      cases admin : request.kind.administers with
      | true =>
        simpa [adminWrite, found, admin, works] using Keeps.refl user
      | false =>
        have attempt : request.kind.attempts = true := by
          simpa [admin] using kinds _ member
        have again : stored.standing = read.standing ∧
            ∀ hash ∈ read.recoveryCodes, hash ∈ stored.recoveryCodes := by
          simpa [readsCurrent, found, here, attempt, works]
            using current
        have follows : Keeps user read :=
          (sound _ member).keeps attempt
        have kept' : Keeps read stored := ⟨again.1.symm, again.2⟩
        simpa [adminWrite, found, admin] using
          (follows.trans kept').trans kept
    | reset made =>
      rw [here] at made
      refine ⟨_, made, ?_⟩
      simpa [adminWrite, found] using
        (keeps_totpLastStep stored 0).trans kept

end Steps

/--
In a run where logins and step-ups write records that are current, the
settings of the user are those that the last administrator has stored, and
there are no recovery codes but those of that record.
-/
theorem admin_changes_last
    {checks : Checks} {initial : User} {fails : FailRecord}
    {requests : List Request} {acts : List Act}
    (kinds : ∀ request ∈ requests, (request.kind.attempts ||
      request.kind.administers) = true)
    (current : Guarded (step checks) (fun state act => readsCurrent state act
      = true) (opened ⟨some initial, fails⟩ requests) acts) :
    ∃ stored, (run checks ⟨some initial, fails⟩ requests acts).store.user =
        some stored ∧
      Keeps stored ((lastAdminWrite checks
        (opened ⟨some initial, fails⟩ requests) acts).getD initial) := by
  -- the reference moves along the run with each write of an administrator
  have along : ∀ (acts : List Act) (state : MfaState) (stored reference : User),
      Guarded (step checks) (fun state act => readsCurrent state act = true)
        state acts →
      (∀ session ∈ state.sessions, Sound session.request session.stage) →
      state.sessions.map Session.request = requests →
      state.store.user = some stored → Keeps stored reference →
      ∃ after, (runAll (step checks) state acts).store.user = some after ∧
        Keeps after ((lastAdminWrite checks state acts).getD reference) := by
    intro acts
    induction acts with
    | nil =>
      intro state stored reference _ _ _ here kept
      exact ⟨stored, here, kept⟩
    | cons act rest induction =>
      intro state stored reference current sound same here kept
      obtain ⟨now, later⟩ := guarded_cons_iff.mp current
      obtain ⟨after, there, keeps⟩ := keeps_step checks sound
        (fun session member => kinds _
          (same ▸ List.mem_map_of_mem member)) now here kept
      obtain ⟨final, done, keeps'⟩ := induction (step checks state act)
        after _ later (sound_step sound) (step_requests.trans same) there
        keeps
      refine ⟨final, done, ?_⟩
      unfold lastAdminWrite
      cases last : lastAdminWrite checks (step checks state act) rest with
      | none => rwa [last] at keeps'
      | some written => rwa [last] at keeps'
  exact along acts _ initial initial current (sound_opened _ requests)
    (by simp [opened, Function.comp_def]) rfl (Keeps.refl initial)

/-! ## A change that is undone -/

/--
A step-up that fails and has read the record before an administrator suspends
the user makes the user active again, and it undoes a reset of the second
factor.
-/
theorem suspension_undone :
    (let requests : List Request :=
        [⟨.stepUp "wrong", momentOf 100⟩,
          ⟨.updateUser "" (some .suspended), momentOf 100⟩]
      let acts := calls [0, 1, 1, 0, 0, 0]
      (lastAdminWrite plainChecks (opened ⟨some enrolledUser, .clear⟩ requests)
          acts).map User.status = some .suspended ∧
        (run plainChecks ⟨some enrolledUser, .clear⟩ requests
          acts).store.user.map User.status = some .active ∧
        (run plainChecks ⟨some enrolledUser, .clear⟩ requests
          acts).sessions.all (fun session => !session.stage.running) =
            true) ∧
    (let requests : List Request :=
        [⟨.stepUp "wrong", momentOf 100⟩, ⟨.resetMFA, momentOf 100⟩]
      let acts := calls [0, 1, 1, 1, 0, 0, 0]
      (lastAdminWrite plainChecks (opened ⟨some enrolledUser, .clear⟩ requests)
          acts).map User.mfaEnabled = some false ∧
        (run plainChecks ⟨some enrolledUser, .clear⟩ requests
          acts).store.user.map User.mfaEnabled = some true ∧
        (run plainChecks ⟨some enrolledUser, .clear⟩ requests
          acts).sessions.all (fun session => !session.stage.running) =
            true) := by
  decide

/-- A login and a failed step-up between changes of an administrator. -/
def changesInTurn : List Request :=
  [⟨.mfaLogin "100100", momentOf 100⟩,
    ⟨.updateUser "auditor" none, momentOf 100⟩,
    ⟨.stepUp "wrong", momentOf 101⟩,
    ⟨.resetPassword "other", momentOf 101⟩]

theorem admin_changes_last_in_turn :
    ∃ stored, (run plainChecks ⟨some enrolledUser, .clear⟩ changesInTurn
        (calls [0, 0, 0, 1, 1, 2, 3, 2, 2, 2, 3])).store.user = some stored ∧
      stored.standing = { enrolledUser.standing with
        role := "auditor"
        passwordHash := "other" } := by
  obtain ⟨stored, here, kept⟩ :
      ∃ stored, (run plainChecks ⟨some enrolledUser, .clear⟩ changesInTurn
          (calls [0, 0, 0, 1, 1, 2, 3, 2, 2, 2, 3])).store.user =
            some stored ∧ Keeps stored _ :=
    admin_changes_last (by decide) (by decide)
  exact ⟨stored, here, kept.standing.trans (by decide)⟩

end DataSafe.Mfa
