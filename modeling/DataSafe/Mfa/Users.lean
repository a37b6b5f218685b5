import DataSafe.Base.Text
import DataSafe.Metadata.Records

/-!
# Second factors of a user

A user record holds the secret of the time-based codes, the last time step
that was claimed, and the hashes of the recovery codes that are left.  Each
function of the store is one transaction.  `UpdateUser` writes a whole record
back and keeps the higher of the two claimed steps; nothing else protects a
record against a writer that has read it earlier.

The generation of codes, the hashes and the encryption of the secret are
parameters.
-/

namespace DataSafe.Mfa

open Base Metadata

inductive Status where
  | active
  | suspended
  | other (text : String)
deriving DecidableEq

/-- The fields of a `UserRecord` that logins and second factors use. -/
structure User where
  passwordHash : String
  role : String
  status : Status
  mfaEnabled : Bool
  totpSecret : String
  recoveryCodes : List String
  webAuthnCredentials : String
  totpLastStep : Int
  idPMFA : Bool
  mfaResetRequired : Bool
  lastLogin : Option Time
deriving DecidableEq

/-- What the checks of codes and passwords rest on. -/
structure Checks where
  /-- `DecryptTOTPSecretWithFallback` under the keys of the server. -/
  decrypt : String → Option String
  /-- `totp.GenerateCode` for the time step of a secret. -/
  totpCode : String → Int → Option String
  /-- `CheckPassword` -/
  checkPassword : String → String → Bool
  /-- `CheckRecoveryCode` -/
  checkRecoveryCode : String → String → Bool
  /-- The text holds a credential for `ParseCredentials`. -/
  hasCredentials : String → Bool

/-! ## Codes -/

def isBlank (rune : Char) : Bool := rune = ' ' || rune = '\t'

/-- `trimCode` -/
def trimCode (code : String) : String :=
  String.ofList (((code.toList.dropWhile isBlank).reverse.dropWhile
    isBlank).reverse)

/-- The time step of a moment. -/
def timeStep (now : Time) : Int :=
  (now / 1000000000) / 30

/-- `TOTPStep`: the current step comes first, then its neighbours. -/
def totpStep (checks : Checks) (secret code : String) (now : Time) :
    Option Int :=
  let code := trimText code
  if secret = "" ∨ code = "" then none
  else
    [timeStep now, timeStep now - 1, timeStep now + 1].find? (fun step =>
      checks.totpCode secret step = some code)

/-- `ConsumeRecoveryCode`: the hash that matches, and the others. -/
def consumeRecoveryCode (checks : Checks) (code : String) :
    List String → Option (String × List String)
  | [] => none
  | hash :: rest =>
    if checks.checkRecoveryCode hash code then some (hash, rest)
    else
      (consumeRecoveryCode checks code rest).map (fun found =>
        (found.1, hash :: found.2))

/-- What `validateUserMFACode` finds before it claims a step. -/
inductive CodeCheck where
  | rejected
  | totp (step : Int)
  | recovery (hash : String) (rest : List String)

/-- `validateUserMFACode` up to the claim of a time step. -/
def checkCode (checks : Checks) (user : User) (code : String)
    (now : Time) : CodeCheck :=
  let code := trimCode code
  if code = "" then .rejected
  else
    let step := (checks.decrypt user.totpSecret).bind (fun secret =>
      if secret = "" then none else totpStep checks secret code now)
    match step with
    | some step => .totp step
    | none =>
      match consumeRecoveryCode checks code user.recoveryCodes with
      | some (hash, rest) => .recovery hash rest
      | none => .rejected

variable {checks : Checks} {code : String} {now : Time}

/-- A step that is found is the current one or next to it. -/
theorem totpStep_near
    {secret : String} {step : Int}
    (found : totpStep checks secret code now = some step) :
    timeStep now - 1 ≤ step ∧ step ≤ timeStep now + 1 := by
  unfold totpStep at found
  dsimp only at found
  split_ifs at found
  have member := List.mem_of_find?_eq_some found
  simp only [List.mem_cons, List.not_mem_nil, or_false] at member
  omega

/-- The hash that is consumed is taken out of the list. -/
theorem consumeRecoveryCode_perm
    {hashes : List String} {hash : String} {rest : List String}
    (found : consumeRecoveryCode checks code hashes = some (hash, rest)) :
    hashes.Perm (hash :: rest) := by
  induction hashes generalizing rest with
  | nil => cases found
  | cons first others induction =>
    unfold consumeRecoveryCode at found
    split_ifs at found
    · cases found
      exact List.Perm.refl _
    · obtain ⟨⟨other, left⟩, later, same⟩ := Option.map_eq_some_iff.mp found
      cases same
      exact ((induction later).cons first).trans (List.Perm.swap _ _ _)

theorem checkCode_totp_near
    {user : User} {step : Int}
    (found : checkCode checks user code now = .totp step) :
    timeStep now - 1 ≤ step ∧ step ≤ timeStep now + 1 := by
  unfold checkCode at found
  dsimp only at found
  split_ifs at found
  split at found
  · rename_i matched
    cases found
    obtain ⟨secret, _, matched⟩ := Option.bind_eq_some_iff.mp matched
    split_ifs at matched
    exact totpStep_near matched
  · split at found <;> cases found

theorem checkCode_recovery_perm
    {user : User} {hash : String} {rest : List String}
    (found : checkCode checks user code now = .recovery hash rest) :
    user.recoveryCodes.Perm (hash :: rest) := by
  unfold checkCode at found
  dsimp only at found
  split_ifs at found
  split at found
  · cases found
  · split at found
    · rename_i consumed
      cases found
      exact consumeRecoveryCode_perm consumed
    · cases found

/-! ## Failed step-ups -/

/-- `MFAFailRecord` -/
structure FailRecord where
  failures : Nat
  windowStart : Option Time
  lockedUntil : Option Time
deriving DecidableEq

/-- No failures. -/
def FailRecord.clear : FailRecord := ⟨0, none, none⟩

def minutes (count : Int) : Time := count * 60 * 1000000000

/-- `MFAStepUpLocked` -/
def FailRecord.locked (record : FailRecord) (now : Time) : Bool :=
  record.lockedUntil.any (fun limit => now < limit)

/-- `AdvanceMFAFailures` -/
def FailRecord.advance (record : FailRecord) (now : Time) : FailRecord :=
  if record.locked now then record
  else if record.windowStart.all (fun start => minutes 5 < now - start) then
    ⟨1, some now, none⟩
  else if 5 ≤ record.failures + 1 then
    { record with
      failures := record.failures + 1
      lockedUntil := some (now + minutes 5) }
  else { record with failures := record.failures + 1 }

/-! ## The store -/

/-- What the store holds of one user. -/
structure UserStore where
  user : Option User
  fails : FailRecord
deriving DecidableEq

namespace UserStore

/-- `UpdateUser`: nothing happens to a user who is not stored. -/
def updateUser (store : UserStore) (user : User) : Option UserStore :=
  store.user.map (fun stored =>
    { store with user := some { user with
        totpLastStep := max stored.totpLastStep user.totpLastStep } })

/-- `ClaimTOTPStep` and whether the step was claimed. -/
def claimTOTPStep (store : UserStore) (step : Int) : UserStore × Bool :=
  match store.user with
  | none => (store, false)
  | some user =>
    if step ≤ user.totpLastStep then (store, false)
    else ({ store with user := some { user with totpLastStep := step } },
      true)

/-- `ResetTOTPStep` -/
def resetTOTPStep (store : UserStore) : UserStore :=
  { store with user := store.user.map (fun user =>
      { user with totpLastStep := 0 }) }

end UserStore

end DataSafe.Mfa
