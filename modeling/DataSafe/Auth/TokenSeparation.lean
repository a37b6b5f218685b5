import DataSafe.Auth.Token
import Mathlib.Logic.Denumerable
import Mathlib.Logic.Equiv.List
import Mathlib.Tactic.DeriveEncodable

/-!
# Separation of session tokens and pending second factors

A history lists what a manager has signed.  `Separate` says of one token
that whoever it is accepted for was issued a session with this name, user
and role.  With a signature that nobody else can make, this depends on the
history alone: a pending second factor and a session without a role are both
read as a session of an administrator.
-/

namespace DataSafe.Auth

/-! ## What a manager has signed -/

/-- One call that signed a token, with the time and the random session id. -/
inductive Issued where
  | session (info : TokenInfo) (ttl now : Int) (newSessionID : String)
  | pending (userID : String) (now : Int)
deriving DecidableEq

namespace Issued

variable (jwt : Jwt) (manager : JWTManager)

/-- The token that the call returned. -/
def token : Issued → String
  | .session info ttl now newSessionID =>
    manager.issueWithTTL jwt info ttl now newSessionID
  | .pending userID now => manager.issueMFAToken jwt userID now

/-- The claims that the call signed. -/
def object : Issued → JsonObject
  | .session info ttl now newSessionID =>
    (manager.sessionClaims info ttl now newSessionID).encode
  | .pending userID now => (JWTManager.mfaClaims userID now).encode

/-- The second at which the token expires. -/
def expiry : Issued → Int
  | .session _ ttl now _ =>
    newNumericDate (now + if ttl ≤ 0 then manager.ttl else ttl)
  | .pending _ now => newNumericDate (now + 5 * 60 * second)

/-- The token has not expired. -/
def Live (now : Int) (issued : Issued) : Prop :=
  now < issued.expiry manager * second

instance (now : Int) (issued : Issued) :
    Decidable (issued.Live manager now) :=
  inferInstanceAs (Decidable (_ < _))

/-- The name that the decoder of session tokens finds. -/
def subject : Issued → String
  | .session info _ _ _ => info.username
  | .pending userID _ => userID

/-- What the decoder of session tokens makes of the claims. -/
def readAs : Issued → TokenInfo
  | .session info _ _ newSessionID =>
    { info with
      role := if info.role = "" then roleAdministrator else info.role
      sessionID :=
        if info.sessionID = "" then newSessionID else info.sessionID }
  | .pending userID _ => ⟨userID, userID, roleAdministrator, "", ""⟩

/-- The call named somebody but gave no role. -/
def Roleless : Issued → Prop
  | .session info _ _ _ => info.username ≠ "" ∧ info.role = ""
  | .pending userID _ => userID ≠ ""

theorem token_eq (issued : Issued) :
    issued.token jwt manager =
      jwt.signedString manager.secret (issued.object manager) := by
  cases issued <;> rfl

/-- Calls that returned one token signed the same claims. -/
theorem object_eq_of_token_eq
    {left right : Issued}
    (same : left.token jwt manager = right.token jwt manager) :
    left.object manager = right.object manager := by
  have parsed := congrArg jwt.parse same
  rw [token_eq, token_eq, jwt.parse_signedString,
    jwt.parse_signedString] at parsed
  simpa using parsed

end Issued

/-! ## Validation of signed tokens -/

variable (jwt : Jwt) (manager : JWTManager)

/-- The information that is read from decoded claims. -/
def AdminClaims.readAs (claims : AdminClaims) : TokenInfo where
  username := claims.username
  userID := claims.userID
  role := if claims.role = "" then roleAdministrator else claims.role
  authSource := claims.authSource
  sessionID :=
    if claims.sessionID = "" then claims.registered.id
    else claims.sessionID

/-- Signed claims are accepted in their time, if they name somebody. -/
theorem JWTManager.validate_signed
    {claims : AdminClaims} {object : JsonObject}
    (decoded : AdminClaims.decode object = some claims)
    (now : Int) (info : TokenInfo) :
    manager.validate jwt now (jwt.signedString manager.secret object) =
        .ok info ↔
      claims.registered.timely now = true ∧ claims.username ≠ "" ∧
        info = claims.readAs := by
  have parsed :
      parseWithClaims jwt AdminClaims.decode AdminClaims.registered
          manager.secret now (jwt.signedString manager.secret object) =
        if claims.registered.timely now then some claims else none := by
    by_cases timely : claims.registered.timely now = true <;>
      simp [parseWithClaims, jwt.parse_signedString,
        jwt.verify_signedString, decoded, timely]
  unfold JWTManager.validate
  rw [parsed]
  by_cases timely : claims.registered.timely now = true
  · by_cases unnamed : claims.username = ""
    · simp [timely, unnamed]
    · simp only [timely, if_true, unnamed, if_false, Except.ok.injEq,
        ne_eq, not_false_eq_true, true_and]
      exact eq_comm
  · simp [timely]

/-- A token of the manager is accepted until it expires, if it has a name. -/
theorem JWTManager.validate_issued
    (now : Int) (issued : Issued) (info : TokenInfo) :
    manager.validate jwt now (issued.token jwt manager) = .ok info ↔
      issued.Live manager now ∧ issued.subject ≠ "" ∧
        info = issued.readAs := by
  rw [Issued.token_eq]
  cases issued with
  | session issuedInfo ttl issuedAt newSessionID =>
    rw [Issued.object, JWTManager.validate_signed jwt manager
      (AdminClaims.decode_encode _)]
    by_cases given : issuedInfo.sessionID = "" <;>
      simp [RegisteredClaims.timely, sessionClaims, Issued.Live,
        Issued.expiry, Issued.subject, Issued.readAs, AdminClaims.readAs,
        given]
  | pending userID issuedAt =>
    rw [Issued.object, JWTManager.validate_signed jwt manager
      (AdminClaims.decode_encode_mfa _)]
    simp [RegisteredClaims.timely, mfaClaims, Issued.Live,
      Issued.expiry, Issued.subject, Issued.readAs, AdminClaims.readAs]

/-! ## Separation -/

/-- Whoever the token is accepted for was issued a session like that. -/
def Separate (history : List Issued) (now : Int) (token : String) : Prop :=
  ∀ info, manager.validate jwt now token = .ok info →
    ∃ issued ttl issuedAt newSessionID,
      .session issued ttl issuedAt newSessionID ∈ history ∧
        manager.issueWithTTL jwt issued ttl issuedAt newSessionID = token ∧
        issued.username = info.username ∧ issued.userID = info.userID ∧
        issued.role = info.role

/-- Only calls of this history sign a token that verifies. -/
def Unforged (history : List Issued) (token : String) : Prop :=
  jwt.verify token manager.secret = true →
    ∃ issued ∈ history, issued.token jwt manager = token

/-- What is accepted verifies. -/
theorem JWTManager.verify_of_validate
    {now : Int} {token : String} {info : TokenInfo}
    (accepted : manager.validate jwt now token = .ok info) :
    jwt.verify token manager.secret = true := by
  unfold JWTManager.validate at accepted
  cases parsed : parseWithClaims jwt AdminClaims.decode
      AdminClaims.registered manager.secret now token with
  | none => simp [parsed] at accepted
  | some claims =>
    simp only [parseWithClaims, guard, Option.bind_eq_bind,
      Option.bind_eq_some_iff] at parsed
    grind

/-- Two sessions with one token agree on the name, the user and the role. -/
theorem session_eq_of_token_eq
    {left right : TokenInfo} {leftTtl rightTtl leftAt rightAt : Int}
    {leftID rightID : String}
    (same : (Issued.session left leftTtl leftAt leftID).token jwt manager =
      (Issued.session right rightTtl rightAt rightID).token jwt manager) :
    left.username = right.username ∧ left.userID = right.userID ∧
      left.role = right.role := by
  have decoded := congrArg AdminClaims.decode
    (Issued.object_eq_of_token_eq jwt manager same)
  simp only [Issued.object, AdminClaims.decode_encode,
    Option.some.injEq, AdminClaims.mk.injEq] at decoded
  exact ⟨decoded.1, decoded.2.1, decoded.2.2.1⟩

/-- No session has the token of a pending second factor. -/
theorem session_token_ne_pending
    (info : TokenInfo) (ttl issuedAt pendingAt : Int)
    (newSessionID userID : String) :
    (Issued.session info ttl issuedAt newSessionID).token jwt manager ≠
      (Issued.pending userID pendingAt).token jwt manager := by
  intro same
  exact AdminClaims.encode_ne_mfa _ _
    (Issued.object_eq_of_token_eq jwt manager same)

/--
A token is separate exactly when no call that signed it, and whose token has
not expired, named somebody without a role.
-/
theorem separate_iff_no_live_roleless
    (history : List Issued) (now : Int) (token : String)
    (unforged : Unforged jwt manager history token) :
    Separate jwt manager history now token ↔
      ∀ issued ∈ history, issued.token jwt manager = token →
        issued.Live manager now → ¬ issued.Roleless := by
  constructor
  · rintro separate issued member rfl live roleless
    have named : issued.subject ≠ "" := by
      cases issued with
      | session info ttl issuedAt newSessionID => exact roleless.1
      | pending userID issuedAt => exact roleless
    obtain ⟨info, ttl, issuedAt, newSessionID, _, same, _, _, role⟩ :=
      separate issued.readAs ((manager.validate_issued jwt now issued _).mpr
          ⟨live, named, rfl⟩)
    cases issued with
    | session issuedInfo _ _ _ =>
      obtain ⟨_, _, sameRole⟩ := session_eq_of_token_eq jwt manager same
      have empty : issuedInfo.role = "" := roleless.2
      simp only [Issued.readAs] at role
      rw [sameRole, empty] at role
      exact absurd role (by decide)
    | pending userID _ =>
      exact session_token_ne_pending jwt manager _ _ _ _ _ _ same
  · intro none info accepted
    obtain ⟨issued, member, rfl⟩ :=
      unforged (manager.verify_of_validate jwt accepted)
    obtain ⟨live, named, rfl⟩ :=
      (manager.validate_issued jwt now issued info).mp accepted
    have roleful := none issued member rfl live
    cases issued with
    | session issuedInfo ttl issuedAt newSessionID =>
      have given : issuedInfo.role ≠ "" := fun empty =>
        roleful ⟨named, empty⟩
      exact ⟨issuedInfo, ttl, issuedAt, newSessionID, member, rfl, rfl,
        rfl, by simp [Issued.readAs, given]⟩
    | pending userID _ => exact absurd named roleful

/-! ## A pending second factor that is accepted -/

instance encodableChar : Encodable Char :=
  Encodable.ofLeftInjection Char.toNat (fun code => some (Char.ofNat code))
    (fun rune => by simp)

instance encodableString : Encodable String :=
  Encodable.ofLeftInjection String.toList
    (fun runes => some (String.ofList runes)) (fun text => by simp)

deriving instance Encodable for JsonValue

/--
A symbolic signature library: a token is the number of its secret and its
claims, written in strokes, and it verifies under this secret alone.
-/
def symbolicJwt : Jwt where
  signedString := fun secret claims =>
    String.ofList (List.replicate (Encodable.encode (secret, claims)) 'I')
  parse := fun token =>
    (Encodable.decode token.toList.length : Option (String × JsonObject)).map
      (fun signed => ("HS256", signed.2))
  verify := fun token secret =>
    match (Encodable.decode token.toList.length :
        Option (String × JsonObject)) with
    | some signed => signed.1 = secret
    | none => false
  parse_signedString := by
    intro secret claims
    simp
  verify_signedString := by
    intro secret claims
    simp

/-- A manager with the default secret and lifetime. -/
def defaultManager : JWTManager := newJWTManager "" 0

/-- A login that waits for its second factor. -/
def pendingLogin : List Issued := [.pending "u1" 0]

theorem pendingLogin_unforged :
    Unforged symbolicJwt defaultManager pendingLogin
      (defaultManager.issueMFAToken symbolicJwt "u1" 0) :=
  fun _ => ⟨.pending "u1" 0, List.mem_singleton.mpr rfl, rfl⟩

/-- The token of a login that waits for its second factor is a session. -/
theorem pending_token_not_separate :
    ¬ ∀ (jwt : Jwt) (manager : JWTManager) (history : List Issued)
        (now : Int) (token : String),
      Unforged jwt manager history token →
        Separate jwt manager history now token := by
  intro separate
  have accepted :=
    (defaultManager.validate_issued symbolicJwt 0 (.pending "u1" 0)
      ⟨"u1", "u1", roleAdministrator, "", ""⟩).mpr
      ⟨by decide, by decide, rfl⟩
  obtain ⟨_, _, _, _, member, _⟩ :=
    separate _ _ _ 0 _ pendingLogin_unforged _ accepted
  simp [pendingLogin] at member

/-- The waiting login is separate again when its token has expired. -/
theorem separate_iff_no_live_roleless_pending :
    Separate symbolicJwt defaultManager pendingLogin (300 * second)
        (defaultManager.issueMFAToken symbolicJwt "u1" 0) ↔
      ∀ issued ∈ pendingLogin, issued.token symbolicJwt defaultManager =
            defaultManager.issueMFAToken symbolicJwt "u1" 0 →
          issued.Live defaultManager (300 * second) → ¬ issued.Roleless :=
  separate_iff_no_live_roleless symbolicJwt defaultManager pendingLogin
    (300 * second) _ pendingLogin_unforged

end DataSafe.Auth
