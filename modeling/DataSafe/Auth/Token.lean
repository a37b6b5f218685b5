import Mathlib.Data.List.Basic

/-!
# Session tokens and pending second factors

`JWTManager` signs two kinds of claims with one secret.  A session token
carries `AdminClaims`; the token that login hands out between the password
and the second factor carries `MFAClaims`.  Both are JSON objects, and both
decoders take the members that they know and skip the others.

The signature library is a parameter: `Jwt` holds its functions with the two
laws that a token it signed is parsed back and verifies.  The encoding of Go
structures as JSON objects is modelled, with the member of an embedded
structure hidden by an outer one of the same name.  Times are nanoseconds.
-/

namespace DataSafe.Auth

/-! ## JSON objects -/

/-- A JSON value as far as the decoders tell them apart. -/
inductive JsonValue where
  | null
  | text (value : String)
  | number (value : Int)
  | texts (values : List String)
  | other
deriving DecidableEq

/-- The members of a JSON object in their order. -/
abbrev JsonObject := List (String × JsonValue)

/-- The fold under which `encoding/json` compares a member with a field. -/
def foldRune (rune : Char) : Char :=
  if rune = '\u017f' then 'S'
  else if rune = '\u212a' then 'K'
  else if 'a' ≤ rune ∧ rune ≤ 'z' then Char.ofNat (rune.toNat - 32)
  else rune

/-- A member with this name is decoded into this field. -/
def sameField (name field : String) : Bool :=
  name.toList.map foldRune = field.toList.map foldRune

/-- The values of all members that are decoded into one field. -/
def members (field : String) (object : JsonObject) : List JsonValue :=
  (object.filter (fun member => sameField member.1 field)).map Prod.snd

/-- A string field: the last member counts, and `null` leaves it alone. -/
def textField (field : String) (object : JsonObject) : Option String :=
  (members field object).foldlM (fun current value =>
    match value with
    | .null => some current
    | .text value => some value
    | _ => none) ""

/-- A `*jwt.NumericDate` in seconds; `null` clears it. -/
def dateField (field : String) (object : JsonObject) : Option (Option Int) :=
  (members field object).foldlM (fun _ value =>
    match value with
    | .null => some none
    | .number value => some (some value)
    | .text value => value.toInt?.map some
    | _ => none) none

/-- A `jwt.ClaimStrings` field. -/
def stringsField (field : String) (object : JsonObject) :
    Option (List String) :=
  (members field object).foldlM (fun current value =>
    match value with
    | .null => some current
    | .text value => some [value]
    | .texts values => some values
    | _ => none) []

/-! ## Claims -/

/-- `jwt.RegisteredClaims` -/
structure RegisteredClaims where
  issuer : String := ""
  subject : String := ""
  audience : List String := []
  expiresAt : Option Int := none
  notBefore : Option Int := none
  issuedAt : Option Int := none
  id : String := ""
deriving DecidableEq

/-- Payload of a session token. -/
structure AdminClaims where
  username : String
  userID : String
  role : String
  authSource : String
  sessionID : String
  registered : RegisteredClaims
deriving DecidableEq

/-- Payload of a pending second factor. -/
structure MFAClaims where
  userID : String
  purpose : String
  registered : RegisteredClaims
deriving DecidableEq

/-- A string member with `omitempty`. -/
def omitEmptyText (name value : String) : JsonObject :=
  if value = "" then [] else [(name, .text value)]

/-- A date member with `omitempty`. -/
def omitEmptyDate (name : String) (value : Option Int) : JsonObject :=
  match value with
  | none => []
  | some seconds => [(name, .number seconds)]

/-- A list member with `omitempty`. -/
def omitEmptyStrings (name : String) (values : List String) : JsonObject :=
  if values = [] then [] else [(name, .texts values)]

/-- The members of embedded registered claims behind the subject. -/
def RegisteredClaims.encodeAfterSubject (claims : RegisteredClaims) :
    JsonObject :=
  omitEmptyStrings "aud" claims.audience ++
    omitEmptyDate "exp" claims.expiresAt ++
    omitEmptyDate "nbf" claims.notBefore ++
    omitEmptyDate "iat" claims.issuedAt ++
    omitEmptyText "jti" claims.id

/-- The `sub` of the embedded claims is hidden by `Username`. -/
def AdminClaims.encode (claims : AdminClaims) : JsonObject :=
  [("sub", .text claims.username), ("uid", .text claims.userID),
      ("role", .text claims.role)] ++
    omitEmptyText "src" claims.authSource ++
    omitEmptyText "sid" claims.sessionID ++
    omitEmptyText "iss" claims.registered.issuer ++
    claims.registered.encodeAfterSubject

def MFAClaims.encode (claims : MFAClaims) : JsonObject :=
  [("uid", .text claims.userID), ("purpose", .text claims.purpose)] ++
    omitEmptyText "iss" claims.registered.issuer ++
    omitEmptyText "sub" claims.registered.subject ++
    claims.registered.encodeAfterSubject

/-- Registered claims whose subject is decoded from `subject`. -/
def RegisteredClaims.decode (subject : Option String)
    (object : JsonObject) : Option RegisteredClaims := do
  return {
    issuer := ← textField "iss" object
    subject := ← subject
    audience := ← stringsField "aud" object
    expiresAt := ← dateField "exp" object
    notBefore := ← dateField "nbf" object
    issuedAt := ← dateField "iat" object
    id := ← textField "jti" object }

def AdminClaims.decode (object : JsonObject) : Option AdminClaims := do
  return {
    username := ← textField "sub" object
    userID := ← textField "uid" object
    role := ← textField "role" object
    authSource := ← textField "src" object
    sessionID := ← textField "sid" object
    registered := ← RegisteredClaims.decode (some "") object }

/-! ## What the decoders find -/

@[simp]
theorem members_nil (field : String) : members field [] = [] :=
  rfl

@[simp]
theorem members_append (field : String) (left right : JsonObject) :
    members field (left ++ right) =
      members field left ++ members field right := by
  simp [members]

@[simp]
theorem members_cons
    (field name : String) (value : JsonValue) (object : JsonObject) :
    members field ((name, value) :: object) =
      (if sameField name field then [value] else []) ++
        members field object := by
  by_cases same : sameField name field = true <;>
    simp [members, same]

@[simp]
theorem members_omitEmptyText (field name value : String) :
    members field (omitEmptyText name value) =
      if sameField name field ∧ value ≠ "" then [.text value] else [] := by
  by_cases empty : value = "" <;> simp [omitEmptyText, empty]

@[simp]
theorem members_omitEmptyDate
    (field name : String) (value : Option Int) :
    members field (omitEmptyDate name value) =
      if sameField name field then (value.map JsonValue.number).toList
      else [] := by
  cases value <;> simp [omitEmptyDate]

@[simp]
theorem members_omitEmptyStrings
    (field name : String) (values : List String) :
    members field (omitEmptyStrings name values) =
      if sameField name field ∧ values ≠ [] then [.texts values]
      else [] := by
  by_cases empty : values = [] <;> simp [omitEmptyStrings, empty]

variable {field : String} {object : JsonObject}

/-- A string member that is left out when empty is decoded back. -/
theorem textField_of_members
    {value : String}
    (found : members field object =
      if value ≠ "" then [.text value] else []) :
    textField field object = some value := by
  by_cases empty : value = "" <;> simp [textField, found, empty]

/-- A date member is decoded back. -/
theorem dateField_of_members
    {value : Option Int}
    (found : members field object = (value.map JsonValue.number).toList) :
    dateField field object = some value := by
  cases value <;> simp [dateField, found]

theorem stringsField_of_members
    {values : List String}
    (found : members field object =
      if values ≠ [] then [.texts values] else []) :
    stringsField field object = some values := by
  by_cases empty : values = [] <;> simp [stringsField, found, empty]

/-- Registered claims are decoded back from an object that embeds them. -/
theorem RegisteredClaims.decode_embedded
    (claims : RegisteredClaims) (subject : String)
    (issuer : textField "iss" object = some claims.issuer)
    (embedded : ∀ field ∈ ["aud", "exp", "nbf", "iat", "jti"],
      members field object = members field claims.encodeAfterSubject) :
    RegisteredClaims.decode (some subject) object =
      some { claims with subject := subject } := by
  have audience : stringsField "aud" object = some claims.audience := by
    apply stringsField_of_members
    rw [embedded "aud" (by decide)]
    simp +decide [encodeAfterSubject]
  have expiresAt : dateField "exp" object = some claims.expiresAt := by
    apply dateField_of_members
    rw [embedded "exp" (by decide)]
    simp +decide [encodeAfterSubject]
  have notBefore : dateField "nbf" object = some claims.notBefore := by
    apply dateField_of_members
    rw [embedded "nbf" (by decide)]
    simp +decide [encodeAfterSubject]
  have issuedAt : dateField "iat" object = some claims.issuedAt := by
    apply dateField_of_members
    rw [embedded "iat" (by decide)]
    simp +decide [encodeAfterSubject]
  have id : textField "jti" object = some claims.id := by
    apply textField_of_members
    rw [embedded "jti" (by decide)]
    simp +decide [encodeAfterSubject]
  simp [decode, issuer, audience, expiresAt, notBefore, issuedAt, id]

/-- A session token is decoded to what was encoded. -/
theorem AdminClaims.decode_encode (claims : AdminClaims) :
    AdminClaims.decode claims.encode =
      some { claims with
        registered := { claims.registered with subject := "" } } := by
  have username : textField "sub" claims.encode = some claims.username := by
    simp +decide [textField, encode, RegisteredClaims.encodeAfterSubject]
  have userID : textField "uid" claims.encode = some claims.userID := by
    simp +decide [textField, encode, RegisteredClaims.encodeAfterSubject]
  have role : textField "role" claims.encode = some claims.role := by
    simp +decide [textField, encode, RegisteredClaims.encodeAfterSubject]
  have authSource :
      textField "src" claims.encode = some claims.authSource := by
    apply textField_of_members
    simp +decide [encode, RegisteredClaims.encodeAfterSubject]
  have sessionID :
      textField "sid" claims.encode = some claims.sessionID := by
    apply textField_of_members
    simp +decide [encode, RegisteredClaims.encodeAfterSubject]
  have registered :
      RegisteredClaims.decode (some "") claims.encode =
        some { claims.registered with subject := "" } := by
    apply RegisteredClaims.decode_embedded
    · apply textField_of_members
      simp +decide [encode, RegisteredClaims.encodeAfterSubject]
    · simp +decide [encode]
  simp [decode, username, userID, role, authSource, sessionID, registered]

/--
The decoder of session tokens reads a pending second factor as a session
without a role, in the name of the subject.
-/
theorem AdminClaims.decode_encode_mfa (claims : MFAClaims) :
    AdminClaims.decode claims.encode =
      some {
        username := claims.registered.subject
        userID := claims.userID
        role := ""
        authSource := ""
        sessionID := ""
        registered := { claims.registered with subject := "" } } := by
  have username :
      textField "sub" claims.encode = some claims.registered.subject := by
    apply textField_of_members
    simp +decide [MFAClaims.encode, RegisteredClaims.encodeAfterSubject]
  have userID : textField "uid" claims.encode = some claims.userID := by
    simp +decide [textField, MFAClaims.encode,
      RegisteredClaims.encodeAfterSubject]
  have absent : ∀ field ∈ ["role", "src", "sid"],
      textField field claims.encode = some "" := by
    simp +decide [textField, MFAClaims.encode,
      RegisteredClaims.encodeAfterSubject]
  have registered :
      RegisteredClaims.decode (some "") claims.encode =
        some { claims.registered with subject := "" } := by
    apply RegisteredClaims.decode_embedded
    · apply textField_of_members
      simp +decide [MFAClaims.encode, RegisteredClaims.encodeAfterSubject]
    · simp +decide [MFAClaims.encode]
  simp [decode, username, userID, registered, absent "role" (by decide),
    absent "src" (by decide), absent "sid" (by decide)]

/-- No session token is written like a pending second factor. -/
theorem AdminClaims.encode_ne_mfa
    (claims : AdminClaims) (pending : MFAClaims) :
    claims.encode ≠ pending.encode := by
  simp [encode, MFAClaims.encode]

/-! ## The signature library -/

/--
The functions of `golang-jwt` that the manager calls: `signedString` signs
with HS256, `parse` yields the algorithm and the claims of a token, and
`verify` checks its signature.
-/
structure Jwt where
  signedString : (secret : String) → JsonObject → String
  parse : String → Option (String × JsonObject)
  verify : (token secret : String) → Bool
  parse_signedString : ∀ secret claims,
    parse (signedString secret claims) = some ("HS256", claims)
  verify_signedString : ∀ secret claims,
    verify (signedString secret claims) secret = true

def second : Int := 1000000000

/-- `jwt.NewNumericDate` cuts a time to seconds. -/
def newNumericDate (time : Int) : Int := time / second

/-- The default checks of the library's validator on the times. -/
def RegisteredClaims.timely (now : Int) (claims : RegisteredClaims) : Bool :=
  (match claims.expiresAt with
    | none => true
    | some expiry => decide (now < expiry * second)) &&
  (match claims.notBefore with
    | none => true
    | some start => decide (start * second ≤ now))

/-- `jwt.ParseWithClaims` with a key function that insists on HS256. -/
def parseWithClaims {Claims : Type} (jwt : Jwt)
    (decode : JsonObject → Option Claims)
    (registered : Claims → RegisteredClaims)
    (secret : String) (now : Int) (token : String) : Option Claims := do
  let (method, object) ← jwt.parse token
  let claims ← decode object
  guard (method = "HS256")
  guard (jwt.verify token secret = true)
  guard ((registered claims).timely now = true)
  return claims

/-! ## The manager -/

def roleAdministrator : String := "administrator"
def mfaTokenPurpose : String := "mfa_pending"

inductive TokenErr where
  | invalidToken
  | invalidMFAToken
deriving DecidableEq

structure TokenInfo where
  username : String
  userID : String
  role : String
  authSource : String := ""
  sessionID : String := ""
deriving DecidableEq

/-- A manager has a secret and a positive lifetime for its tokens. -/
structure JWTManager where
  secret : String
  ttl : Int
  secret_ne : secret ≠ ""
  ttl_pos : 0 < ttl

def newJWTManager (secret : String) (ttl : Int) : JWTManager where
  secret := if secret = "" then "datasafe-jwt-secret" else secret
  ttl := if ttl ≤ 0 then 24 * 3600 * second else ttl
  secret_ne := by
    split
    · decide
    · assumption
  ttl_pos := by
    split
    · decide
    · omega

namespace JWTManager

variable (jwt : Jwt) (manager : JWTManager)

/-- The claims of a session token that is issued at `now`. -/
def sessionClaims (info : TokenInfo) (ttl now : Int)
    (newSessionID : String) : AdminClaims :=
  let ttl := if ttl ≤ 0 then manager.ttl else ttl
  let sessionID :=
    if info.sessionID = "" then newSessionID else info.sessionID
  { username := info.username
    userID := info.userID
    role := info.role
    authSource := info.authSource
    sessionID := sessionID
    registered := {
      subject := info.username
      id := sessionID
      issuedAt := some (newNumericDate now)
      expiresAt := some (newNumericDate (now + ttl)) } }

def issueWithTTL (info : TokenInfo) (ttl now : Int)
    (newSessionID : String) : String :=
  jwt.signedString manager.secret
    (manager.sessionClaims info ttl now newSessionID).encode

def validate (now : Int) (token : String) : Except TokenErr TokenInfo :=
  match parseWithClaims jwt AdminClaims.decode AdminClaims.registered
      manager.secret now token with
  | none => .error .invalidToken
  | some claims =>
    if claims.username = "" then .error .invalidToken
    else .ok {
      username := claims.username
      userID := claims.userID
      role := if claims.role = "" then roleAdministrator else claims.role
      authSource := claims.authSource
      sessionID :=
        if claims.sessionID = "" then claims.registered.id
        else claims.sessionID }

/-- The claims of a pending second factor that is issued at `now`. -/
def mfaClaims (userID : String) (now : Int) : MFAClaims :=
  { userID := userID
    purpose := mfaTokenPurpose
    registered := {
      subject := userID
      issuedAt := some (newNumericDate now)
      expiresAt := some (newNumericDate (now + 5 * 60 * second)) } }

def issueMFAToken (userID : String) (now : Int) : String :=
  jwt.signedString manager.secret (mfaClaims userID now).encode

end JWTManager

end DataSafe.Auth
