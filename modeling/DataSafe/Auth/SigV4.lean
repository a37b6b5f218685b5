import DataSafe.Auth.Texts
import DataSafe.Base.Grouping
import DataSafe.Base.Joined
import DataSafe.Metadata.Records
import Mathlib.Data.List.Dedup

/-!
# Request signatures

`Signer.Authenticate` takes a request that is signed in its `Authorization`
header or in its query.  Both ways build a canonical request from the method,
the path, the query and the signed headers, hash it into a string to sign and
compare the code under the derived key with the presented signature.

Header names are tokens in lower case, since every access to the headers of a
request goes through the canonical form of the name.  The hash functions, the
readers of times and numbers, and the checks of `net/url` on authorities and
fragments are parameters.
-/

namespace DataSafe.Auth

open Base Metadata

/-! ## Requests -/

/-- A text on one line, as HTTP carries verbs, hosts and header values. -/
@[ext]
structure Line where
  text : Bytes
  unbroken : lineFeed ∉ text
deriving DecidableEq

/-- The bytes of header names, with letters in lower case. -/
def tokenByte (byte : UInt8) : Bool :=
  decide (97 ≤ byte ∧ byte ≤ 122 ∨ 48 ≤ byte ∧ byte ≤ 57 ∨
    byte ∈ ascii "!#$%&'*+-.^_`|~")

/-- A text that names a header. -/
def IsHeaderName (text : Bytes) : Prop :=
  text ≠ [] ∧ ∀ byte ∈ text, tokenByte byte = true

instance (text : Bytes) : Decidable (IsHeaderName text) :=
  @instDecidableAnd _ _ _ (List.decidableBAll _ text)

/-- The name of a header in lower case. -/
@[ext]
structure HeaderName where
  text : Bytes
  token : IsHeaderName text
deriving DecidableEq

def hostName : HeaderName := ⟨ascii "host", by decide +kernel⟩

def authorizationName : HeaderName := ⟨ascii "authorization", by decide +kernel⟩

def amzDateName : HeaderName := ⟨ascii "x-amz-date", by decide +kernel⟩

def securityTokenName : HeaderName :=
  ⟨ascii "x-amz-security-token", by decide +kernel⟩

def contentSha256Name : HeaderName :=
  ⟨ascii "x-amz-content-sha256", by decide +kernel⟩

/-- The values of one header, one for each line that carries it. -/
structure HeaderValues where
  first : Line
  others : List Line
deriving DecidableEq

/-- The lines of a header as one value. -/
def HeaderValues.joined (values : HeaderValues) : Bytes :=
  [44].intercalate ((values.first :: values.others).map Line.text)

/-- The URL of a request as the server parsed it. -/
structure RequestURL where
  /-- The target had a scheme. -/
  absolute : Bool
  escapedPath : Bytes
  rawQuery : Bytes
  decodes : (percentDecode escapedPath).isSome = true
deriving DecidableEq

/-- `URL.Path` -/
def RequestURL.path (url : RequestURL) : Bytes :=
  (percentDecode url.escapedPath).get url.decodes

structure HTTPRequest where
  method : Line
  url : RequestURL
  host : Line
  header : Table HeaderName HeaderValues

/-- `URL.Query` -/
def HTTPRequest.query (request : HTTPRequest) : List (Bytes × Bytes) :=
  parseQuery request.url.rawQuery

/-- `Header.Get` -/
def HTTPRequest.headerGet (request : HTTPRequest) (name : HeaderName) :
    Bytes :=
  match request.header.get name with
  | some values => values.first.text
  | none => []

/-- The value of a header, with all its lines and trimmed. -/
def HTTPRequest.value (request : HTTPRequest) (name : HeaderName) : Bytes :=
  match request.header.get name with
  | some values => trimSpace values.joined
  | none => []

/-! ## Platform -/

structure Platform where
  sha256 : Bytes → Bytes
  hmac : Bytes → Bytes → Bytes
  /-- `time.Parse` with the layout of `X-Amz-Date`. -/
  parseTime : Bytes → Option Time
  /-- `fmt.Sscanf` with `%d`. -/
  scanInt : Bytes → Option Int
  /-- `net/url` takes the text behind two slashes. -/
  validAuthority : Bytes → Bool
  /-- `net/url` takes the text behind a number sign. -/
  validFragment : Bytes → Bool

/-- No two texts have one digest. -/
structure Platform.CollisionFree (platform : Platform) : Prop where
  sha256 : Function.Injective platform.sha256
  hmac : ∀ key, Function.Injective (platform.hmac key)

/-- The path reads as an authority and a path below it. -/
def RequestURL.authorityPath (url : RequestURL) : Bool :=
  !url.absolute && (ascii "//").isPrefixOf url.escapedPath &&
    !(ascii "///").isPrefixOf url.escapedPath

/--
`url.Parse` of the text that `URL.String` writes: the escaped path and the
query of the result.
-/
def RequestURL.reparse (platform : Platform) (url : RequestURL) :
    Option (Bytes × Bytes) :=
  let (rawQuery, fragment) := cut 35 url.rawQuery
  if fragment ≠ [] ∧ platform.validFragment fragment = false then none
  else if url.authorityPath then
    let rest := url.escapedPath.drop 2
    if platform.validAuthority (rest.takeWhile (· ≠ 47)) then
      some (rest.dropWhile (· ≠ 47), rawQuery)
    else none
  else some (url.escapedPath, rawQuery)

/-! ## Canonical requests -/

/-- The bytes that both encoders keep. -/
def unreserved (byte : UInt8) : Bool :=
  decide (65 ≤ byte ∧ byte ≤ 90 ∨ 97 ≤ byte ∧ byte ≤ 122 ∨
    48 ≤ byte ∧ byte ≤ 57 ∨ byte ∈ ascii "-_.~")

def uriEncode (text : Bytes) : Bytes :=
  percentEncode (fun byte => unreserved byte || byte == 47) text

def uriEncodeQuery (text : Bytes) : Bytes :=
  percentEncode unreserved text

/-- `sort.Strings` -/
def sortTexts (texts : List Bytes) : List Bytes :=
  texts.insertionSort (· ≤ ·)

def canonicalQuery (pairs : List (Bytes × Bytes)) : Bytes :=
  let keys := sortTexts (pairs.map Prod.fst).dedup
  [38].intercalate ((grouped sortTexts keys pairs).map (fun pair =>
    uriEncodeQuery pair.1 ++ 61 :: uriEncodeQuery pair.2))

/-- The entry of a name in the map `lower` of `canonicalHeaders`. -/
def HTTPRequest.lower (request : HTTPRequest) (name : Bytes) : Bytes :=
  if name = hostName.text then request.host.text
  else if token : IsHeaderName name then request.value ⟨name, token⟩
  else []

/-- The line that binds one signed name. -/
def headerLine (request : HTTPRequest) (name : Bytes) : Bytes :=
  name ++ 58 :: request.lower name

def canonicalHeaders (request : HTTPRequest) (signed : List Bytes) : Bytes :=
  [lineFeed].intercalate (sortTexts (signed.map (headerLine request))) ++
    [lineFeed]

/-- The text that both kinds of canonical request have. -/
def canonicalText
    (request : HTTPRequest) (signed : List Bytes)
    (path query payload : Bytes) : Bytes :=
  request.method.text ++ lineFeed :: path ++ lineFeed :: query ++
    lineFeed :: canonicalHeaders request signed ++
    lineFeed :: [59].intercalate signed ++ lineFeed :: payload

def canonicalRequest (request : HTTPRequest) (signed : List Bytes) : Bytes :=
  canonicalText request signed (uriEncode request.url.escapedPath)
    (canonicalQuery request.query) (request.headerGet contentSha256Name)

/-- The pairs of a query without the signature. -/
def unsignedPairs (pairs : List (Bytes × Bytes)) : List (Bytes × Bytes) :=
  pairs.filter (fun pair => pair.1 ≠ ascii "X-Amz-Signature")

/-- The URL is written and parsed again, which may fail. -/
def canonicalPresignedRequest
    (platform : Platform) (request : HTTPRequest) (signed : List Bytes) :
    Option Bytes :=
  (request.url.reparse platform).map (fun (escapedPath, rawQuery) =>
    canonicalText request signed (uriEncode escapedPath)
      (canonicalQuery (unsignedPairs (parseQuery rawQuery)))
      (ascii "UNSIGNED-PAYLOAD"))

/-! ## Signatures -/

/-- The date that is signed. -/
def HTTPRequest.date (request : HTTPRequest) : Bytes :=
  if request.headerGet amzDateName = [] then
    queryGet request.query (ascii "X-Amz-Date")
  else request.headerGet amzDateName

def buildStringToSign
    (platform : Platform) (credential canonical : Bytes)
    (request : HTTPRequest) : Bytes :=
  [lineFeed].intercalate
    [ascii "AWS4-HMAC-SHA256", request.date, (cut 47 credential).2,
      hexText (platform.sha256 canonical)]

/-- The key that `sign` derives. -/
def signingKey
    (platform : Platform) (secret dateStamp region service : Bytes) :
    Bytes :=
  let kDate := platform.hmac (ascii "AWS4" ++ secret) dateStamp
  let kRegion := platform.hmac kDate region
  let kService := platform.hmac kRegion service
  platform.hmac kService (ascii "aws4_request")

def sign
    (platform : Platform) (secret dateStamp region service stringToSign :
      Bytes) : Bytes :=
  hexText (platform.hmac
    (signingKey platform secret dateStamp region service) stringToSign)

/-! ## Authentication -/

structure Credentials where
  accessKey : Bytes
  secretKey : Bytes
  sessionToken : Bytes
deriving DecidableEq

structure Signer where
  region : Bytes
  service : Bytes
  lookup : Bytes → Option Credentials
  rootAccessKey : Bytes

inductive AuthErr where
  | missingAuth
  | invalidAuth
  | signatureMismatch
  | unsignedHeaders
  | expired
  /-- The URL did not parse again, and its query was read all the same. -/
  | panicked
deriving DecidableEq

/-- What a request presents to be authenticated. -/
structure Presented where
  credential : Bytes
  signedHeaders : Bytes
  signature : Bytes
deriving DecidableEq

/-- The list of signed header names. -/
def Presented.names (presented : Presented) : List Bytes :=
  presented.signedHeaders.splitOn 59

/-- `strings.Trim` of quotation marks. -/
def trimQuotes (text : Bytes) : Bytes :=
  ((text.dropWhile (· = 34)).reverse.dropWhile (· = 34)).reverse

/-- One part of the `Authorization` header. -/
def authPart (part : Bytes) : Option (Bytes × Bytes) :=
  let part := trimSpace part
  if 61 ∉ part ∨ (cut 61 part).1 = [] then none
  else some ((cut 61 part).1, trimQuotes (cut 61 part).2)

def parseAuthHeader (text : Bytes) : List (Bytes × Bytes) :=
  (text.splitOn 44).filterMap authPart

/-- A later part replaces an earlier one of its name. -/
def authField (parts : List (Bytes × Bytes)) (name : Bytes) :
    Option Bytes :=
  (parts.reverse.find? (fun part => part.1 = name)).map Prod.snd

def authScheme : Bytes := ascii "AWS4-HMAC-SHA256 "

/-- The parts of the `Authorization` header behind the scheme. -/
def HTTPRequest.authParts (request : HTTPRequest) : List (Bytes × Bytes) :=
  parseAuthHeader
    ((request.headerGet authorizationName).drop authScheme.length)

def headerPresented (request : HTTPRequest) : Presented where
  credential := (authField request.authParts (ascii "Credential")).getD []
  signedHeaders :=
    (authField request.authParts (ascii "SignedHeaders")).getD []
  signature := (authField request.authParts (ascii "Signature")).getD []

def queryPresented (request : HTTPRequest) : Presented where
  credential := queryGet request.query (ascii "X-Amz-Credential")
  signedHeaders := queryGet request.query (ascii "X-Amz-SignedHeaders")
  signature := queryGet request.query (ascii "X-Amz-Signature")

/-- `strings.ToLower(strings.TrimSpace(h))` -/
def normalName (name : Bytes) : Bytes :=
  toLower (trimSpace name)

/-- The names that count as signed. -/
def signedNames (signed : List Bytes) : List Bytes :=
  (signed.map normalName).filter (· ≠ [])

def amzPrefixed (name : Bytes) : Bool :=
  (ascii "x-amz-").isPrefixOf name

def requireSignedHeaders (request : HTTPRequest) (signed : List Bytes) :
    Bool :=
  decide (hostName.text ∈ signedNames signed) &&
    request.header.entries.all (fun entry =>
      !amzPrefixed entry.1.text ||
        decide (entry.1.text ∈ signedNames signed))

def validateSessionToken (request : HTTPRequest) (creds : Credentials) :
    Bool :=
  if creds.sessionToken = [] then true
  else
    let token := request.headerGet securityTokenName
    let token :=
      if token = [] then
        queryGet request.query (ascii "X-Amz-Security-Token")
      else token
    decide (token = creds.sessionToken)

/-- The end that both kinds of authentication have. -/
def checkSigned
    (platform : Platform) (signer : Signer) (request : HTTPRequest)
    (presented : Presented) (creds : Credentials)
    (dateStamp canonical : Bytes) : Except AuthErr Credentials :=
  if presented.signature ≠
      sign platform creds.secretKey dateStamp signer.region signer.service
        (buildStringToSign platform presented.credential canonical
          request) then
    .error .signatureMismatch
  else if requireSignedHeaders request presented.names = false then
    .error .unsignedHeaders
  else if validateSessionToken request creds = false then
    .error .invalidAuth
  else .ok creds

/-- `MaxPresignSeconds` -/
def maxPresignSeconds : Int := 7 * 24 * 3600

/-- What `verifyPresigned` finds wrong with the dates of a request. -/
def presignErr
    (platform : Platform) (now : Time) (request : HTTPRequest) :
    Option AuthErr :=
  let expires := queryGet request.query (ascii "X-Amz-Expires")
  let date := queryGet request.query (ascii "X-Amz-Date")
  if expires = [] ∨ date = [] then some .invalidAuth
  else
    match platform.parseTime date, platform.scanInt expires with
    | some time, some seconds =>
      if seconds ≤ 0 ∨ maxPresignSeconds < seconds then some .invalidAuth
      else if now - time > seconds * 1000000000 then some .expired
      else none
    | _, _ => some .invalidAuth

def verifyPresigned
    (platform : Platform) (signer : Signer) (now : Time)
    (request : HTTPRequest) : Except AuthErr Credentials :=
  let presented := queryPresented request
  match presented.credential.splitOn 47 with
  | [accessKey, dateStamp, _, _, _] =>
    if signer.rootAccessKey ≠ [] ∧ accessKey = signer.rootAccessKey then
      .error .invalidAuth
    else
      match signer.lookup accessKey, presignErr platform now request,
          canonicalPresignedRequest platform request presented.names with
      | none, _, _ => .error .invalidAuth
      | some _, some err, _ => .error err
      | some _, none, none => .error .panicked
      | some creds, none, some canonical =>
        checkSigned platform signer request presented creds dateStamp
          canonical
  | _ => .error .invalidAuth

/-- The request is signed in its query. -/
def HTTPRequest.presigned (request : HTTPRequest) : Bool :=
  decide (queryGet request.query (ascii "X-Amz-Algorithm") ≠ [])

/-- The header branch of `Signer.Authenticate`. -/
def verifyHeader
    (platform : Platform) (signer : Signer) (request : HTTPRequest) :
    Except AuthErr Credentials :=
  let auth := request.headerGet authorizationName
  if auth = [] then .error .missingAuth
  else if authScheme.isPrefixOf auth = false then .error .invalidAuth
  else if authField request.authParts (ascii "Credential") = none then
    .error .invalidAuth
  else
    let presented := headerPresented request
    match presented.credential.splitOn 47 with
    | [accessKey, dateStamp, _, _, _] =>
      match signer.lookup accessKey with
      | none => .error .invalidAuth
      | some creds =>
        checkSigned platform signer request presented creds dateStamp
          (canonicalRequest request presented.names)
    | _ => .error .invalidAuth

/-- `Signer.Authenticate` -/
def authenticate
    (platform : Platform) (signer : Signer) (now : Time)
    (request : HTTPRequest) : Except AuthErr Credentials :=
  if request.presigned then verifyPresigned platform signer now request
  else verifyHeader platform signer request

/-! ## What an accepted request presents -/

/-- The credential, signed names and signature of a request. -/
def HTTPRequest.presented (request : HTTPRequest) : Presented :=
  if request.presigned then queryPresented request
  else headerPresented request

/-- The canonical request that is checked. -/
def HTTPRequest.canonical (platform : Platform) (request : HTTPRequest) :
    Option Bytes :=
  if request.presigned then
    canonicalPresignedRequest platform request request.presented.names
  else some (canonicalRequest request request.presented.names)

/-- The facts that an accepted request comes with. -/
structure Accepted
    (platform : Platform) (signer : Signer) (request : HTTPRequest)
    (creds : Credentials) : Prop where
  checked : ∃ accessKey dateStamp region service terminal canonical,
    request.presented.credential.splitOn 47 =
      [accessKey, dateStamp, region, service, terminal] ∧
    signer.lookup accessKey = some creds ∧
    request.canonical platform = some canonical ∧
    request.presented.signature =
      sign platform creds.secretKey dateStamp signer.region signer.service
        (buildStringToSign platform request.presented.credential canonical
          request)
  required : requireSignedHeaders request request.presented.names = true

variable {platform : Platform} {signer : Signer} {request : HTTPRequest}
  {creds : Credentials} {now : Time}

theorem checkSigned_ok_iff
    {presented : Presented} {found : Credentials}
    {dateStamp canonical : Bytes} :
    checkSigned platform signer request presented creds dateStamp
        canonical = .ok found ↔
      presented.signature =
          sign platform creds.secretKey dateStamp signer.region
            signer.service
            (buildStringToSign platform presented.credential canonical
              request) ∧
        requireSignedHeaders request presented.names = true ∧
        validateSessionToken request creds = true ∧ creds = found := by
  unfold checkSigned
  split_ifs with mismatch unsigned invalid
  · simp [mismatch]
  · simp [unsigned]
  · simp [invalid]
  · simp only [not_not] at mismatch unsigned invalid
    simp [← mismatch, unsigned, invalid]

theorem verifyHeader_ok_iff :
    verifyHeader platform signer request = .ok creds ↔
      (request.headerGet authorizationName ≠ [] ∧
        authScheme.isPrefixOf (request.headerGet authorizationName) = true ∧
        authField request.authParts (ascii "Credential") ≠ none) ∧
      ∃ accessKey dateStamp region service terminal found,
        (headerPresented request).credential.splitOn 47 =
          [accessKey, dateStamp, region, service, terminal] ∧
        signer.lookup accessKey = some found ∧
        checkSigned platform signer request (headerPresented request) found
          dateStamp
          (canonicalRequest request (headerPresented request).names) =
            .ok creds := by
  constructor
  · intro accepted
    unfold verifyHeader at accepted
    dsimp only at accepted
    split_ifs at accepted with missing scheme field
    split at accepted
    · rename_i accessKey dateStamp region service terminal fields
      split at accepted
      · cases accepted
      · rename_i found known
        exact ⟨⟨missing, by simpa using scheme, field⟩, accessKey, dateStamp,
          region, service, terminal, found, fields, known, accepted⟩
    · cases accepted
  · rintro ⟨⟨missing, scheme, field⟩, accessKey, dateStamp, region, service,
      terminal, found, fields, known, checked⟩
    unfold verifyHeader
    dsimp only
    rw [if_neg missing, if_neg (by simp [scheme]), if_neg field, fields]
    dsimp only
    rw [known]
    exact checked

theorem verifyPresigned_ok_iff :
    verifyPresigned platform signer now request = .ok creds ↔
      presignErr platform now request = none ∧
      ∃ accessKey dateStamp region service terminal found canonical,
        (queryPresented request).credential.splitOn 47 =
          [accessKey, dateStamp, region, service, terminal] ∧
        ¬(signer.rootAccessKey ≠ [] ∧ accessKey = signer.rootAccessKey) ∧
        signer.lookup accessKey = some found ∧
        canonicalPresignedRequest platform request
          (queryPresented request).names = some canonical ∧
        checkSigned platform signer request (queryPresented request) found
          dateStamp canonical = .ok creds := by
  constructor
  · intro accepted
    unfold verifyPresigned at accepted
    dsimp only at accepted
    split at accepted
    · rename_i accessKey dateStamp region service terminal fields
      split_ifs at accepted with root
      split at accepted
      · cases accepted
      · cases accepted
      · cases accepted
      · rename_i found canonical known timely written
        exact ⟨timely, accessKey, dateStamp, region, service, terminal,
          found, canonical, fields, root, known, written, accepted⟩
    · cases accepted
  · rintro ⟨timely, accessKey, dateStamp, region, service, terminal, found,
      canonical, fields, root, known, written, checked⟩
    unfold verifyPresigned
    dsimp only
    rw [fields]
    dsimp only
    rw [if_neg root, known, timely, written]
    exact checked

theorem accepted_of_authenticate
    (accepted : authenticate platform signer now request = .ok creds) :
    Accepted platform signer request creds := by
  unfold authenticate at accepted
  split_ifs at accepted with presigned
  · have presented : request.presented = queryPresented request :=
      if_pos presigned
    obtain ⟨-, accessKey, dateStamp, region, service, terminal, found,
      canonical, fields, -, known, written, checked⟩ :=
      verifyPresigned_ok_iff.mp accepted
    obtain ⟨signature, required, -, rfl⟩ := checkSigned_ok_iff.mp checked
    rw [← presented] at fields written signature required
    refine ⟨⟨accessKey, dateStamp, region, service, terminal, canonical,
      fields, known, ?_, signature⟩, required⟩
    rw [HTTPRequest.canonical, if_pos presigned, written]
  · have presented : request.presented = headerPresented request :=
      if_neg presigned
    obtain ⟨-, accessKey, dateStamp, region, service, terminal, found,
      fields, known, checked⟩ := verifyHeader_ok_iff.mp accepted
    obtain ⟨signature, required, -, rfl⟩ := checkSigned_ok_iff.mp checked
    rw [← presented] at fields signature required
    refine ⟨⟨accessKey, dateStamp, region, service, terminal, _, fields,
      known, ?_, signature⟩, required⟩
    rw [HTTPRequest.canonical, if_neg presigned]

/-! ## What authentication reads -/

/-- The requests differ in nothing that the signature is computed from. -/
structure SameReading
    (platform : Platform) (left right : HTTPRequest) : Prop where
  query : left.query = right.query
  authorization :
    left.headerGet authorizationName = right.headerGet authorizationName
  date : left.headerGet amzDateName = right.headerGet amzDateName
  token :
    left.headerGet securityTokenName = right.headerGet securityTokenName
  canonical : left.canonical platform = right.canonical platform

namespace SameReading

variable {platform : Platform} {left right : HTTPRequest}
  (same : SameReading platform left right)

include same

theorem presigned_eq : left.presigned = right.presigned := by
  rw [HTTPRequest.presigned, same.query, HTTPRequest.presigned]

theorem headerPresented_eq :
    headerPresented left = headerPresented right := by
  unfold headerPresented HTTPRequest.authParts
  rw [same.authorization]

theorem queryPresented_eq : queryPresented left = queryPresented right := by
  unfold queryPresented
  rw [same.query]

theorem presented_eq : left.presented = right.presented := by
  rw [HTTPRequest.presented, HTTPRequest.presented, same.presigned_eq,
    same.headerPresented_eq, same.queryPresented_eq]

theorem date_eq : left.date = right.date := by
  unfold HTTPRequest.date
  rw [same.date, same.query]

theorem checkSigned_ok
    {presented : Presented} {found : Credentials}
    {dateStamp canonical : Bytes}
    (required : requireSignedHeaders right presented.names = true)
    (checked : checkSigned platform signer left presented creds dateStamp
      canonical = .ok found) :
    checkSigned platform signer right presented creds dateStamp canonical =
      .ok found := by
  obtain ⟨signature, -, token, rfl⟩ := checkSigned_ok_iff.mp checked
  refine checkSigned_ok_iff.mpr ⟨?_, required, ?_, rfl⟩
  · rwa [buildStringToSign, ← same.date_eq]
  · unfold validateSessionToken at token ⊢
    rwa [← same.token, ← same.query]

/-- A request is accepted with its signed headers, whatever else changes. -/
theorem authenticate_ok
    (required : requireSignedHeaders right right.presented.names = true)
    (accepted : authenticate platform signer now left = .ok creds) :
    authenticate platform signer now right = .ok creds := by
  have canonical := same.canonical
  rw [HTTPRequest.canonical, HTTPRequest.canonical, same.presigned_eq,
    same.presented_eq] at canonical
  unfold authenticate at accepted ⊢
  rw [same.presigned_eq] at accepted
  split_ifs at accepted canonical ⊢ with presigned
  · have presented : right.presented = queryPresented right :=
      if_pos presigned
    obtain ⟨timely, accessKey, dateStamp, region, service, terminal, found,
      text, fields, root, known, written, checked⟩ :=
      verifyPresigned_ok_iff.mp accepted
    have otherTimely : presignErr platform now right = none := by
      unfold presignErr at timely ⊢
      rwa [← same.query]
    rw [presented] at required canonical
    rw [same.queryPresented_eq] at fields written checked
    exact verifyPresigned_ok_iff.mpr ⟨otherTimely, accessKey, dateStamp,
      region, service, terminal, found, text, fields, root, known,
      canonical ▸ written, same.checkSigned_ok required checked⟩
  · have presented : right.presented = headerPresented right :=
      if_neg presigned
    obtain ⟨⟨missing, scheme, field⟩, accessKey, dateStamp, region, service,
      terminal, found, fields, known, checked⟩ :=
      verifyHeader_ok_iff.mp accepted
    have otherField :
        authField right.authParts (ascii "Credential") ≠ none := by
      rwa [HTTPRequest.authParts, ← same.authorization]
    rw [same.authorization] at missing scheme
    rw [presented] at required canonical
    rw [same.headerPresented_eq, Option.some.inj canonical] at checked
    rw [same.headerPresented_eq] at fields
    exact verifyHeader_ok_iff.mpr ⟨⟨missing, scheme, otherField⟩, accessKey,
      dateStamp, region, service, terminal, found, fields, known,
      same.checkSigned_ok required checked⟩

end SameReading

end DataSafe.Auth
