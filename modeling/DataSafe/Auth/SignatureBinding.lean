import DataSafe.Auth.CanonicalRequest

/-!
# What a signature binds

Two accepted requests with one credential, date and signature have one
canonical request.  They agree in all that is signed as long as the signed
names are spelled as the canonicaliser looks them up: `requireSignedHeaders`
compares names in lower case and trimmed, while `canonicalHeaders` takes them
as they are and binds no value to a name in another spelling.

A presigned request is canonicalised after its URL was written and parsed
again.  That drops what follows a number sign in the query, and it takes the
first component of a path that starts with two slashes for a host.
-/

namespace DataSafe.Auth

open Base Metadata

/-! ## Statements -/

/-- One kind of request with one credential, date and signature. -/
structure SameSignature (left right : HTTPRequest) : Prop where
  presigned : left.presigned = right.presigned
  credential : left.presented.credential = right.presented.credential
  date : left.date = right.date
  signature : left.presented.signature = right.presented.signature

/-- The requests agree in what a signature is to bind. -/
structure Agree (left right : HTTPRequest) : Prop where
  method : left.method = right.method
  path : left.url.path = right.url.path
  query : (unsignedPairs left.query).Perm (unsignedPairs right.query)
  host : left.host = right.host
  names : left.presented.names = right.presented.names
  amz : ∀ name : HeaderName, amzPrefixed name.text = true →
    left.value name = right.value name

/--
A presigned request whose URL survives being written and parsed again, and
whose signed names are on one line.
-/
structure Plain (request : HTTPRequest) : Prop where
  query : request.presigned = true → 35 ∉ request.url.rawQuery
  path : request.presigned = true → request.url.authorityPath = false
  names : request.presigned = true →
    lineFeed ∉ request.presented.signedHeaders

/-- The names that have to be signed are spelled in lower case. -/
def SignedLiterally (request : HTTPRequest) : Prop :=
  ∀ name : HeaderName, name = hostName ∨ amzPrefixed name.text = true →
    name.text ∈ signedNames request.presented.names →
    name.text ∈ request.presented.names

/-! ## Signed names -/

theorem names_join (presented : Presented) :
    [59].intercalate presented.names = presented.signedHeaders :=
  List.intercalate_splitOn 59

variable {byte : UInt8} {request left right : HTTPRequest}
  {signed : List Bytes} {name : HeaderName} {platform : Platform}
  {signer : Signer} {creds found : Credentials}

theorem mem_of_mem_trimQuotes
    {text : Bytes} (member : byte ∈ trimQuotes text) :
    byte ∈ text := by
  rw [trimQuotes, List.mem_reverse] at member
  have back := (List.dropWhile_suffix _).subset member
  rw [List.mem_reverse] at back
  exact (List.dropWhile_suffix _).subset back

theorem mem_of_mem_authField
    {text name value : Bytes}
    (found : authField (parseAuthHeader text) name = some value)
    (member : byte ∈ value) : byte ∈ text := by
  rw [authField, Option.map_eq_some_iff] at found
  obtain ⟨part, picked, rfl⟩ := found
  have listed := List.mem_of_find?_eq_some picked
  rw [List.mem_reverse, parseAuthHeader, List.mem_filterMap] at listed
  obtain ⟨source, present, parsed⟩ := listed
  rw [authPart] at parsed
  split_ifs at parsed
  obtain rfl := Option.some.inj parsed
  have inPart := (List.dropWhile_suffix _).subset
    (List.mem_of_mem_drop (mem_of_mem_trimQuotes member))
  exact mem_of_mem_splitOn present (mem_of_mem_trimSpace inPart)

/-- The names that the `Authorization` header lists are on one line. -/
theorem lineFeed_notMem_headerPresented (request : HTTPRequest) :
    lineFeed ∉ (headerPresented request).signedHeaders := by
  intro member
  rw [headerPresented] at member
  cases found : authField request.authParts (ascii "SignedHeaders") with
  | none =>
    rw [found] at member
    cases member
  | some value =>
    rw [found] at member
    have inside := List.mem_of_mem_drop (mem_of_mem_authField found member)
    rw [HTTPRequest.headerGet] at inside
    cases stored : request.header.get authorizationName with
    | none =>
      rw [stored] at inside
      cases inside
    | some values =>
      rw [stored] at inside
      exact values.first.unbroken inside

theorem Plain.lineFeed_notMem
    (plain : Plain request) :
    ∀ name ∈ request.presented.names, lineFeed ∉ name := by
  intro name present inside
  have member := mem_of_mem_splitOn present inside
  by_cases presigned : request.presigned = true
  · exact plain.names presigned member
  · have presented : request.presented = headerPresented request :=
      if_neg presigned
    rw [presented] at member
    exact lineFeed_notMem_headerPresented request member

theorem requireSignedHeaders_host
    (required : requireSignedHeaders request signed = true) :
    hostName.text ∈ signedNames signed := by
  rw [requireSignedHeaders, Bool.and_eq_true, decide_eq_true_eq] at required
  exact required.1

theorem requireSignedHeaders_amz
    (required : requireSignedHeaders request signed = true)
    (amz : amzPrefixed name.text = true)
    {values : HeaderValues} (present : request.header.get name = some values) :
    name.text ∈ signedNames signed := by
  rw [requireSignedHeaders, Bool.and_eq_true] at required
  have entry := List.all_eq_true.mp required.2 _
    ((Table.mem_entries_iff _ _ _).mpr present)
  simpa [amz] using entry

/-! ## Equal signatures -/

/-- Equal signatures under one credential and date have one source. -/
theorem canonical_eq_of_sameSignature
    (free : platform.CollisionFree)
    (leftAccepted : Accepted platform signer left creds)
    (rightAccepted : Accepted platform signer right found)
    (same : SameSignature left right) :
    left.canonical platform = right.canonical platform := by
  obtain ⟨accessKey, dateStamp, _, _, _, leftText, leftFields, leftKnown,
    leftCanonical, leftSignature⟩ := leftAccepted.checked
  obtain ⟨otherKey, otherStamp, _, _, _, rightText, rightFields, rightKnown,
    rightCanonical, rightSignature⟩ := rightAccepted.checked
  rw [same.credential, rightFields] at leftFields
  obtain ⟨rfl, rfl, -⟩ := leftFields
  obtain rfl := Option.some.inj (leftKnown.symm.trans rightKnown)
  have signatures := leftSignature.symm.trans
    (same.signature.trans rightSignature)
  have texts := free.hmac _ (hexText_injective signatures)
  rw [buildStringToSign, buildStringToSign, same.date, same.credential]
    at texts
  simp only [List.intercalate_cons_cons, List.intercalate_singleton,
    List.append_cancel_left_eq] at texts
  rw [leftCanonical, rightCanonical, free.sha256 (hexText_injective texts)]

/-- The pairs that are signed. -/
def HTTPRequest.boundPairs (request : HTTPRequest) :
    List (Bytes × Bytes) :=
  if request.presigned then unsignedPairs request.query else request.query

/-- The payload line of the canonical request. -/
def HTTPRequest.payloadLine (request : HTTPRequest) : Bytes :=
  if request.presigned then ascii "UNSIGNED-PAYLOAD"
  else request.headerGet contentSha256Name

theorem RequestURL.reparse_eq
    (platform : Platform) {url : RequestURL}
    (query : 35 ∉ url.rawQuery) (path : url.authorityPath = false) :
    url.reparse platform = some (url.escapedPath, url.rawQuery) := by
  rw [RequestURL.reparse, cut_of_notMem query]
  simp [path]

theorem Plain.canonical_eq
    (plain : Plain request) (platform : Platform) :
    request.canonical platform =
      some (canonicalText request request.presented.names
        (uriEncode request.url.escapedPath)
        (canonicalQuery request.boundPairs) request.payloadLine) := by
  unfold HTTPRequest.canonical HTTPRequest.boundPairs HTTPRequest.payloadLine
  by_cases presigned : request.presigned = true
  · rw [if_pos presigned, if_pos presigned, if_pos presigned,
      canonicalPresignedRequest,
      RequestURL.reparse_eq platform (plain.query presigned)
        (plain.path presigned)]
    rfl
  · rw [if_neg presigned, if_neg presigned, if_neg presigned]
    rfl

theorem lineFeed_notMem_headerGet
    (request : HTTPRequest) (name : HeaderName) :
    lineFeed ∉ request.headerGet name := by
  rw [HTTPRequest.headerGet]
  cases request.header.get name with
  | none => exact List.not_mem_nil
  | some values => exact values.first.unbroken

theorem lineFeed_notMem_payloadLine (request : HTTPRequest) :
    lineFeed ∉ request.payloadLine := by
  unfold HTTPRequest.payloadLine
  split_ifs
  · decide
  · exact lineFeed_notMem_headerGet request _

/-- The lines of the canonical requests of equally signed plain requests. -/
theorem sameLines_of_sameSignature
    (free : platform.CollisionFree)
    (leftAccepted : Accepted platform signer left creds)
    (rightAccepted : Accepted platform signer right found)
    (leftPlain : Plain left) (rightPlain : Plain right)
    (same : SameSignature left right) :
    SameLines left right left.presented.names right.presented.names
      (uriEncode left.url.escapedPath) (uriEncode right.url.escapedPath)
      (canonicalQuery left.boundPairs) (canonicalQuery right.boundPairs) := by
  have texts := canonical_eq_of_sameSignature free leftAccepted rightAccepted
    same
  rw [leftPlain.canonical_eq, rightPlain.canonical_eq] at texts
  have unbroken : ∀ request : HTTPRequest, Plain request →
      ∀ line ∈ canonicalLines request request.presented.names
        (uriEncode request.url.escapedPath)
        (canonicalQuery request.boundPairs) request.payloadLine,
        lineFeed ∉ line := by
    intro request plain
    exact lineFeed_notMem_canonicalLines request plain.lineFeed_notMem
      (lineFeed_notMem_uriEncode _) (lineFeed_notMem_canonicalQuery _)
      (lineFeed_notMem_payloadLine request)
  exact sameLines_of_canonicalText_eq (List.splitOn_ne_nil _ _)
    (List.splitOn_ne_nil _ _) (unbroken left leftPlain)
    (unbroken right rightPlain) (Option.some.inj texts)

theorem unsignedPairs_perm
    (presigned : left.presigned = right.presigned)
    (perm : left.boundPairs.Perm right.boundPairs) :
    (unsignedPairs left.query).Perm (unsignedPairs right.query) := by
  unfold HTTPRequest.boundPairs at perm
  rw [presigned] at perm
  split_ifs at perm
  · exact perm
  · exact perm.filter _

theorem HTTPRequest.lower_amz
    (request : HTTPRequest) (amz : amzPrefixed name.text = true) :
    request.lower name.text = request.value name := by
  have noHost : name.text ≠ hostName.text := by
    intro same
    rw [same] at amz
    exact absurd amz (by decide)
  rw [HTTPRequest.lower, if_neg noHost, dif_pos name.token]

/-- Literally signed names bind all that a signature is to bind. -/
theorem agree_of_signedLiterally
    (free : platform.CollisionFree)
    (leftAccepted : Accepted platform signer left creds)
    (rightAccepted : Accepted platform signer right found)
    (leftPlain : Plain left) (rightPlain : Plain right)
    (same : SameSignature left right) (literal : SignedLiterally left) :
    Agree left right := by
  have lines := sameLines_of_sameSignature free leftAccepted rightAccepted
    leftPlain rightPlain same
  have names : left.presented.names = right.presented.names := by
    have texts := lines.signed
    rw [names_join, names_join] at texts
    rw [Presented.names, texts, Presented.names]
  have perm := lines.lines
  rw [← names] at perm
  have bound : ∀ name : HeaderName,
      name = hostName ∨ amzPrefixed name.text = true →
      name.text ∈ signedNames left.presented.names →
      left.lower name.text = right.lower name.text := by
    intro name needed signed
    exact lower_eq_of_lines_perm perm (literal name needed signed)
      name.token.colon_notMem
  refine ⟨Line.ext lines.method, ?_,
    unsignedPairs_perm same.presigned (perm_of_canonicalQuery_eq lines.query),
    ?_, names, ?_⟩
  · have escaped := uriEncode_injective lines.path
    simp only [RequestURL.path, escaped]
  · have host := bound hostName (.inl rfl)
      (requireSignedHeaders_host leftAccepted.required)
    exact Line.ext host
  · intro name amz
    have rightRequired := rightAccepted.required
    rw [← names] at rightRequired
    by_cases signed : name.text ∈ signedNames left.presented.names
    · have value := bound name (.inr amz) signed
      rwa [left.lower_amz amz, right.lower_amz amz] at value
    · -- A header that is not signed is on neither request.
      have leftAbsent : left.header.get name = none := by
        rw [Option.eq_none_iff_forall_ne_some]
        intro values present
        exact signed (requireSignedHeaders_amz leftAccepted.required amz
          present)
      have rightAbsent : right.header.get name = none := by
        rw [Option.eq_none_iff_forall_ne_some]
        intro values present
        exact signed (requireSignedHeaders_amz rightRequired amz present)
      rw [HTTPRequest.value, HTTPRequest.value, leftAbsent, rightAbsent]

/-! ## Requests that share a signature -/

/-- Requests with one URL that differ in headers without a signed line. -/
theorem canonical_eq_of_lower_eq
    (platform : Platform)
    (method : left.method = right.method) (url : left.url = right.url)
    (get : ∀ name, left.headerGet name = right.headerGet name)
    (lower : ∀ name ∈ left.presented.names,
      left.lower name = right.lower name) :
    SameReading platform left right := by
  have query : left.query = right.query := by
    rw [HTTPRequest.query, url, HTTPRequest.query]
  have presigned : left.presigned = right.presigned := by
    rw [HTTPRequest.presigned, query, HTTPRequest.presigned]
  have presented : left.presented = right.presented := by
    unfold HTTPRequest.presented headerPresented queryPresented
      HTTPRequest.authParts
    rw [presigned, query, get]
  have headers : canonicalHeaders left left.presented.names =
      canonicalHeaders right left.presented.names := by
    have lines : left.presented.names.map (headerLine left) =
        left.presented.names.map (headerLine right) := by
      apply List.map_congr_left
      intro name member
      rw [headerLine, headerLine, lower name member]
    rw [canonicalHeaders, canonicalHeaders, lines]
  refine ⟨query, get _, get _, get _, ?_⟩
  unfold HTTPRequest.canonical canonicalPresignedRequest canonicalRequest
    canonicalText
  rw [presigned, headers, method, url, query, get, presented]

theorem SameReading.sameSignature
    (same : SameReading platform left right) : SameSignature left right :=
  ⟨same.presigned_eq, congrArg Presented.credential same.presented_eq,
    same.date_eq, congrArg Presented.signature same.presented_eq⟩

theorem Plain.of_sameReading
    (plain : Plain left)
    (same : SameReading platform left right) (url : left.url = right.url) :
    Plain right := by
  obtain ⟨query, path, names⟩ := plain
  rw [same.presigned_eq, url] at query path
  rw [same.presigned_eq, same.presented_eq] at names
  exact ⟨query, path, names⟩

/-- The request with another host. -/
def withHost (request : HTTPRequest) : HTTPRequest :=
  { request with
    host := ⟨request.host.text ++ [120], fun member =>
      (List.mem_append.mp member).elim request.host.unbroken (by decide)⟩ }

theorem sameReading_withHost
    (platform : Platform)
    (unsigned : hostName.text ∉ request.presented.names) :
    SameReading platform request (withHost request) := by
  refine canonical_eq_of_lower_eq platform rfl rfl (fun _ => rfl) ?_
  intro name member
  have other : name ≠ hostName.text := fun same => unsigned (same ▸ member)
  rw [HTTPRequest.lower, if_neg other, HTTPRequest.lower, if_neg other]
  rfl

/-- The first line of a header, empty if there is none. -/
def firstLine (request : HTTPRequest) (name : HeaderName) : Line :=
  match request.header.get name with
  | some values => values.first
  | none => ⟨[], List.not_mem_nil⟩

/-- The request with a second line of a header. -/
def withLine (request : HTTPRequest) (name : HeaderName) (line : Line) :
    HTTPRequest :=
  { request with
    header := request.header.put name ⟨firstLine request name, [line]⟩ }

theorem headerGet_withLine
    (request : HTTPRequest) (name : HeaderName) (line : Line)
    (other : HeaderName) :
    (withLine request name line).headerGet other =
      request.headerGet other := by
  unfold HTTPRequest.headerGet withLine
  rw [Table.get_put]
  split_ifs with same
  · rw [same, firstLine]
    cases request.header.get name <;> rfl
  · rfl

theorem value_withLine_of_ne
    (request : HTTPRequest) {other : HeaderName} (line : Line)
    (distinct : other ≠ name) :
    (withLine request name line).value other = request.value other := by
  unfold HTTPRequest.value withLine
  rw [Table.get_put_of_ne _ _ distinct]

theorem sameReading_withLine
    (platform : Platform)
    (line : Line) (unsigned : name.text ∉ request.presented.names) :
    SameReading platform request (withLine request name line) := by
  refine canonical_eq_of_lower_eq platform rfl rfl
    (fun other => (headerGet_withLine request name line other).symm) ?_
  intro other member
  have distinct : other ≠ name.text := fun same => unsigned (same ▸ member)
  unfold HTTPRequest.lower
  split_ifs with host token
  · rfl
  · refine (value_withLine_of_ne request line ?_).symm
    exact fun same => distinct (congrArg HeaderName.text same)
  · rfl

theorem requireSignedHeaders_withLine
    (line : Line) (listed : name.text ∈ signedNames signed)
    (required : requireSignedHeaders request signed = true) :
    requireSignedHeaders (withLine request name line) signed = true := by
  rw [requireSignedHeaders, Bool.and_eq_true, List.all_eq_true] at required ⊢
  refine ⟨required.1, ?_⟩
  intro entry member
  rcases List.mem_cons.mp member with rfl | member
  · simp [listed]
  · exact required.2 entry (List.mem_filter.mp member).1

/-- The new line ends the value of its header. -/
theorem getLast_value_withLine
    (request : HTTPRequest) (name : HeaderName) (unbroken : lineFeed ∉ [byte])
    (outside : ∀ rune ∈ spaceRunes, byte ∉ rune) :
    ((withLine request name ⟨[byte], unbroken⟩).value name).getLast? =
      some byte := by
  have stored :
      (withLine request name ⟨[byte], unbroken⟩).header.get name =
        some ⟨firstLine request name, [⟨[byte], unbroken⟩]⟩ :=
    Table.get_put_self _ _ _
  have joined :
      HeaderValues.joined ⟨firstLine request name, [⟨[byte], unbroken⟩]⟩ =
        ((firstLine request name).text ++ [44]) ++ [byte] := by
    simp [HeaderValues.joined]
  rw [HTTPRequest.value, stored]
  dsimp only
  rw [joined]
  exact getLast_trimSpace outside _

/-- A header that is signed in another spelling is not bound. -/
theorem signedLiterally_of_agree
    {now : Time}
    (accepted : authenticate platform signer now request = .ok creds)
    (plain : Plain request)
    (agree : ∀ other, authenticate platform signer now other = .ok creds →
      Plain other → SameSignature request other → Agree request other) :
    SignedLiterally request := by
  have required := (accepted_of_authenticate accepted).required
  intro name needed signed
  by_contra unsigned
  have partner : ∀ other, SameReading platform request other →
      request.url = other.url →
      requireSignedHeaders other request.presented.names = true →
      Agree request other := by
    intro other same url otherRequired
    rw [same.presented_eq] at otherRequired
    exact agree other (same.authenticate_ok otherRequired accepted)
      (plain.of_sameReading same url) same.sameSignature
  rcases needed with rfl | amz
  · have agrees := partner _ (sameReading_withHost platform unsigned) rfl
      required
    have texts := congrArg (fun line => line.text.length) agrees.host
    simp [withHost] at texts
  · have value : ∀ byte (unbroken : lineFeed ∉ [byte]),
        (∀ rune ∈ spaceRunes, byte ∉ rune) →
        (request.value name).getLast? = some byte := by
      intro byte unbroken outside
      have agrees := partner _
        (sameReading_withLine platform ⟨[byte], unbroken⟩ unsigned) rfl
        (requireSignedHeaders_withLine _ signed required)
      rw [agrees.amz name amz]
      exact getLast_value_withLine request name unbroken outside
    have one := value 120 (by decide) (by decide)
    have two := value 121 (by decide) (by decide)
    rw [one] at two
    exact absurd two (by decide)

/-! ## Paths of presigned requests -/

theorem percentDecode_behind_authority (path : Bytes) :
    percentDecode (ascii "//a" ++ path) =
      (percentDecode path).map (ascii "//a" ++ ·) := by
  have bytes : ascii "//a" = [47, 47, 97] := by decide
  rw [bytes, List.cons_append, List.cons_append, List.cons_append,
    percentDecode_cons_of_ne (by decide),
    percentDecode_cons_of_ne (by decide),
    percentDecode_cons_of_ne (by decide), Option.map_map, Option.map_map]
  rfl

/-- The request for the path below a host that is not asked. -/
def behindAuthority (request : HTTPRequest) : HTTPRequest :=
  { request with
    url := { request.url with
      escapedPath := ascii "//a" ++ request.url.escapedPath
      decodes := by
        rw [percentDecode_behind_authority, Option.isSome_map]
        exact request.url.decodes } }

theorem path_behindAuthority (request : HTTPRequest) :
    (behindAuthority request).url.path =
      ascii "//a" ++ request.url.path := by
  simp only [RequestURL.path, behindAuthority,
    percentDecode_behind_authority, Option.get_map]

theorem reparse_behindAuthority
    (valid : platform.validAuthority (ascii "a") = true)
    (query : 35 ∉ request.url.rawQuery)
    (relative : request.url.absolute = false)
    {rest : Bytes} (rooted : request.url.escapedPath = 47 :: rest) :
    (behindAuthority request).url.reparse platform =
      some (request.url.escapedPath, request.url.rawQuery) := by
  have split : (ascii "//a" ++ request.url.escapedPath).drop 2 =
      97 :: 47 :: rest := by
    rw [rooted]
    rfl
  have authority : (behindAuthority request).url.authorityPath = true := by
    have parts : ascii "//a" = [47, 47, 97] := by decide
    have two : ascii "//" = [47, 47] := by decide
    have three : ascii "///" = [47, 47, 47] := by decide
    simp [RequestURL.authorityPath, behindAuthority, relative, parts, two,
      three, List.isPrefixOf]
  have host : ascii "a" = [97] := by decide
  rw [RequestURL.reparse, authority]
  dsimp only [behindAuthority]
  rw [cut_of_notMem query, split, rooted]
  simp [← host, valid]

/-- A presigned request does not bind its path. -/
theorem sameReading_behindAuthority
    (valid : platform.validAuthority (ascii "a") = true)
    (plain : Plain request) (presigned : request.presigned = true)
    (relative : request.url.absolute = false) {rest : Bytes}
    (rooted : request.url.escapedPath = 47 :: rest) :
    SameReading platform request (behindAuthority request) := by
  refine ⟨rfl, rfl, rfl, rfl, ?_⟩
  have query := plain.query presigned
  have other : (behindAuthority request).presigned = true := presigned
  rw [HTTPRequest.canonical, if_pos presigned, HTTPRequest.canonical,
    if_pos other, canonicalPresignedRequest, canonicalPresignedRequest,
    reparse_behindAuthority valid query relative rooted,
    RequestURL.reparse_eq platform query (plain.path presigned)]
  rfl

/-! ## Binding -/

/-- A platform without collisions. -/
def plainPlatform : Platform where
  sha256 := id
  hmac := fun key text => key ++ text
  parseTime := fun _ => some 0
  scanInt := fun _ => some 3600
  validAuthority := fun _ => true
  validFragment := fun _ => true

theorem plainPlatform_collisionFree : plainPlatform.CollisionFree :=
  ⟨Function.injective_id, fun _ _ _ same => List.append_cancel_left same⟩

def aliceCredentials : Credentials :=
  ⟨ascii "alice", ascii "secret", []⟩

/-- A signer that knows one key. -/
def aliceSigner : Signer where
  region := ascii "us"
  service := ascii "s3"
  lookup := fun accessKey =>
    if accessKey = ascii "alice" then some aliceCredentials else none
  rootAccessKey := []

def metaColorName : HeaderName := ⟨ascii "x-amz-meta-color", by decide +kernel⟩

def blueLine : Line := ⟨ascii "blue", by decide⟩

def redLine : Line := ⟨ascii "red", by decide⟩

def putMethod : Line := ⟨ascii "PUT", by decide⟩

def storeHost : Line := ⟨ascii "store", by decide⟩

def dateLine : Line := ⟨ascii "20260101T000000Z", by decide +kernel⟩

def keyURL : RequestURL := ⟨false, ascii "/b/k", [], by decide⟩

/-- A put of one object with its colour. -/
def colouredPut (color : Line) : HTTPRequest where
  method := putMethod
  url := keyURL
  host := storeHost
  header := Table.empty.put metaColorName ⟨color, []⟩

/-- The signature of the put of a blue object. -/
def blueSignature (signedHeaders : String) : Bytes :=
  let presented : Presented :=
    ⟨ascii "alice/d/us/s3/aws4_request", ascii signedHeaders, []⟩
  sign plainPlatform (ascii "secret") (ascii "d") (ascii "us") (ascii "s3")
    (buildStringToSign plainPlatform presented.credential
      (canonicalRequest (colouredPut blueLine) presented.names)
      (colouredPut blueLine))

def blueAuthorization (signedHeaders : String) : Bytes :=
  authScheme ++ ascii "Credential=alice/d/us/s3/aws4_request,SignedHeaders="
    ++ ascii signedHeaders ++ ascii ",Signature=" ++
    blueSignature signedHeaders

/-- The put with this `Authorization` header. -/
def authorizedPut (color : Line) (authorization : Line) : HTTPRequest :=
  { colouredPut color with
    header := (colouredPut color).header.put authorizationName
      ⟨authorization, []⟩ }

def lowerAuthorization : Line :=
  ⟨blueAuthorization "host;x-amz-meta-color", by decide +kernel⟩

def capitalAuthorization : Line :=
  ⟨blueAuthorization "host;X-Amz-Meta-Color", by decide +kernel⟩

/-- A put is not presigned, so it is plain. -/
theorem authorizedPut_plain (color authorization : Line) :
    Plain (authorizedPut color authorization) := by
  have header : (authorizedPut color authorization).presigned ≠ true := by
    change decide (queryGet (parseQuery []) _ ≠ []) ≠ true
    decide
  exact ⟨fun presigned => absurd presigned header,
    fun presigned => absurd presigned header,
    fun presigned => absurd presigned header⟩

end DataSafe.Auth
