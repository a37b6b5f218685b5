import DataSafe.Auth.SignatureBinding

/-!
# Correctly signed requests

A client that follows the specification signs the path encoded once, the
query pairs in the order of their encoded names and values, and the headers in
the order of their names with runs of spaces collapsed.  `Authenticate`
encodes the escaped path again, sorts the decoded pairs and the whole header
lines, and collapses nothing.  Where these agree the request is accepted; a
key with a byte that is encoded is refused.

`PresignURL` signs as `Authenticate` verifies, so that its URLs are accepted
whatever the key, unless the credentials have a session token.
-/

namespace DataSafe.Auth

open Base Metadata

/-! ## The specification -/

/-- Runs of spaces are collapsed. -/
def collapseSpaces : Bytes → Bytes
  | 32 :: 32 :: rest => collapseSpaces (32 :: rest)
  | byte :: rest => byte :: collapseSpaces rest
  | [] => []

/-- The order of pairs: by name, then by value. -/
def pairBefore (left right : Bytes × Bytes) : Prop :=
  left.1 < right.1 ∨ left.1 = right.1 ∧ left.2 ≤ right.2

/-- A pair with its name and value encoded. -/
def encodedNames (pair : Bytes × Bytes) : Bytes × Bytes :=
  (uriEncodeQuery pair.1, uriEncodeQuery pair.2)

/-- The canonical query: the encoded pairs, sorted and joined. -/
def SpecQuery (pairs : List (Bytes × Bytes)) (text : Bytes) : Prop :=
  ∃ sorted : List (Bytes × Bytes), sorted.Perm (pairs.map encodedNames) ∧
    sorted.Pairwise pairBefore ∧
    text = [38].intercalate (sorted.map fun pair => pair.1 ++ 61 :: pair.2)

/-- The canonical request of the specification. -/
def specCanonical (request : HTTPRequest) (names : List Bytes)
    (query payload : Bytes) : Bytes :=
  request.method.text ++ lineFeed :: uriEncode request.url.path ++
    lineFeed :: query ++
    lineFeed :: names.flatMap (fun name =>
      name ++ 58 :: collapseSpaces (request.lower name) ++ [lineFeed]) ++
    lineFeed :: [59].intercalate names ++ lineFeed :: payload

/-- A client signed these names, pairs and payload with this key. -/
structure SpecSigned
    (platform : Platform) (signer : Signer) (request : HTTPRequest)
    (creds : Credentials) (presented : Presented) (names : List Bytes)
    (pairs : List (Bytes × Bytes)) (dateStamp payload : Bytes) : Prop where
  /-- The request is sent with the path encoded once. -/
  sent : request.url.escapedPath = uriEncode request.url.path
  known : signer.lookup creds.accessKey = some creds
  credential : presented.credential = [47].intercalate
    [creds.accessKey, dateStamp, signer.region, signer.service,
      ascii "aws4_request"]
  fields : 47 ∉ creds.accessKey ∧ 47 ∉ dateStamp ∧ 47 ∉ signer.region ∧
    47 ∉ signer.service
  signedHeaders : presented.signedHeaders = [59].intercalate names
  /-- Names are in lower case, each once and in order. -/
  lowerCase : ∀ name ∈ names, normalName name = name ∧ name ≠ [] ∧ 59 ∉ name
  sorted : names.Pairwise (· < ·)
  host : hostName.text ∈ names
  amz : ∀ entry ∈ request.header.entries,
    amzPrefixed entry.1.text = true → entry.1.text ∈ names
  signature : ∃ query, SpecQuery pairs query ∧
    presented.signature = sign platform creds.secretKey dateStamp
      signer.region signer.service (buildStringToSign platform
        presented.credential (specCanonical request names query payload)
        request)
  token : validateSessionToken request creds = true

/-- Encoding keeps the order of names, and of the values of one name. -/
structure EncodesInOrder (pairs : List (Bytes × Bytes)) : Prop where
  names : ∀ left ∈ pairs, ∀ right ∈ pairs, left.1 < right.1 →
    uriEncodeQuery left.1 < uriEncodeQuery right.1
  values : ∀ left ∈ pairs, ∀ right ∈ pairs, left.1 = right.1 →
    left.2 ≤ right.2 → uriEncodeQuery left.2 ≤ uriEncodeQuery right.2

/-- Where the canonical request of the code is that of the specification. -/
structure PlainlySigned (request : HTTPRequest) (names : List Bytes)
    (pairs : List (Bytes × Bytes)) : Prop where
  path : ∀ byte ∈ request.url.path, (unreserved byte || byte == 47) = true
  query : EncodesInOrder pairs
  /-- No signed name begins with another one. -/
  apart : ∀ left ∈ names, ∀ right ∈ names, left <+: right → left = right
  spaces : ∀ name ∈ names,
    collapseSpaces (request.lower name) = request.lower name

/-! ## The canonical requests agree -/

theorem uriEncode_of_plain
    {text : Bytes}
    (plain : ∀ byte ∈ text, (unreserved byte || byte == 47) = true) :
    uriEncode text = text := by
  induction text with
  | nil => rfl
  | cons byte text induction =>
    have rest := induction (fun other member =>
      plain other (.tail _ member))
    rw [uriEncode, percentEncode] at rest ⊢
    rw [List.flatMap_cons, rest, percentByte, if_pos (plain byte (.head _))]
    rfl

theorem sortTexts_sorted (texts : List Bytes) :
    (sortTexts texts).Pairwise (· ≤ ·) := by
  apply List.pairwise_insertionSort

/-- The pairs are in the order of their names and values. -/
theorem sortedPairs_sorted (pairs : List (Bytes × Bytes)) :
    (sortedPairs pairs).Pairwise pairBefore := by
  rw [sortedPairs, grouped, List.pairwise_flatMap]
  constructor
  · intro key _
    rw [List.pairwise_map]
    exact (sortTexts_sorted _).imp fun before => .inr ⟨rfl, before⟩
  · have distinct : (sortTexts (pairs.map Prod.fst).dedup).Nodup :=
      (List.perm_insertionSort _ _).nodup_iff.mpr (List.nodup_dedup _)
    refine ((sortTexts_sorted _).and distinct).imp ?_
    rintro left right ⟨before, other⟩ first fromLeft second fromRight
    rcases List.mem_map.mp fromLeft with ⟨_, _, rfl⟩
    rcases List.mem_map.mp fromRight with ⟨_, _, rfl⟩
    left
    rcases List.le_iff_lt_or_eq.mp before with earlier | same
    · exact earlier
    · exact absurd same other

theorem canonicalQuery_of_specQuery
    {pairs : List (Bytes × Bytes)} {text : Bytes}
    (order : EncodesInOrder pairs) (query : SpecQuery pairs text) :
    canonicalQuery pairs = text := by
  rcases query with ⟨sorted, perm, ordered, rfl⟩
  have mine := sortedPairs_perm pairs
  have encoded : ((sortedPairs pairs).map encodedNames).Pairwise
      pairBefore := by
    rw [List.pairwise_map]
    refine (sortedPairs_sorted pairs).imp_of_mem ?_
    intro left right inLeft inRight before
    have inLeft := mine.mem_iff.mp inLeft
    have inRight := mine.mem_iff.mp inRight
    rcases before with earlier | ⟨same, before⟩
    · exact .inl (order.names left inLeft right inRight earlier)
    · exact .inr ⟨congrArg uriEncodeQuery same,
        order.values left inLeft right inRight same before⟩
  have equal : sorted = (sortedPairs pairs).map encodedNames := by
    refine List.Perm.eq_of_pairwise ?_ ordered encoded
      (perm.trans (mine.map encodedNames).symm)
    rintro left right _ _ (before | ⟨same, before⟩) (after | ⟨back, after⟩)
    · exact absurd after (List.lt_asymm before)
    · exact absurd (back ▸ before) (List.lt_irrefl _)
    · exact absurd (same ▸ after) (List.lt_irrefl _)
    · exact Prod.ext same (List.le_antisymm before after)
  rw [equal, List.map_map]
  rfl

/-- A line of an earlier name comes first, unless it begins the other. -/
theorem line_le
    {left right : Bytes} (before : left < right) (apart : ¬left <+: right)
    (leftValue rightValue : Bytes) :
    left ++ 58 :: leftValue ≤ right ++ 58 :: rightValue := by
  induction left generalizing right with
  | nil => exact absurd List.nil_prefix apart
  | cons byte left induction =>
    cases right with
    | nil => exact absurd before (List.not_lt_nil _)
    | cons other right =>
      rw [List.cons_append, List.cons_append, List.cons_le_cons_iff]
      rcases List.cons_lt_cons_iff.mp before with less | ⟨same, rest⟩
      · exact .inl less
      · refine .inr ⟨same, induction rest fun begins => apart ?_⟩
        exact List.cons_prefix_cons.mpr ⟨same, begins⟩

theorem intercalate_lines
    {lines : List Bytes} (some : lines ≠ []) :
    [lineFeed].intercalate lines ++ [lineFeed] =
      lines.flatMap (fun line => line ++ [lineFeed]) := by
  induction lines with
  | nil => exact absurd rfl some
  | cons line lines induction =>
    cases lines with
    | nil => simp
    | cons next lines =>
      rw [List.flatMap_cons, ← induction (List.cons_ne_nil _ _)]
      simp [List.intercalate_cons_cons]

theorem specCanonical_eq
    {request : HTTPRequest} {names : List Bytes}
    {pairs : List (Bytes × Bytes)} {query payload : Bytes}
    (sent : request.url.escapedPath = uriEncode request.url.path)
    (sorted : names.Pairwise (· < ·)) (some : names ≠ [])
    (plain : PlainlySigned request names pairs)
    (spec : SpecQuery pairs query) :
    specCanonical request names query payload =
      canonicalText request names (uriEncode request.url.escapedPath)
        (canonicalQuery pairs) payload := by
  have lines : (names.map (headerLine request)).Pairwise (· ≤ ·) := by
    rw [List.pairwise_map]
    refine sorted.imp_of_mem ?_
    intro left right inLeft inRight before
    refine line_le before (fun begins => ?_) _ _
    rw [plain.apart left inLeft right inRight begins] at before
    exact List.lt_irrefl _ before
  have headers : canonicalHeaders request names = names.flatMap
      (fun name => name ++ 58 :: collapseSpaces (request.lower name) ++
        [lineFeed]) := by
    rw [canonicalHeaders, sortTexts, lines.insertionSort_eq,
      intercalate_lines (by simpa using some), List.flatMap_map]
    refine List.flatMap_congr fun name member => ?_
    rw [plain.spaces name member, headerLine]
  rw [specCanonical, canonicalText, headers, sent,
    canonicalQuery_of_specQuery plain.query spec,
    uriEncode_of_plain plain.path, uriEncode_of_plain plain.path]

theorem splitOn_credential
    {accessKey dateStamp region service : Bytes}
    (fields : 47 ∉ accessKey ∧ 47 ∉ dateStamp ∧ 47 ∉ region ∧ 47 ∉ service) :
    ([47].intercalate [accessKey, dateStamp, region, service,
      ascii "aws4_request"]).splitOn 47 =
      [accessKey, dateStamp, region, service, ascii "aws4_request"] := by
  refine List.splitOn_intercalate 47 ?_ (List.cons_ne_nil _ _)
  have terminal : (47 : UInt8) ∉ ascii "aws4_request" := by decide
  simpa [terminal] using fields

variable {platform : Platform} {signer : Signer}

theorem SpecSigned.checkSigned
    {request : HTTPRequest} {creds : Credentials} {presented : Presented}
    {names : List Bytes} {pairs : List (Bytes × Bytes)}
    {dateStamp payload : Bytes}
    (signed : SpecSigned platform signer request creds presented names pairs
      dateStamp payload) (plain : PlainlySigned request names pairs) :
    presented.names = names ∧
    presented.credential.splitOn 47 = [creds.accessKey, dateStamp,
      signer.region, signer.service, ascii "aws4_request"] ∧
    checkSigned platform signer request presented creds dateStamp
      (canonicalText request names (uriEncode request.url.escapedPath)
        (canonicalQuery pairs) payload) = .ok creds := by
  have some : names ≠ [] := List.ne_nil_of_mem signed.host
  have listed : presented.names = names := by
    rw [Presented.names, signed.signedHeaders]
    exact List.splitOn_intercalate 59
      (fun name member => (signed.lowerCase name member).2.2) some
  have counted : signedNames names = names := by
    have same : names.map normalName = names := by
      conv_rhs => rw [← List.map_id names]
      exact List.map_congr_left fun name member =>
        (signed.lowerCase name member).1
    rw [signedNames, same, List.filter_eq_self]
    exact fun name member => decide_eq_true
      (signed.lowerCase name member).2.1
  refine ⟨listed, ?_, checkSigned_ok_iff.mpr ⟨?_, ?_, signed.token, rfl⟩⟩
  · rw [signed.credential]
    exact splitOn_credential signed.fields
  · rcases signed.signature with ⟨query, spec, signature⟩
    rw [signature, specCanonical_eq signed.sent signed.sorted some plain
      spec]
  · rw [listed, requireSignedHeaders, counted]
    simp only [Bool.and_eq_true, decide_eq_true_eq, List.all_eq_true,
      Bool.or_eq_true]
    refine ⟨signed.host, fun entry member => ?_⟩
    cases prefixed : amzPrefixed entry.1.text with
    | false => exact .inl rfl
    | true => exact .inr (signed.amz entry member prefixed)

/-! ## Acceptance -/

section Acceptance

variable {platform : Platform} {signer : Signer} {now : Time}
  {request : HTTPRequest} {creds : Credentials} {presented : Presented}
  {names : List Bytes} {dateStamp : Bytes}

theorem header_accepted
    (header : request.presigned = false)
    (scheme : authScheme.isPrefixOf (request.headerGet authorizationName) =
      true) (shown : headerPresented request = presented)
    (signed : SpecSigned platform signer request creds presented names
      request.query dateStamp (request.headerGet contentSha256Name))
    (plain : PlainlySigned request names request.query) :
    authenticate platform signer now request = .ok creds := by
  rcases signed.checkSigned plain with ⟨listed, fields, checked⟩
  rw [authenticate, if_neg (by simp [header]), verifyHeader_ok_iff]
  refine ⟨⟨?_, scheme, ?_⟩, creds.accessKey, dateStamp, signer.region,
    signer.service, ascii "aws4_request", creds, ?_, signed.known, ?_⟩
  · intro missing
    rw [missing] at scheme
    cases scheme
  · intro missing
    have empty : presented.credential = [] := by
      rw [← shown, headerPresented, missing]
      rfl
    rw [empty] at fields
    exact absurd (congrArg List.length fields) (by simp)
  · rw [shown, fields]
  · rw [shown, listed]
    exact checked

/-- The dates of a presigned request are in order. -/
structure InTime (platform : Platform) (now : Time) (request : HTTPRequest)
    (time seconds : Int) : Prop where
  date : queryGet request.query (ascii "X-Amz-Date") ≠ [] ∧
    platform.parseTime (queryGet request.query (ascii "X-Amz-Date")) =
      some time
  expires : queryGet request.query (ascii "X-Amz-Expires") ≠ [] ∧
    platform.scanInt (queryGet request.query (ascii "X-Amz-Expires")) =
      some seconds
  range : 1 ≤ seconds ∧ seconds ≤ maxPresignSeconds
  used : now - time ≤ seconds * 1000000000

theorem InTime.presignErr_eq
    {time seconds : Int} (inTime : InTime platform now request time seconds) :
    presignErr platform now request = none := by
  rcases inTime.range with ⟨least, most⟩
  simp only [presignErr, inTime.date.1, inTime.expires.1, or_self, if_false,
    inTime.date.2, inTime.expires.2]
  rw [if_neg (by omega), if_neg (Int.not_lt.mpr inTime.used)]

/-- A URL without a fragment or an authority is parsed as it was written. -/
theorem canonicalPresignedRequest_eq
    (platform : Platform) (whole : 35 ∉ request.url.rawQuery)
    (single : request.url.authorityPath = false) (names : List Bytes) :
    canonicalPresignedRequest platform request names =
      some (canonicalText request names (uriEncode request.url.escapedPath)
        (canonicalQuery (unsignedPairs request.query))
        (ascii "UNSIGNED-PAYLOAD")) := by
  have parsed : request.url.reparse platform =
      some (request.url.escapedPath, request.url.rawQuery) := by
    simp [RequestURL.reparse, cut_of_notMem whole, single]
  rw [canonicalPresignedRequest, parsed]
  rfl

theorem presigned_accepted
    {time seconds : Int} (presigned : request.presigned = true)
    (shown : queryPresented request = presented)
    (notRoot : creds.accessKey ≠ signer.rootAccessKey)
    (inTime : InTime platform now request time seconds)
    (whole : 35 ∉ request.url.rawQuery)
    (single : request.url.authorityPath = false)
    (fields : presented.credential.splitOn 47 = [creds.accessKey, dateStamp,
      signer.region, signer.service, ascii "aws4_request"])
    (known : signer.lookup creds.accessKey = some creds)
    (checked : checkSigned platform signer request presented creds dateStamp
      (canonicalText request presented.names (uriEncode
      request.url.escapedPath) (canonicalQuery (unsignedPairs request.query))
      (ascii "UNSIGNED-PAYLOAD")) = .ok creds) :
    authenticate platform signer now request = .ok creds := by
  rw [authenticate, if_pos presigned, verifyPresigned_ok_iff, shown]
  exact ⟨inTime.presignErr_eq, creds.accessKey, dateStamp, signer.region,
    signer.service, ascii "aws4_request", creds, _, fields,
    fun root => notRoot root.2, known,
    canonicalPresignedRequest_eq platform whole single _, checked⟩

end Acceptance

/-! ## `PresignURL` -/

/-- `url.QueryEscape` -/
def queryEscape (text : Bytes) : Bytes :=
  (percentEncode (fun byte => unreserved byte || byte == 32) text).map
    (fun byte => if byte = 32 then 43 else byte)

/-- `Values.Encode` of pairs in the order of their names. -/
def encodeValues (pairs : List (Bytes × Bytes)) : Bytes :=
  [38].intercalate (pairs.map fun pair =>
    queryEscape pair.1 ++ 61 :: queryEscape pair.2)

/-- `URL.EscapedPath` of a path that came without an encoding. -/
def escapePath (path : Bytes) : Bytes :=
  percentEncode (fun byte => unreserved byte ||
    decide (byte ∈ ascii "$&+,/:;=@")) path

/-- How times and numbers are printed. -/
structure Printer where
  amzDate : Time → Bytes
  dateStamp : Time → Bytes
  decimal : Nat → Bytes

structure PresignInput where
  method : Line
  /-- The endpoint, without a path or query of its own. -/
  host : Line
  bucket : Bytes
  key : Bytes
  creds : Credentials
  /-- The expiry in whole seconds. -/
  seconds : Nat
  now : Time

namespace PresignInput

def path (input : PresignInput) : Bytes :=
  47 :: input.bucket ++ if input.key = [] then [] else 47 :: input.key

def credential (input : PresignInput) (printer : Printer) (signer : Signer) :
    Bytes :=
  [47].intercalate [input.creds.accessKey, printer.dateStamp input.now,
    signer.region, signer.service, ascii "aws4_request"]

/-- The pairs of the query, with the signature if there is one. -/
def pairs (input : PresignInput) (printer : Printer) (signer : Signer)
    (signature : Option Bytes) : List (Bytes × Bytes) :=
  [(ascii "X-Amz-Algorithm", ascii "AWS4-HMAC-SHA256"),
    (ascii "X-Amz-Credential", input.credential printer signer),
    (ascii "X-Amz-Date", printer.amzDate input.now),
    (ascii "X-Amz-Expires", printer.decimal input.seconds)] ++
  (signature.toList.map fun text => (ascii "X-Amz-Signature", text)) ++
  [(ascii "X-Amz-SignedHeaders", ascii "host")]

/-- A request for the URL with these pairs. -/
def request (input : PresignInput) (absolute : Bool)
    (pairs : List (Bytes × Bytes)) (header : Table HeaderName HeaderValues) :
    HTTPRequest where
  method := input.method
  url := ⟨absolute, escapePath input.path, encodeValues pairs, by
    rw [escapePath, percentDecode_percentEncode (by decide)]
    rfl⟩
  host := input.host
  header := header

end PresignInput

/-- `PresignURL`: the signature in the URL. -/
def presignSignature (platform : Platform) (printer : Printer)
    (signer : Signer) (input : PresignInput) : Option Bytes :=
  let unsigned := input.request true (input.pairs printer signer none)
    Table.empty
  (canonicalPresignedRequest platform unsigned [ascii "host"]).map
    (fun canonical => sign platform input.creds.secretKey
      (printer.dateStamp input.now) signer.region signer.service
      (buildStringToSign platform (input.credential printer signer) canonical
        unsigned))

theorem queryUnescape_queryEscape (text : Bytes) :
    queryUnescape (queryEscape text) = some text := by
  have back : ∀ byte ∈ percentEncode
      (fun byte => unreserved byte || byte == 32) text,
      (if (if byte = 32 then 43 else byte) = (43 : UInt8) then 32
        else if byte = 32 then 43 else byte) = byte := by
    intro byte member
    by_cases space : byte = 32
    · simp [space]
    · have other : byte ≠ 43 := by
        rintro rfl
        exact absurd (mem_percentEncode member) (by decide)
      simp [space, other]
  have whole := (List.map_congr_left back).trans (List.map_id _)
  rw [queryUnescape, queryEscape, List.map_map]
  exact (congrArg percentDecode whole).trans
    (percentDecode_percentEncode (by decide) text)

theorem notMem_queryEscape
    (byte : UInt8) (other : byte ≠ 43)
    (apart : ¬((unreserved byte || byte == 32) = true ∨ byte = 37 ∨
      (48 ≤ byte ∧ byte ≤ 57) ∨ (65 ≤ byte ∧ byte ≤ 70)))
    (text : Bytes) : byte ∉ queryEscape text := by
  intro member
  rcases List.mem_map.mp member with ⟨source, inside, same⟩
  split_ifs at same
  · exact other same.symm
  · exact apart (mem_percentEncode (same ▸ inside))

/-- What `Values.Encode` writes is read back. -/
theorem parseQuery_encodeValues
    {pairs : List (Bytes × Bytes)} (some : pairs ≠ []) :
    parseQuery (encodeValues pairs) = pairs := by
  have pieces : ∀ part ∈ pairs.map fun pair =>
      queryEscape pair.1 ++ 61 :: queryEscape pair.2, 38 ∉ part := by
    intro part member
    rcases List.mem_map.mp member with ⟨pair, _, rfl⟩
    simp [notMem_queryEscape 38 (by decide) (by decide)]
  have read : ∀ pair : Bytes × Bytes, queryPair
      (queryEscape pair.1 ++ 61 :: queryEscape pair.2) = .some pair := by
    intro pair
    rw [queryPair,
      if_neg (by simp [notMem_queryEscape 59 (by decide) (by decide)]),
      cut_append (notMem_queryEscape 61 (by decide) (by decide) _)]
    simp [queryUnescape_queryEscape]
  rw [parseQuery, encodeValues, List.splitOn_intercalate 38 pieces
    (by simpa using some), List.filterMap_map]
  exact (List.filterMap_congr fun pair _ => read pair).trans
    List.filterMap_some

/-- The inputs of `PresignURL` whose URLs are good for a request. -/
structure PresignInput.Usable (input : PresignInput) (platform : Platform)
    (printer : Printer) (signer : Signer) (later time : Time) : Prop where
  bucket : input.bucket ≠ [] ∧ 47 ∉ input.bucket
  fields : 47 ∉ input.creds.accessKey ∧ 47 ∉ printer.dateStamp input.now ∧
    47 ∉ signer.region ∧ 47 ∉ signer.service
  known : signer.lookup input.creds.accessKey = some input.creds
  notRoot : input.creds.accessKey ≠ signer.rootAccessKey
  /-- The URL carries no session token. -/
  token : input.creds.sessionToken = []
  date : printer.amzDate input.now ≠ [] ∧
    platform.parseTime (printer.amzDate input.now) = some time
  expires : printer.decimal input.seconds ≠ [] ∧
    platform.scanInt (printer.decimal input.seconds) = some input.seconds
  range : 1 ≤ input.seconds ∧ (input.seconds : Int) ≤ maxPresignSeconds
  used : later - time ≤ input.seconds * 1000000000

theorem escapePath_single
    {byte : UInt8} (other : byte ≠ 47) (rest : Bytes) :
    (ascii "//").isPrefixOf (escapePath (47 :: byte :: rest)) = false := by
  have slashes : ascii "//" = [47, 47] := by decide
  have first : escapePath (47 :: byte :: rest) =
      47 :: (percentByte (fun byte => unreserved byte ||
        decide (byte ∈ ascii "$&+,/:;=@")) byte ++ escapePath rest) := rfl
  rw [first, percentByte, slashes]
  split_ifs
  · simp [List.isPrefixOf, Ne.symm other]
  · simp [List.isPrefixOf]

theorem notMem_encodeValues (pairs : List (Bytes × Bytes)) :
    35 ∉ encodeValues pairs := by
  intro member
  rcases mem_intercalate member with separator | ⟨part, present, inside⟩
  · cases separator
  · rcases List.mem_map.mp present with ⟨pair, _, rfl⟩
    simp [notMem_queryEscape 35 (by decide) (by decide)] at inside

namespace PresignInput

section Request

variable (input : PresignInput) (printer : Printer) (signer : Signer)
  (absolute : Bool) (signature : Option Bytes)
  (header : Table HeaderName HeaderValues)

theorem query_request :
    (input.request absolute (input.pairs printer signer signature)
      header).query = input.pairs printer signer signature :=
  parseQuery_encodeValues (by simp [pairs])

theorem date_request (absent : header.get amzDateName = none) :
    (input.request absolute (input.pairs printer signer signature)
      header).date = printer.amzDate input.now := by
  have missing : (input.request absolute (input.pairs printer signer
      signature) header).headerGet amzDateName = [] := by
    rw [HTTPRequest.headerGet, request, absent]
  rw [HTTPRequest.date, if_pos missing, query_request]
  cases signature <;> rfl

theorem authorityPath_request
    {input : PresignInput} (bucket : input.bucket ≠ [] ∧ 47 ∉ input.bucket)
    (pairs : List (Bytes × Bytes)) :
    (input.request absolute pairs header).url.authorityPath = false := by
  have slash : (ascii "//").isPrefixOf (escapePath input.path) = false := by
    rcases bucket with ⟨filled, free⟩
    unfold path
    cases bucket : input.bucket with
    | nil => exact absurd bucket filled
    | cons byte rest =>
      rw [bucket] at free
      exact escapePath_single (fun same => free (same ▸ .head _)) _
  simp [RequestURL.authorityPath, request, slash]

/-- The signature in the query and the headers do not change what is
signed. -/
theorem canonicalPresignedRequest_request
    {input : PresignInput} (bucket : input.bucket ≠ [] ∧ 47 ∉ input.bucket)
    (platform : Platform) :
    canonicalPresignedRequest platform (input.request absolute
        (input.pairs printer signer signature) header) [ascii "host"] =
      some (canonicalText
        (input.request true (input.pairs printer signer none) Table.empty)
        [ascii "host"] (uriEncode (escapePath input.path))
        (canonicalQuery (input.pairs printer signer none))
        (ascii "UNSIGNED-PAYLOAD")) := by
  rw [canonicalPresignedRequest_eq platform (notMem_encodeValues _)
    (authorityPath_request _ _ bucket _), query_request]
  cases signature <;> rfl

end Request

theorem Usable.inTime
    {input : PresignInput} {printer : Printer} {later time : Time}
    (usable : input.Usable platform printer signer later time)
    (absolute : Bool) (signature : Bytes)
    (header : Table HeaderName HeaderValues) :
    InTime platform later (input.request absolute
      (input.pairs printer signer (some signature)) header) time
      input.seconds := by
  have read := input.query_request printer signer absolute (some signature)
    header
  constructor
  · rw [read]
    exact usable.date
  · rw [read]
    exact usable.expires
  · exact ⟨Int.ofNat_le.mpr usable.range.1, usable.range.2⟩
  · exact usable.used

end PresignInput

theorem get_amzDate_of_quiet
    {header : Table HeaderName HeaderValues}
    (quiet : ∀ entry ∈ header.entries, amzPrefixed entry.1.text = false) :
    header.get amzDateName = none := by
  cases found : header.get amzDateName with
  | none => rfl
  | some values =>
    have member := (Table.mem_entries_iff _ _ _).mpr found
    have named : amzPrefixed amzDateName.text = true := by decide
    rw [quiet _ member] at named
    cases named

theorem presigned_url_accepted
    {printer : Printer} {input : PresignInput} {later time : Time}
    (usable : input.Usable platform printer signer later time)
    {header : Table HeaderName HeaderValues}
    (quiet : ∀ entry ∈ header.entries, amzPrefixed entry.1.text = false) :
    ∃ signature,
      presignSignature platform printer signer input = some signature ∧
      authenticate platform signer later (input.request false
        (input.pairs printer signer (some signature)) header) =
          .ok input.creds := by
  have unsigned := PresignInput.canonicalPresignedRequest_request printer
    signer true none Table.empty usable.bucket platform
  have made : ∃ signature, presignSignature platform printer signer input =
      some signature := by
    rw [presignSignature, unsigned]
    exact ⟨_, rfl⟩
  rcases made with ⟨signature, made⟩
  refine ⟨signature, made, ?_⟩
  rw [presignSignature, unsigned] at made
  replace made := Option.some.inj made
  dsimp only at made
  have read := input.query_request printer signer false (some signature)
    header
  have shown : queryPresented (input.request false
      (input.pairs printer signer (some signature)) header) =
      ⟨input.credential printer signer, ascii "host", signature⟩ := by
    rw [queryPresented, read]
    rfl
  have presigned : (input.request false (input.pairs printer signer
      (some signature)) header).presigned = true := by
    rfl
  have fields : (input.credential printer signer).splitOn 47 =
      [input.creds.accessKey, printer.dateStamp input.now, signer.region,
        signer.service, ascii "aws4_request"] :=
    splitOn_credential usable.fields
  have names : (ascii "host").splitOn 59 = [ascii "host"] := by decide
  have single := PresignInput.authorityPath_request false header
    usable.bucket (input.pairs printer signer (some signature))
  refine presigned_accepted presigned shown usable.notRoot
    (usable.inTime false signature header) (notMem_encodeValues _) single
    fields usable.known (checkSigned_ok_iff.mpr ⟨?_, ?_, ?_, rfl⟩)
  · -- Both sides print one canonical request.
    have same := canonicalPresignedRequest_eq platform
      (notMem_encodeValues _) single [ascii "host"]
    rw [PresignInput.canonicalPresignedRequest_request printer signer _ _ _
      usable.bucket] at same
    rw [buildStringToSign, PresignInput.date_request _ _ _ true none _ rfl]
      at made
    rw [Presented.names, names, ← Option.some.inj same, buildStringToSign,
      PresignInput.date_request _ _ _ _ _ _ (get_amzDate_of_quiet quiet)]
    exact made.symm
  · rw [Presented.names, names, requireSignedHeaders, Bool.and_eq_true,
      List.all_eq_true]
    refine ⟨by decide, fun entry member => ?_⟩
    rw [quiet entry member]
    rfl
  · rw [validateSessionToken, if_pos usable.token]

/--
A request that a client signed as the specification says, in its headers or
in its query and in time, is accepted if its path needs no encoding, encoding
keeps the order of its query, no signed name begins with another one and no
signed value has a run of spaces.  A URL of `PresignURL` is accepted whatever
the key, unless the credentials have a session token.
-/
theorem correctly_signed_accepted
    (platform : Platform) (signer : Signer) (now : Time)
    (request : HTTPRequest) (creds : Credentials) (presented : Presented)
    (names : List Bytes) (dateStamp : Bytes) :
    (request.presigned = false →
      authScheme.isPrefixOf (request.headerGet authorizationName) = true →
      headerPresented request = presented →
      SpecSigned platform signer request creds presented names request.query
        dateStamp (request.headerGet contentSha256Name) →
      PlainlySigned request names request.query →
      authenticate platform signer now request = .ok creds) ∧
    (∀ time seconds, request.presigned = true →
      queryPresented request = presented →
      creds.accessKey ≠ signer.rootAccessKey →
      InTime platform now request time seconds →
      35 ∉ request.url.rawQuery → request.url.authorityPath = false →
      SpecSigned platform signer request creds presented names
        (unsignedPairs request.query) dateStamp (ascii "UNSIGNED-PAYLOAD") →
      PlainlySigned request names (unsignedPairs request.query) →
      authenticate platform signer now request = .ok creds) ∧
    ∀ (printer : Printer) (input : PresignInput) time
      (header : Table HeaderName HeaderValues),
      input.Usable platform printer signer now time →
      (∀ entry ∈ header.entries, amzPrefixed entry.1.text = false) →
      ∃ signature,
        presignSignature platform printer signer input = some signature ∧
        authenticate platform signer now (input.request false
          (input.pairs printer signer (some signature)) header) =
            .ok input.creds := by
  refine ⟨header_accepted, ?_, ?_⟩
  · intro time seconds presigned shown notRoot inTime whole single signed
      plain
    rcases signed.checkSigned plain with ⟨listed, fields, checked⟩
    rw [← listed] at checked
    exact presigned_accepted presigned shown notRoot inTime whole single
      fields signed.known checked
  · intro printer input time header usable quiet
    exact presigned_url_accepted usable quiet

/-! ### A key with a space -/

/-- A get of this path before it is signed. -/
def bareGet (escapedPath : Bytes)
    (decodes : (percentDecode escapedPath).isSome = true) : HTTPRequest where
  method := ⟨ascii "GET", by decide⟩
  url := ⟨false, escapedPath, [], decodes⟩
  host := storeHost
  header :=
    (Table.empty.put contentSha256Name
      ⟨⟨ascii "UNSIGNED-PAYLOAD", by decide +kernel⟩, []⟩).put
      amzDateName ⟨dateLine, []⟩

def getNames : List Bytes :=
  [ascii "host", ascii "x-amz-content-sha256", ascii "x-amz-date"]

/-- What a client of the specification presents for a get. -/
def getPresented (bare : HTTPRequest) : Presented where
  credential := ascii "alice/d/us/s3/aws4_request"
  signedHeaders := ascii "host;x-amz-content-sha256;x-amz-date"
  signature := sign plainPlatform (ascii "secret") (ascii "d") (ascii "us")
    (ascii "s3") (buildStringToSign plainPlatform
      (ascii "alice/d/us/s3/aws4_request")
      (specCanonical bare getNames [] (ascii "UNSIGNED-PAYLOAD")) bare)

def getAuthorization (bare : HTTPRequest) : Bytes :=
  authScheme ++ ascii "Credential=" ++ (getPresented bare).credential ++
    ascii ",SignedHeaders=" ++ (getPresented bare).signedHeaders ++
    ascii ",Signature=" ++ (getPresented bare).signature

/-- The get with what the client presents. -/
def signedGet (bare : HTTPRequest)
    (unbroken : lineFeed ∉ getAuthorization bare) : HTTPRequest :=
  { bare with
    header := bare.header.put authorizationName
      ⟨⟨getAuthorization bare, unbroken⟩, []⟩ }

def plainGet : HTTPRequest :=
  signedGet (bareGet (ascii "/b/k") keyURL.decodes) (by decide +kernel)

theorem plain_get_accepted :
    authenticate plainPlatform aliceSigner 0 plainGet =
      .ok aliceCredentials :=
  (correctly_signed_accepted plainPlatform aliceSigner 0 plainGet
    aliceCredentials (headerPresented plainGet) getNames (ascii "d")).1
    (by decide) (by decide) rfl
    ⟨by decide, by decide, by decide +kernel,
      by decide, by decide +kernel, by decide,
      by decide, by decide, by decide,
      ⟨[], ⟨[], by decide, .nil, rfl⟩, by decide +kernel⟩,
      by decide⟩
    ⟨by decide +kernel, ⟨by decide, by decide⟩,
      by decide, by decide⟩

/-- The key is `a b`, and its path is sent encoded once. -/
def spacedGet : HTTPRequest :=
  signedGet (bareGet (ascii "/b/a%20b") (by decide +kernel))
    (by decide +kernel)

/-- The correctly signed get of this key is refused. -/
theorem spaced_key_refused :
    spacedGet.presigned = false ∧
    authScheme.isPrefixOf (spacedGet.headerGet authorizationName) = true ∧
    SpecSigned plainPlatform aliceSigner spacedGet aliceCredentials
      (headerPresented spacedGet) getNames spacedGet.query (ascii "d")
      (spacedGet.headerGet contentSha256Name) ∧
    authenticate plainPlatform aliceSigner 0 spacedGet =
      .error .signatureMismatch :=
  ⟨by decide +kernel, by decide +kernel,
    ⟨by decide +kernel, by decide, by decide +kernel,
      by decide, by decide +kernel, by decide,
      by decide +kernel, by decide +kernel, by decide +kernel,
      ⟨[], ⟨[], by decide +kernel, .nil, rfl⟩, by decide +kernel⟩,
      by decide +kernel⟩,
    by decide +kernel⟩

end DataSafe.Auth
