import DataSafe.Auth.Chunked
import DataSafe.Auth.SignatureBinding

/-!
# Bodies of signed uploads

`putObject` and `uploadPart` authenticate a request, unwrap its body and hand
the reader to the service.  The chunks of a signed streaming body are checked
on the way: each carries a signature over its bytes and the signature before
it, and the first of these is the signature of the request.

A body whose digest is signed is not checked at all.  The digest is a line of
the canonical request, but no handler compares it with the body, and an
unsigned `Content-Encoding` header sends the body through the chunk reader.
-/

namespace DataSafe.Auth

open Base Metadata

/-! ## Handlers -/

/-- What the upload handlers work with. -/
structure UploadHandler where
  platform : Platform
  codecs : Codecs
  signer : Signer
  /-- Key, authorization, bucket, part number and encryption header pass. -/
  admits : HTTPRequest → Credentials → Bool
  /-- The service takes the body without an error. -/
  stores : HTTPRequest → Source → Int → Bool

/-- The reader that the service was given, if the answer is 200. -/
def UploadHandler.serve
    (handler : UploadHandler) (now : Time) (request : HTTPRequest)
    (body : Source) (contentLength : Int) : Option Source :=
  match authenticate handler.platform handler.signer now request with
  | .error _ => none
  | .ok creds =>
    if handler.admits request creds then
      match unwrapAWSChunked handler.platform handler.codecs request
          creds.secretKey body contentLength with
      | .error _ => none
      | .ok (source, size) =>
        if handler.stores request source size then some source else none
    else none

variable {request : HTTPRequest} {body passed : Source} {contentLength : Int}

theorem UploadHandler.serve_some
    {handler : UploadHandler} {now : Time}
    (answered : handler.serve now request body contentLength = some passed) :
    ∃ creds size, authenticate handler.platform handler.signer now request =
        .ok creds ∧
      unwrapAWSChunked handler.platform handler.codecs request
        creds.secretKey body contentLength = .ok (passed, size) := by
  rw [UploadHandler.serve] at answered
  split at answered
  · cases answered
  · rename_i creds accepted
    split_ifs at answered
    split at answered
    · cases answered
    · rename_i source size unwrapped
      split_ifs at answered
      obtain rfl := Option.some.inj answered
      exact ⟨creds, size, accepted, unwrapped⟩

/-! ## Signed trains -/

/--
The input starts with these chunks, each behind a line with its size and a
signature that continues the chain.
-/
inductive SignedTrain (platform : Platform) (setup : ChunkSetup) :
    Bytes → Bytes → List Bytes → Prop where
  | stop (prevSig input : Bytes) : SignedTrain platform setup prevSig input []
  | chunk
      {prevSig input signature chunk rest : Bytes} {chunks : List Bytes}
      (header : readHeader true input =
        some (chunk.length, signature, chunk ++ [13, 10] ++ rest))
      (signed : equalFold
        (chunkSig platform setup prevSig (platform.sha256 chunk))
        signature = true)
      (later : SignedTrain platform setup
        (chunkSig platform setup prevSig (platform.sha256 chunk)) rest
        chunks) :
      SignedTrain platform setup prevSig input (chunk :: chunks)

/-- The chunks that a signed reader hands out form a signed train. -/
theorem readChunks_signedTrain
    (platform : Platform) (codecs : Codecs) {setup : ChunkSetup}
    (signed : setup.signed = true) (fuel : Nat) (prevSig data input : Bytes) :
    SignedTrain platform setup prevSig input
      (readChunks platform codecs setup fuel prevSig data input).1 := by
  induction fuel generalizing prevSig data input with
  | zero => exact .stop prevSig input
  | succ fuel induction =>
    rw [readChunks]
    cases header : readHeader setup.signed input with
    | none => exact .stop prevSig input
    | some found =>
      obtain ⟨size, signature, rest⟩ := found
      dsimp only
      by_cases large : maxChunkSize < size
      · rw [if_pos large]
        exact .stop prevSig input
      rw [if_neg large]
      cases taken : takeChunk size rest with
      | none => exact .stop prevSig input
      | some found =>
        obtain ⟨chunk, behind⟩ := found
        obtain ⟨sized, split⟩ := takeChunk_some taken
        dsimp only
        split_ifs with forged empty
        · exact .stop prevSig input
        · exact .stop prevSig input
        · rw [if_neg empty] at split
          have matched : equalFold (chunkSig platform setup prevSig
              (platform.sha256 chunk)) signature = true := by
            simpa [signed] using forged
          rw [signed, split, ← sized] at header
          exact .chunk header matched (induction _ _ _)

/-! ## Digests -/

/-- The value names a digest of 64 hexadecimal digits. -/
def IsDigest (value : Bytes) : Prop :=
  value.length = 64 ∧ (readHex value).isSome = true

/-- The digest is that of these bytes. -/
def HasDigest (platform : Platform) (value bytes : Bytes) : Prop :=
  readHex value = some (platform.sha256 bytes)

instance (platform : Platform) (value bytes : Bytes) :
    Decidable (HasDigest platform value bytes) :=
  inferInstanceAs (Decidable (_ = _))

/-- The settings under which `Content-Encoding` has a body read. -/
def encodedSetup (want : Option Nat) : ChunkSetup :=
  ⟨false, true, [], [], [], [], [], want⟩

/-- The body as `Content-Encoding` frames it. -/
def framedBody
    (platform : Platform) (codecs : Codecs) (request : HTTPRequest)
    (body : Source) : Bytes :=
  if request.chunkedEncoding then
    (readChunks platform codecs
      (encodedSetup ((announcedLength request).getD none))
      body.content.length [] [] body.content).1.flatten
  else body.content

theorem streamingMode_of_isDigest
    (digest : IsDigest (request.headerGet contentSha256Name)) :
    streamingMode request =
      if request.chunkedEncoding then some .streamingUnsignedTrailer
      else none := by
  have other : ∀ mode : StreamingMode,
      request.headerGet contentSha256Name ≠ mode.text := by
    intro mode same
    rw [same] at digest
    have notDigest : ¬((mode.text).length = 64 ∧
        (readHex mode.text).isSome = true) := by
      cases mode <;> decide
    exact notDigest digest
  unfold streamingMode
  rw [if_neg (other .streamingSigned),
    if_neg (other .streamingSignedTrailer),
    if_neg (other .streamingUnsignedTrailer)]

/-- A body with a signed digest reaches the service as it was framed. -/
theorem unwrapAWSChunked_of_isDigest
    {platform : Platform} {codecs : Codecs} {secret : Bytes} {size : Int}
    (digest : IsDigest (request.headerGet contentSha256Name))
    (unwrapped : unwrapAWSChunked platform codecs request secret body
      contentLength = .ok (passed, size)) :
    passed.content = framedBody platform codecs request body := by
  unfold unwrapAWSChunked at unwrapped
  unfold framedBody
  rw [streamingMode_of_isDigest digest] at unwrapped
  by_cases chunked : request.chunkedEncoding = true
  · rw [if_pos chunked] at unwrapped ⊢
    cases announced : announcedLength request with
    | none =>
      rw [announced] at unwrapped
      cases unwrapped
    | some want =>
      rw [announced] at unwrapped
      obtain ⟨rfl, -⟩ := Prod.mk.inj (Except.ok.inj unwrapped)
      rfl
  · rw [if_neg chunked] at unwrapped ⊢
    obtain ⟨rfl, -⟩ := Prod.mk.inj (Except.ok.inj unwrapped)
    rfl

/-! ## Uploads -/

/-- The signature of the request and its credential set the reader up. -/
structure SeededBy
    (setup : ChunkSetup) (request : HTTPRequest) (creds : Credentials) :
    Prop where
  signed : setup.signed = true
  secret : setup.secret = creds.secretKey
  seed : seedFromRequest request =
    some (request.presented.signature, setup.amzDate, setup.scope,
      setup.region, setup.dateStamp)

theorem streamingMode_of_text
    {mode : StreamingMode}
    (named : request.headerGet contentSha256Name = mode.text) :
    streamingMode request = some mode := by
  unfold streamingMode
  rw [named]
  cases mode <;> rfl

theorem seedFromRequest_signature
    (header : request.presigned = false)
    {seed amzDate scope region dateStamp : Bytes}
    (seeded : seedFromRequest request =
      some (seed, amzDate, scope, region, dateStamp)) :
    seed = request.presented.signature := by
  have presented : request.presented = headerPresented request :=
    if_neg (by simp [header])
  rw [presented]
  unfold seedFromRequest at seeded
  split_ifs at seeded
  dsimp only at seeded
  split at seeded
  · split_ifs at seeded
    exact (Prod.mk.inj (Option.some.inj seeded)).1.symm
  · cases seeded

/-- A signed streaming body reaches the service as its signed chunks. -/
theorem unwrapAWSChunked_of_signed
    {platform : Platform} {codecs : Codecs} {creds : Credentials} {size : Int}
    (header : request.presigned = false) {mode : StreamingMode}
    (signed : mode.signed = true)
    (named : request.headerGet contentSha256Name = mode.text)
    (unwrapped : unwrapAWSChunked platform codecs request creds.secretKey
      body contentLength = .ok (passed, size)) :
    ∃ setup chunks, SeededBy setup request creds ∧
      passed.content = chunks.flatten ∧
      SignedTrain platform setup request.presented.signature body.content
        chunks := by
  unfold unwrapAWSChunked at unwrapped
  rw [streamingMode_of_text named] at unwrapped
  cases announced : announcedLength request with
  | none =>
    rw [announced] at unwrapped
    cases unwrapped
  | some want =>
    rw [announced] at unwrapped
    dsimp only at unwrapped
    rw [if_pos signed] at unwrapped
    cases seeded : seedFromRequest request with
    | none =>
      rw [seeded] at unwrapped
      cases unwrapped
    | some settings =>
      obtain ⟨seed, amzDate, scope, region, dateStamp⟩ := settings
      obtain rfl := seedFromRequest_signature header seeded
      rw [seeded] at unwrapped
      obtain ⟨rfl, -⟩ := Prod.mk.inj (Except.ok.inj unwrapped)
      exact ⟨_, _, ⟨rfl, rfl, seeded⟩, rfl,
        readChunks_signedTrain platform codecs rfl _ _ _ _⟩

def openHandler : UploadHandler where
  platform := plainPlatform
  codecs := ⟨fun _ _ => [], some⟩
  signer := aliceSigner
  admits := fun _ _ => true
  stores := fun _ _ _ => true

/-- The body that was signed. -/
def signedBytes : Bytes := List.replicate 32 97

def digestLine : Line :=
  ⟨hexText (plainPlatform.sha256 signedBytes), by decide +kernel⟩

/-- A put with the digest of its body, to be signed. -/
def unsignedDigestPut : HTTPRequest where
  method := putMethod
  url := keyURL
  host := storeHost
  header := Table.empty.put contentSha256Name ⟨digestLine, []⟩

def digestPresented : Presented where
  credential := ascii "alice/d/us/s3/aws4_request"
  signedHeaders := ascii "host;x-amz-content-sha256"
  signature := sign plainPlatform (ascii "secret") (ascii "d") (ascii "us")
    (ascii "s3")
    (buildStringToSign plainPlatform (ascii "alice/d/us/s3/aws4_request")
      (canonicalRequest unsignedDigestPut
        [ascii "host", ascii "x-amz-content-sha256"])
      unsignedDigestPut)

def digestAuthorization : Line where
  text := authScheme ++ ascii "Credential=" ++ digestPresented.credential ++
    ascii ",SignedHeaders=" ++ digestPresented.signedHeaders ++
    ascii ",Signature=" ++ digestPresented.signature
  unbroken := by decide +kernel

def digestPut : HTTPRequest :=
  { unsignedDigestPut with
    header := unsignedDigestPut.header.put authorizationName
      ⟨digestAuthorization, []⟩ }

end DataSafe.Auth
