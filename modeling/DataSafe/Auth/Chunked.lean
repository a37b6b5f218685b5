import DataSafe.Auth.SigV4

/-!
# Bodies in signed chunks

`UnwrapAWSChunked` picks a decoder for the body of an upload.  The header
`X-Amz-Content-Sha256` names one of three streaming formats, or else the
unsigned header `Content-Encoding` does; any other body is passed on as it
is.  A streaming body is a train of chunks, each behind a line with its size
and, in the signed formats, a signature over the chunk and the signature
before it.

The checksums of trailers and the reader of Base64 are parameters.
-/

namespace DataSafe.Auth

open Base Metadata

/-! ## Formats -/

inductive ChunkErr where
  | chunkSignature
  | malformedChunk
  | badDigest
  | decodedLength
deriving DecidableEq

/-- The text of an error. -/
def ChunkErr.text : ChunkErr → String
  | .chunkSignature => "chunk signature mismatch"
  | .malformedChunk => "malformed aws-chunked body"
  | .badDigest => "trailing checksum mismatch"
  | .decodedLength => "decoded content length mismatch"

/-- The modes that `streamingMode` tells apart. -/
inductive StreamingMode where
  | streamingSigned
  | streamingSignedTrailer
  | streamingUnsignedTrailer
deriving DecidableEq

/-- The constant that names a mode. -/
def StreamingMode.text : StreamingMode → Bytes
  | .streamingSigned => ascii "STREAMING-AWS4-HMAC-SHA256-PAYLOAD"
  | .streamingSignedTrailer =>
    ascii "STREAMING-AWS4-HMAC-SHA256-PAYLOAD-TRAILER"
  | .streamingUnsignedTrailer => ascii "STREAMING-UNSIGNED-PAYLOAD-TRAILER"

def StreamingMode.signed : StreamingMode → Bool
  | .streamingUnsignedTrailer => false
  | _ => true

def maxChunkSize : Nat := 128 * 2 ^ 20

def contentEncodingName : HeaderName :=
  ⟨ascii "content-encoding", by decide +kernel⟩

def decodedLengthName : HeaderName :=
  ⟨ascii "x-amz-decoded-content-length", by decide +kernel⟩

def trailerName : HeaderName := ⟨ascii "x-amz-trailer", by decide +kernel⟩

/-- What follows the first occurrence of `pattern`. -/
def textBehind (pattern : Bytes) : Bytes → Option Bytes
  | [] => if pattern = [] then some [] else none
  | byte :: rest =>
    if pattern.isPrefixOf (byte :: rest) then
      some ((byte :: rest).drop pattern.length)
    else textBehind pattern rest

/-- `Content-Encoding` names the chunked format. -/
def HTTPRequest.chunkedEncoding (request : HTTPRequest) : Bool :=
  (textBehind (ascii "aws-chunked")
    (toLower (request.headerGet contentEncodingName))).isSome

def streamingMode (request : HTTPRequest) : Option StreamingMode :=
  let hash := request.headerGet contentSha256Name
  if hash = StreamingMode.streamingSigned.text then some .streamingSigned
  else if hash = StreamingMode.streamingSignedTrailer.text then
    some .streamingSignedTrailer
  else if hash = StreamingMode.streamingUnsignedTrailer.text then
    some .streamingUnsignedTrailer
  else if request.chunkedEncoding then some .streamingUnsignedTrailer
  else none

/-! ## Numbers and lines -/

/-- The number that digits of this base stand for. -/
def readDigits (base : Nat) (digits : Bytes) : Option Nat :=
  if digits = [] then none
  else
    digits.foldlM (fun number byte => do
      let digit ← digitValue byte
      if digit < base then some (base * number + digit) else none) 0

/-- `strconv.ParseInt(text, base, 64)` for results that are not negative. -/
def parseSize (base : Nat) (text : Bytes) : Option Nat :=
  match text with
  | 45 :: digits => do
    let number ← readDigits base digits
    if number = 0 then some 0 else none
  | 43 :: digits => do
    let number ← readDigits base digits
    if number < 2 ^ 63 then some number else none
  | digits => do
    let number ← readDigits base digits
    if number < 2 ^ 63 then some number else none

/-- `strings.TrimRight` of carriage returns and line feeds. -/
def trimLineEnd (line : Bytes) : Bytes :=
  (line.reverse.dropWhile (fun byte => byte = 13 ∨ byte = 10)).reverse

/-- `readLine`: a line without its end, and what follows it. -/
def readLine (input : Bytes) : Option (Bytes × Bytes) :=
  if lineFeed ∈ input then
    some (trimLineEnd (cut lineFeed input).1, (cut lineFeed input).2)
  else none

/-! ## Chunks -/

/-- What a chunk reader is set up with. -/
structure ChunkSetup where
  signed : Bool
  trailers : Bool
  secret : Bytes
  amzDate : Bytes
  scope : Bytes
  region : Bytes
  dateStamp : Bytes
  /-- The decoded length that was announced. -/
  want : Option Nat
deriving DecidableEq

def chunkSig
    (platform : Platform) (setup : ChunkSetup) (prevSig sum : Bytes) :
    Bytes :=
  sign platform setup.secret setup.dateStamp setup.region (ascii "s3")
    ([lineFeed].intercalate
      [ascii "AWS4-HMAC-SHA256-PAYLOAD", setup.amzDate, setup.scope, prevSig,
        hexText (platform.sha256 []), hexText sum])

def trailerSig
    (platform : Platform) (setup : ChunkSetup) (prevSig canonical : Bytes) :
    Bytes :=
  sign platform setup.secret setup.dateStamp setup.region (ascii "s3")
    ([lineFeed].intercalate
      [ascii "AWS4-HMAC-SHA256-TRAILER", setup.amzDate, setup.scope, prevSig,
        hexText (platform.sha256 canonical)])

/-- `strings.EqualFold` with a hexadecimal text. -/
def equalFold (left right : Bytes) : Bool :=
  decide (left.map lowerByte = right.map lowerByte)

/-- The signature in the line of a chunk, which only signed ones need. -/
def chunkSignature (signed : Bool) (line : Bytes) : Option Bytes :=
  let found :=
    if 59 ∈ line then
      textBehind (ascii "chunk-signature=") (cut 59 line).2
    else none
  match found with
  | some behind => some (trimSpace (cut 59 behind).1)
  | none => if signed then none else some []

/-- `readHeader`: the size and signature of a chunk, and what follows. -/
def readHeader (signed : Bool) (input : Bytes) :
    Option (Nat × Bytes × Bytes) := do
  let (line, rest) ← readLine input
  let signature ← chunkSignature signed line
  let size ← parseSize 16 (cut 59 line).1
  return (size, signature, rest)

/-- The bytes of a chunk and what follows its line end. -/
def takeChunk (size : Nat) (input : Bytes) : Option (Bytes × Bytes) :=
  if size = 0 then some ([], input)
  else if input.length < size then none
  else
    match input.drop size with
    | 13 :: 10 :: rest => some (input.take size, rest)
    | _ => none

/-! ## Trailers -/

/-- The checksums that a trailer may carry. -/
inductive ChecksumKind where
  | crc32
  | crc32c
  | sha1
  | sha256
  | crc64nvme
deriving DecidableEq

/-- `checksumOK` looks a trailer up by name. -/
def checksumKind (name : Bytes) : Option ChecksumKind :=
  if name = ascii "x-amz-checksum-crc32" then some .crc32
  else if name = ascii "x-amz-checksum-crc32c" then some .crc32c
  else if name = ascii "x-amz-checksum-sha1" then some .sha1
  else if name = ascii "x-amz-checksum-sha256" then some .sha256
  else if name = ascii "x-amz-checksum-crc64nvme" then some .crc64nvme
  else none

/-- The checksum packages and the decoder of Base64. -/
structure Codecs where
  checksum : ChecksumKind → Bytes → Bytes
  base64Decode : Bytes → Option Bytes

def checksumOK (codecs : Codecs) (data name value : Bytes) : Bool :=
  match checksumKind name with
  | none => true
  | some kind =>
    decide (codecs.base64Decode value = some (codecs.checksum kind data))

def trailerSignaturePrefixed : Bytes := ascii "x-amz-trailer-signature:"

/-- `finishTrailerBlock` finds nothing or one line end behind the block. -/
def finishTrailerBlock (input : Bytes) : Bool :=
  match input with
  | 13 :: rest => rest.head? = some 10
  | _ => true

/--
The lines of the trailer block and its signature.  Each line takes bytes of
the input, so its length is fuel enough; without input there is no line.
-/
def readTrailerLines : Nat → Bytes → Option (List Bytes × Bytes)
  | 0, _ => none
  | fuel + 1, input => do
    let (line, rest) ← readLine input
    if line = [] then some ([], [])
    else if trailerSignaturePrefixed.isPrefixOf (toLower line) then
      if finishTrailerBlock rest then
        some ([], trimSpace (line.drop trailerSignaturePrefixed.length))
      else none
    else do
      let (lines, signature) ← readTrailerLines fuel rest
      return (line :: lines, signature)

/-- The name and value of a trailer line are checked. -/
def trailerLineOK (codecs : Codecs) (data line : Bytes) : Bool :=
  if 58 ∉ line ∨ (cut 58 line).1 = [] then true
  else
    checksumOK codecs data (toLower (trimSpace (cut 58 line).1))
      (trimSpace (cut 58 line).2)

def readTrailers
    (platform : Platform) (codecs : Codecs) (setup : ChunkSetup)
    (prevSig data input : Bytes) : Option ChunkErr :=
  match readTrailerLines input.length input with
  | none => some .malformedChunk
  | some (lines, signature) =>
    let canonical :=
      if lines = [] then [] else [lineFeed].intercalate lines ++ [lineFeed]
    if setup.signed = true ∧ (signature = [] ∨
        equalFold (trailerSig platform setup prevSig canonical)
          signature = false) then
      some .chunkSignature
    else if lines.all (trailerLineOK codecs data) then none
    else some .badDigest

/-! ## Reading a train of chunks -/

/-- The end of a train behind its empty chunk. -/
def finishTrain
    (platform : Platform) (codecs : Codecs) (setup : ChunkSetup)
    (prevSig data input : Bytes) : Option ChunkErr :=
  match if setup.trailers then
      readTrailers platform codecs setup prevSig data input
    else none with
  | some err => some err
  | none =>
    if setup.want.any (fun want => want ≠ data.length) then
      some .decodedLength
    else none

/--
The chunks that `Read` hands out one after the other, and the error that
ends them unless the train ended well.  Each chunk takes bytes of the input,
so its length is fuel enough.
-/
def readChunks
    (platform : Platform) (codecs : Codecs) (setup : ChunkSetup) :
    Nat → Bytes → Bytes → Bytes → List Bytes × Option ChunkErr
  | 0, _, _, _ => ([], some .malformedChunk)
  | fuel + 1, prevSig, data, input =>
    match readHeader setup.signed input with
    | none => ([], some .malformedChunk)
    | some (size, signature, rest) =>
      if maxChunkSize < size then ([], some .malformedChunk)
      else
        match takeChunk size rest with
        | none => ([], some .malformedChunk)
        | some (chunk, rest) =>
          let next :=
            chunkSig platform setup prevSig (platform.sha256 chunk)
          if setup.signed = true ∧ equalFold next signature = false then
            ([], some .chunkSignature)
          else
            let prevSig := if setup.signed then next else prevSig
            if size = 0 then
              ([], finishTrain platform codecs setup prevSig data rest)
            else
              let (chunks, ending) := readChunks platform codecs setup
                fuel prevSig (data ++ chunk) rest
              (chunk :: chunks, ending)

theorem takeChunk_some
    {size : Nat} {input chunk rest : Bytes}
    (taken : takeChunk size input = some (chunk, rest)) :
    chunk.length = size ∧
      input = chunk ++ (if size = 0 then [] else [13, 10]) ++ rest := by
  rw [takeChunk] at taken
  split_ifs at taken with empty short
  · obtain ⟨rfl, rfl⟩ := Prod.mk.inj (Option.some.inj taken)
    simp [empty]
  · split at taken
    · rename_i behind split
      obtain ⟨rfl, rfl⟩ := Prod.mk.inj (Option.some.inj taken)
      refine ⟨List.length_take_of_le (by omega), ?_⟩
      rw [if_neg empty, List.append_assoc]
      change input = input.take size ++ 13 :: 10 :: behind
      rw [← split, List.take_append_drop]
    · cases taken

/-! ## Unwrapping -/

/-- `seedFromRequest`: the signature and the settings of the signer. -/
def seedFromRequest (request : HTTPRequest) :
    Option (Bytes × Bytes × Bytes × Bytes × Bytes) :=
  if authScheme.isPrefixOf (request.headerGet authorizationName) = false then
    none
  else
    let presented := headerPresented request
    match presented.credential.splitOn 47 with
    | [_, dateStamp, region, service, terminal] =>
      let date := request.headerGet amzDateName
      if presented.signature = [] ∨ date = [] then none
      else
        some (presented.signature, date,
          [47].intercalate [dateStamp, region, service, terminal], region,
          dateStamp)
    | _ => none

/-- The reader of a train as the service reads it. -/
def trainSource (train : List Bytes × Option ChunkErr) : Source where
  chunks := train.1
  ending :=
    match train.2 with
    | none => .eof
    | some err => .other err.text
  withLast := false

/-- The announced length of the decoded body. -/
def announcedLength (request : HTTPRequest) : Option (Option Nat) :=
  let raw := trimSpace (request.headerGet decodedLengthName)
  if raw = [] then some none else (parseSize 10 raw).map some

/-- `UnwrapAWSChunked`: the reader and the size that the service is given. -/
def unwrapAWSChunked
    (platform : Platform) (codecs : Codecs) (request : HTTPRequest)
    (secret : Bytes) (body : Source) (contentLength : Int) :
    Except ChunkErr (Source × Int) :=
  match streamingMode request with
  | none => .ok (body, contentLength)
  | some mode =>
    match announcedLength request with
    | none => .error .malformedChunk
    | some want =>
      let size : Int := (want.map Int.ofNat).getD (-1)
      let trailers := decide (mode ≠ .streamingSigned) ||
        decide (request.headerGet trailerName ≠ [])
      let read (setup : ChunkSetup) (seed : Bytes) :=
        trainSource (readChunks platform codecs setup
          body.content.length seed [] body.content)
      if mode.signed then
        match seedFromRequest request with
        | none => .error .malformedChunk
        | some (seed, amzDate, scope, region, dateStamp) =>
          .ok (read ⟨true, trailers, secret, amzDate, scope, region,
            dateStamp, want⟩ seed, size)
      else
        .ok (read ⟨false, trailers, [], [], [], [], [], want⟩ [], size)

end DataSafe.Auth
