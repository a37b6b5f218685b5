import DataSafe.Base.Aead

/-!
# The format-1 envelope

`encryptReader` turns a plaintext reader into a format-1 body: a header of
16 bytes and then one frame for each chunk.  `decryptReader` opens such a
body.  Both are refilled buffers over `io.ReadFull`, and for both the outcome
of reading to the end is computed here.

The header is the associated data of every frame.  The length field of a
frame counts the ciphertext with its tag and is not authenticated.
-/

namespace DataSafe.Kms

open Base

/-! ## Big-endian lengths -/

/-- `binary.BigEndian.PutUint32` of a number that is first cut to 32 bits. -/
def putUint32 (value : Nat) : Bytes :=
  [UInt8.ofNat (value / 2 ^ 24), UInt8.ofNat (value / 2 ^ 16),
    UInt8.ofNat (value / 2 ^ 8), UInt8.ofNat value]

/-- `binary.BigEndian.Uint32` of a string of four bytes. -/
def uint32 (bytes : Bytes) : Nat :=
  bytes.foldl (fun value byte => value * 256 + byte.toNat) 0

@[simp]
theorem putUint32_length (value : Nat) :
    (putUint32 value).length = 4 :=
  rfl

/-- Four bytes are the encoding of the number that they encode. -/
theorem putUint32_uint32
    (bytes : Bytes) (four : bytes.length = 4) :
    putUint32 (uint32 bytes) = bytes := by
  obtain ⟨a, b, c, d, rfl⟩ := List.length_eq_four.mp four
  have boundA := a.toNat_lt
  have boundB := b.toNat_lt
  have boundC := c.toNat_lt
  have boundD := d.toNat_lt
  simp only [putUint32, uint32, List.foldl, List.cons.injEq, and_true,
    ← UInt8.toNat_inj, UInt8.toNat_ofNat']
  omega

/-- A number of 32 bits is the one that its encoding encodes. -/
theorem uint32_putUint32
    (value : Nat) (fits : value < 2 ^ 32) :
    uint32 (putUint32 value) = value := by
  simp only [putUint32, uint32, List.foldl, UInt8.toNat_ofNat']
  omega

/-! ## Sealing -/

def headerLen : Nat := 16
def nonceLen : Nat := 12
def tagLen : Nat := 16

/-- The plaintext size of one format-1 chunk. -/
def defaultChunk : Nat := 64 * 1024

/-- The magic `DSSE` and the format version. -/
def magic : Bytes := [0x44, 0x53, 0x53, 0x45, 1]

/-- The nonces that `rand.Read` yields, one for each frame. -/
structure Nonces where
  nonce : Nat → Bytes
  length_nonce : ∀ index, (nonce index).length = nonceLen

/-- `aes.NewCipher` accepts keys of three lengths. -/
def aeadFor (key : Bytes) : Except ReadErr Unit :=
  if key.length = 16 ∨ key.length = 24 ∨ key.length = 32 then .ok ()
  else .error (.other
    ("crypto/aes: invalid key size " ++ toString key.length))

/-- What an `encReader` seals with. -/
structure Sealing where
  aead : Aead
  dek : Bytes
  nonces : Nonces
  chunk : Nat
  chunk_pos : 0 < chunk

namespace Sealing

/-- The header, which is also the associated data of every frame. -/
def aad (sealing : Sealing) : Bytes :=
  magic ++ [0, 0, 0] ++ putUint32 sealing.chunk ++ [0, 0, 0, 0]

/-- The box of one chunk of plaintext. -/
def box (sealing : Sealing) (index : Nat) (plain : Bytes) : SealedBox :=
  { nonce := sealing.nonces.nonce index
    plaintext := plain
    ciphertext :=
      sealing.aead.sealBox sealing.dek (sealing.nonces.nonce index) plain
        sealing.aad
    aad := sealing.aad }

end Sealing

/-- A box as it is written into a body. -/
def frame (box : SealedBox) : Bytes :=
  putUint32 box.ciphertext.length ++ box.nonce ++ box.ciphertext

@[simp]
theorem length_aad (sealing : Sealing) :
    sealing.aad.length = headerLen :=
  rfl

theorem frame_ne_nil (box : SealedBox) : frame box ≠ [] := by
  simp [frame, putUint32]

/-- The position of an `encReader` in its source. -/
structure EncState where
  src : Source
  sealedFrames : Nat
  done : Bool

/-- `encReader.fill`, with the frame that becomes pending. -/
def Sealing.fill (sealing : Sealing) (state : EncState) :
    Except ReadErr (Bytes × EncState) :=
  if state.done then .ok ([], state)
  else
    let read := state.src.readFull sealing.chunk
    let sealedFrame := frame (sealing.box state.sealedFrames read.data)
    match read.err with
    | some .eof => .ok ([], { state with src := read.rest, done := true })
    -- The short last chunk is recognised by the error alone, and a source
    -- that fails with this error itself looks the same.
    | some .unexpectedEOF =>
      .ok (sealedFrame, ⟨read.rest, state.sealedFrames + 1, true⟩)
    | some err => .error err
    | none =>
      .ok (sealedFrame, ⟨read.rest, state.sealedFrames + 1, false⟩)

/-- An `encReader`: the header is still to be sent, then the frames. -/
structure EncReader where
  sealing : Sealing
  buffered : Refill EncState

/-- Reading an `encReader` to the end. -/
def EncReader.Drains (reader : EncReader) : Bytes → ReadErr → Prop :=
  Base.Drains (Refill.read reader.sealing.fill) reader.buffered

/-- `EncryptReader` -/
def encryptReader
    (aead : Aead) (nonces : Nonces) (dek : Bytes) (plain : Source)
    (chunk : Int) : Except ReadErr EncReader := do
  aeadFor dek
  let sealing : Sealing :=
    if positive : 0 < chunk then
      ⟨aead, dek, nonces, chunk.toNat, by omega⟩
    else ⟨aead, dek, nonces, defaultChunk, by decide⟩
  return ⟨sealing, ⟨sealing.aad, ⟨plain, 0, false⟩⟩⟩

/-! ## The outcome of encryption -/

/--
The boxes that are sealed for `content`, a source that ends with `ending`,
and the error that ends the body.  `fuel` bounds the number of chunks.
-/
def Sealing.stream (sealing : Sealing) :
    Nat → Nat → Bytes → ReadErr → List SealedBox × ReadErr
  | 0, _, _, _ => ([], .eof)
  | fuel + 1, index, content, ending =>
    if sealing.chunk ≤ content.length then
      let later :=
        sealing.stream fuel (index + 1) (content.drop sealing.chunk) ending
      (sealing.box index (content.take sealing.chunk) :: later.1, later.2)
    else
      match ending with
      | .eof =>
        (if content = [] then [] else [sealing.box index content], .eof)
      | .unexpectedEOF => ([sealing.box index content], .eof)
      | .other reason => ([], .other reason)

/-- The boxes that are sealed for a source, read to its end. -/
def Sealing.boxes
    (sealing : Sealing) (content : Bytes) (ending : ReadErr) :
    List SealedBox :=
  (sealing.stream (content.length + 1) 0 content ending).1

/-- The error that ends the body of a source. -/
def Sealing.ending
    (sealing : Sealing) (content : Bytes) (ending : ReadErr) : ReadErr :=
  (sealing.stream (content.length + 1) 0 content ending).2

/-- The bytes of a sequence of boxes. -/
def frames (boxes : List SealedBox) : Bytes :=
  (boxes.map frame).flatten

/-- The plaintext of a sequence of boxes. -/
def plaintexts (boxes : List SealedBox) : Bytes :=
  (boxes.map SealedBox.plaintext).flatten

@[simp]
theorem frames_nil : frames [] = [] :=
  rfl

@[simp]
theorem frames_cons (box : SealedBox) (boxes : List SealedBox) :
    frames (box :: boxes) = frame box ++ frames boxes :=
  rfl

@[simp]
theorem plaintexts_nil : plaintexts [] = [] :=
  rfl

@[simp]
theorem plaintexts_cons (box : SealedBox) (boxes : List SealedBox) :
    plaintexts (box :: boxes) = box.plaintext ++ plaintexts boxes :=
  rfl

/-- A refill that produces bytes goes on with the state it leaves. -/
theorem pull_of_fill
    {State : Type} {fill : State → Except ReadErr (Bytes × State)}
    {fuel : Nat} {state next : State} {filled rest : Bytes} {err : ReadErr}
    (step : fill state = .ok (filled, next)) (nonempty : filled ≠ [])
    (later : Refill.pull fill fuel next = some (rest, err)) :
    Refill.pull fill (fuel + 1) state = some (filled ++ rest, err) := by
  cases filled with
  | nil => exact absurd rfl nonempty
  | cons byte filled => simp [Refill.pull, step, later]

/-- Filling computes the stream of boxes, chunk by chunk. -/
theorem Sealing.pull_fill
    (sealing : Sealing) (fuel : Nat) :
    ∀ (src : Source) (index : Nat), src.content.length < fuel →
      Refill.pull sealing.fill (fuel + 1) ⟨src, index, false⟩ = some
          (frames (sealing.stream fuel index src.content src.ending).1,
            (sealing.stream fuel index src.content src.ending).2) := by
  induction fuel with
  | zero =>
    intro src index bounded
    omega
  | succ fuel induction =>
    intro src index bounded
    by_cases enough : sealing.chunk ≤ src.content.length
    · obtain ⟨data, err, rest, ending⟩ :=
        src.readFull_enough sealing.chunk enough
      have filled : sealing.fill ⟨src, index, false⟩ = .ok
            (frame (sealing.box index (src.content.take sealing.chunk)),
              ⟨(src.readFull sealing.chunk).rest, index + 1, false⟩) := by
        simp [fill, err, data]
      have positive := sealing.chunk_pos
      have later :=
        induction (src.readFull sealing.chunk).rest (index + 1) (by
          rw [rest, List.length_drop]
          omega)
      rw [rest, ending] at later
      rw [pull_of_fill filled (frame_ne_nil _) later]
      simp [stream, enough]
    · obtain ⟨data, err, rest⟩ :=
        src.readFull_short sealing.chunk (by omega)
      cases ended : src.ending with
      | other reason =>
        simp [Refill.pull, fill, stream, enough, err, ended]
      | unexpectedEOF =>
        have filled : sealing.fill ⟨src, index, false⟩ = .ok
              (frame (sealing.box index src.content),
                ⟨(src.readFull sealing.chunk).rest, index + 1, true⟩) :=
          by simp [fill, err, data, ended]
        have stopped : Refill.pull sealing.fill (fuel + 1)
            ⟨(src.readFull sealing.chunk).rest, index + 1, true⟩ =
              some ([], .eof) := by
          simp [Refill.pull, fill]
        rw [pull_of_fill filled (frame_ne_nil _) stopped]
        simp [stream, enough]
      | eof =>
        by_cases empty : src.content = []
        · simp [Refill.pull, fill, stream, err, ended, empty,
            Nat.ne_of_gt sealing.chunk_pos]
        · have filled : sealing.fill ⟨src, index, false⟩ = .ok
                (frame (sealing.box index src.content),
                  ⟨(src.readFull sealing.chunk).rest, index + 1, true⟩) := by
            simp [fill, err, data, ended, empty]
          have stopped : Refill.pull sealing.fill (fuel + 1)
              ⟨(src.readFull sealing.chunk).rest, index + 1, true⟩ =
                some ([], .eof) := by
            simp [Refill.pull, fill]
          rw [pull_of_fill filled (frame_ne_nil _) stopped]
          simp [stream, enough, empty]

variable {aead : Aead} {dek : Bytes} {src : Source}

/-- An `encReader` has its header to send and its source before it. -/
theorem encryptReader_ok
    {nonces : Nonces} {plain : Source} {chunk : Int} {reader : EncReader}
    (made : encryptReader aead nonces dek plain chunk = .ok reader) :
    aeadFor dek = .ok () ∧ reader.sealing.aead = aead ∧
      reader.sealing.dek = dek ∧
      reader.sealing.chunk =
        (if 0 < chunk then chunk.toNat else defaultChunk) ∧
      reader.buffered = ⟨reader.sealing.aad, ⟨plain, 0, false⟩⟩ := by
  unfold encryptReader at made
  cases keyed : aeadFor dek with
  | error failure =>
    rw [keyed] at made
    cases made
  | ok _ =>
    rw [keyed] at made
    cases made
    by_cases positive : 0 < chunk <;> simp [positive]

/-- Reading an `encReader` to the end yields the header and the frames. -/
theorem encryptReader_drains_iff
    {nonces : Nonces} {plain : Source} {chunk : Int} {reader : EncReader}
    (made : encryptReader aead nonces dek plain chunk = .ok reader)
    (output : Bytes) (err : ReadErr) :
    reader.Drains output err ↔ output = reader.sealing.aad ++
            frames (reader.sealing.boxes plain.content plain.ending) ∧
        err = reader.sealing.ending plain.content plain.ending := by
  obtain ⟨_, _, _, _, shape⟩ := encryptReader_ok made
  rw [EncReader.Drains, shape]
  exact Refill.drains_iff_of_pull
    (reader.sealing.pull_fill (plain.content.length + 1) plain 0
      (Nat.lt_succ_self _)) _ output err

/-! ## What is sealed -/

/-- A body ends with the error of its source, except for an end of file. -/
theorem Sealing.stream_ending
    (sealing : Sealing) (ending : ReadErr) (fuel : Nat) :
    ∀ (index : Nat) (content : Bytes), content.length < fuel →
      (sealing.stream fuel index content ending).2 =
        if ending = .unexpectedEOF then .eof else ending := by
  induction fuel with
  | zero =>
    intro index content bounded
    omega
  | succ fuel induction =>
    intro index content bounded
    have positive := sealing.chunk_pos
    by_cases enough : sealing.chunk ≤ content.length
    · simp only [stream, enough]
      apply induction
      rw [List.length_drop]
      omega
    · cases ending <;> simp [stream, enough]

/-- Every box holds a chunk, and no chunk of a clean source is empty. -/
theorem Sealing.mem_stream
    (sealing : Sealing) (ending : ReadErr) (fuel : Nat) :
    ∀ (index : Nat) (content : Bytes),
      ∀ sealed ∈ (sealing.stream fuel index content ending).1,
        (∃ position, sealed = sealing.box position sealed.plaintext) ∧
          sealed.plaintext.length ≤ sealing.chunk ∧
          (ending = .eof → sealed.plaintext ≠ []) := by
  induction fuel with
  | zero =>
    intro index content sealed member
    simp [stream] at member
  | succ fuel induction =>
    intro index content sealed member
    have positive := sealing.chunk_pos
    by_cases enough : sealing.chunk ≤ content.length
    · simp only [stream, enough, if_true, List.mem_cons] at member
      rcases member with rfl | later
      · refine ⟨⟨index, rfl⟩, List.length_take_le _ _, ?_⟩
        intro _ empty
        have lengths := congrArg List.length empty
        simp only [box, List.length_take, List.length_nil] at lengths
        omega
      · exact induction _ _ sealed later
    · have short : content.length ≤ sealing.chunk := by omega
      cases ending with
      | eof =>
        by_cases empty : content = []
        · simp [stream, empty, Nat.ne_of_gt positive] at member
        · simp only [stream, enough, if_false, empty,
            List.mem_singleton] at member
          subst member
          exact ⟨⟨index, rfl⟩, short, fun _ => empty⟩
      | unexpectedEOF =>
        simp only [stream, enough, if_false, List.mem_singleton] at member
        subst member
        exact ⟨⟨index, rfl⟩, short, fun impossible => by
          cases impossible⟩
      | other reason => simp [stream, enough] at member

/-! ## Opening -/

/-- What a `decReader` opens with: the header is the associated data. -/
structure Opening where
  aead : Aead
  dek : Bytes
  aad : Bytes
  chunk : Nat

/-- `decReader.fill`, with the plaintext that becomes readable. -/
def Opening.fill (opening : Opening) (src : Source) :
    Except ReadErr (Bytes × Source) :=
  let lenBuf := src.readFull 4
  match lenBuf.err with
  | some .eof => .ok ([], lenBuf.rest)
  | some err => .error err
  | none =>
    let size := uint32 lenBuf.data
    if size < tagLen ∨ opening.chunk + tagLen < size then
      .error (.other "invalid encryption chunk")
    else
      let buf := lenBuf.rest.readFull (nonceLen + size)
      match buf.err with
      -- An end of file right after the length is passed on as it is.
      | some err => .error err
      | none =>
        match opening.aead.openBox opening.dek
            (buf.data.take nonceLen) (buf.data.drop nonceLen)
            opening.aad with
        | none => .error (.other "cipher: message authentication failed")
        | some plain => .ok (plain, buf.rest)

/-- A `decReader` behind the header of its body. -/
structure DecReader where
  opening : Opening
  buffered : Refill Source

/-- Reading a `decReader` to the end. -/
def DecReader.Drains (reader : DecReader) : Bytes → ReadErr → Prop :=
  Base.Drains (Refill.read reader.opening.fill) reader.buffered

/-- `DecryptReader` -/
def decryptReader
    (aead : Aead) (dek : Bytes) (src : Source) :
    Except ReadErr DecReader := do
  aeadFor dek
  let header := src.readFull headerLen
  match header.err with
  | some err => .error err
  | none =>
    if header.data.take 5 ≠ magic then
      .error (.other "unknown encryption header")
    else
      let chunk := uint32 ((header.data.drop 8).take 4)
      if chunk = 0 then .error (.other "invalid chunk size")
      else .ok ⟨⟨aead, dek, header.data, chunk⟩, ⟨[], header.rest⟩⟩

/-- A `decReader` comes from a body that starts with its header. -/
theorem decryptReader_ok
    {reader : DecReader} (made : decryptReader aead dek src = .ok reader) :
    reader.opening.aead = aead ∧ reader.opening.dek = dek ∧
      reader.buffered.buffer = [] ∧
      reader.buffered.state.ending = src.ending ∧
      reader.opening.aad.length = headerLen ∧
      src.content = reader.opening.aad ++ reader.buffered.state.content := by
  unfold decryptReader at made
  cases keyed : aeadFor dek with
  | error failure =>
    rw [keyed] at made
    cases made
  | ok _ =>
    rw [keyed] at made
    by_cases enough : headerLen ≤ src.content.length
    · obtain ⟨data, err, rest, ending⟩ := src.readFull_enough _ enough
      simp only [err] at made
      split at made
      · cases made
      · split at made
        · cases made
        · cases made
          refine ⟨rfl, rfl, rfl, ending, ?_, ?_⟩
          · simp only [data, List.length_take]
            omega
          · simp only [data, rest, List.take_append_drop]
    · obtain ⟨_, err, _⟩ := src.readFull_short headerLen (by omega)
      simp only [err] at made
      cases made

/-! ## One refill -/

/-- A refill that delivers bytes has opened the frame in front. -/
theorem Opening.fill_ok
    {opening : Opening} {next : Source} {plain : Bytes}
    (filled : opening.fill src = .ok (plain, next)) :
    (plain = [] ∧ (src.ending = .eof → src.content = [])) ∨
      ∃ nonce ciphertext,
        opening.aead.openBox opening.dek nonce ciphertext opening.aad =
            some plain ∧
          src.content = putUint32 ciphertext.length ++ nonce ++ ciphertext ++
              next.content ∧
          next.ending = src.ending := by
  by_cases short : src.content.length < 4
  · obtain ⟨_, err, _⟩ := src.readFull_short 4 short
    left
    by_cases empty : src.content = []
    · cases ended : src.ending <;> simp_all [fill]
    · cases ended : src.ending <;> simp_all [fill]
  · right
    obtain ⟨lengthData, lengthErr, lengthRest, lengthEnding⟩ :=
      src.readFull_enough 4 (by omega)
    simp only [fill, lengthErr, lengthData] at filled
    split at filled
    · cases filled
    · by_cases whole :
          nonceLen + uint32 (src.content.take 4) ≤
            (src.readFull 4).rest.content.length
      · obtain ⟨data, err, rest, ending⟩ :=
          (src.readFull 4).rest.readFull_enough _ whole
        simp only [err] at filled
        split at filled
        · cases filled
        · rename_i opened
          cases filled
          refine ⟨_, _, opened, ?_, ending.trans lengthEnding⟩
          rw [data, lengthRest] at *
          rw [List.length_drop] at whole
          have counted :
              (((src.content.drop 4).take
                (nonceLen + uint32 (src.content.take 4))).drop
                  nonceLen).length = uint32 (src.content.take 4) := by
            rw [List.length_drop, List.length_take, List.length_drop]
            omega
          rw [counted, rest,
            putUint32_uint32 _ (by rw [List.length_take]; omega)]
          simp only [List.append_assoc]
          rw [← List.append_assoc (List.take nonceLen _),
            List.take_append_drop, List.take_append_drop,
            List.take_append_drop]
      · obtain ⟨_, err, _⟩ :=
          (src.readFull 4).rest.readFull_short _ (Nat.lt_of_not_le whole)
        simp only [err] at filled
        cases filled

/-- A refill reports an end of file only behind a bare length field. -/
theorem Opening.fill_eof
    {opening : Opening} (clean : src.ending = .eof)
    (failed : opening.fill src = .error .eof) :
    src.content.length = 4 := by
  by_cases short : src.content.length < 4
  · obtain ⟨_, err, _⟩ := src.readFull_short 4 short
    by_cases empty : src.content = [] <;>
      simp [fill, err, clean, empty] at failed
  · obtain ⟨lengthData, lengthErr, lengthRest, lengthEnding⟩ :=
      src.readFull_enough 4 (by omega)
    simp only [fill, lengthErr, lengthData] at failed
    split at failed
    · cases failed
    · by_cases whole :
          nonceLen + uint32 (src.content.take 4) ≤
            (src.readFull 4).rest.content.length
      · obtain ⟨_, err, _⟩ :=
          (src.readFull 4).rest.readFull_enough _ whole
        simp only [err] at failed
        split at failed <;> cases failed
      · obtain ⟨_, err, _⟩ :=
          (src.readFull 4).rest.readFull_short _ (Nat.lt_of_not_le whole)
        by_cases empty : (src.readFull 4).rest.content = []
        · rw [lengthRest] at empty
          have := congrArg List.length empty
          rw [List.length_drop, List.length_nil] at this
          omega
        · simp [err, lengthEnding, clean, empty] at failed

/-! ## Reading to the end -/

/-- Reading to the end takes at most one refill for each byte. -/
theorem Opening.pull_isSome
    (opening : Opening) (fuel : Nat) :
    ∀ src : Source, src.content.length < fuel →
      (Refill.pull opening.fill fuel src).isSome := by
  induction fuel with
  | zero =>
    intro src bounded
    omega
  | succ fuel induction =>
    intro src bounded
    cases filled : opening.fill src with
    | error err => simp [Refill.pull, filled]
    | ok produced =>
      obtain ⟨plain, next⟩ := produced
      cases plain with
      | nil => simp [Refill.pull, filled]
      | cons byte plain =>
        rcases fill_ok filled with ⟨impossible, _⟩ |
          ⟨nonce, ciphertext, _, content, _⟩
        · cases impossible
        · have shorter := congrArg List.length content
          simp only [List.length_append, putUint32_length] at shorter
          simp only [Refill.pull, filled, Option.isSome_map]
          exact induction next (by omega)

/-- What reading a `decReader` to the end delivers. -/
def DecReader.readAll (reader : DecReader) : Bytes × ReadErr :=
  match Refill.pull reader.opening.fill
      (reader.buffered.state.content.length + 1)
      reader.buffered.state with
  | some (rest, err) => (reader.buffered.buffer ++ rest, err)
  | none => ([], .eof)

/-- Reading to the end has one outcome. -/
theorem DecReader.drains_iff
    (reader : DecReader) (output : Bytes) (err : ReadErr) :
    reader.Drains output err ↔ reader.readAll = (output, err) := by
  obtain ⟨⟨rest, ending⟩, pulled⟩ := Option.isSome_iff_exists.mp
    (reader.opening.pull_isSome (reader.buffered.state.content.length + 1)
      reader.buffered.state (Nat.lt_succ_self _))
  have outcome := Refill.drains_iff_of_pull pulled
    reader.buffered.buffer output err
  rw [DecReader.Drains, outcome]
  simp only [readAll, pulled, Prod.mk.injEq]
  constructor
  · rintro ⟨rfl, rfl⟩
    exact ⟨rfl, rfl⟩
  · rintro ⟨rfl, rfl⟩
    exact ⟨rfl, rfl⟩

end DataSafe.Kms
