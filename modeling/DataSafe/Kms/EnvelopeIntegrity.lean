import DataSafe.Kms.Envelope

/-!
# Integrity of format-1 bodies

Every frame is authenticated with the header and with nothing else, so that
the parts of an upload can be concatenated.  What a `decReader` accepts is
therefore a sequence of frames that were sealed, in any order and number.
-/

namespace DataSafe.Kms

open Base

/-! ## Frames of the log -/

/--
What is read to a clean end are the plaintexts of boxes from the log, and
their frames are what the source started with.
-/
theorem Opening.pull_own_frames
    {opening : Opening} {log : List SealedBox}
    (ideal : opening.aead.IdealOn opening.dek log)
    (nonempty : ∀ box ∈ log, box.plaintext ≠ []) {fuel : Nat} :
    ∀ {src : Source} {output : Bytes}, src.ending = .eof →
      Refill.pull opening.fill fuel src = some (output, .eof) →
      ∃ (opened : List SealedBox) (tail : Bytes),
        (∀ box ∈ opened, box ∈ log ∧ box.aad = opening.aad) ∧
          output = plaintexts opened ∧
          src.content = frames opened ++ tail ∧
          (tail = [] ∨ tail.length = 4) := by
  induction fuel with
  | zero =>
    intro src output _ pulled
    simp [Refill.pull] at pulled
  | succ fuel induction =>
    intro src output clean pulled
    cases filled : opening.fill src with
    | error err =>
      simp only [Refill.pull, filled] at pulled
      obtain ⟨rfl, rfl⟩ := pulled
      exact ⟨[], src.content, by simp, rfl, by simp,
        .inr (fill_eof clean filled)⟩
    | ok produced =>
      obtain ⟨plain, next⟩ := produced
      rcases fill_ok filled with ⟨rfl, exhausted⟩ |
        ⟨nonce, ciphertext, unsealed, content, ending⟩
      · simp only [Refill.pull, filled, Option.some.injEq,
          Prod.mk.injEq] at pulled
        exact ⟨[], [], by simp, pulled.1.symm,
          by simp [exhausted clean], .inl rfl⟩
      · obtain ⟨box, member, rfl⟩ := ideal.box_of_open unsealed
        have produced := nonempty _ member
        cases plain with
        | nil => exact absurd rfl produced
        | cons byte plain =>
          simp only [Refill.pull, filled] at pulled
          obtain ⟨⟨rest, err⟩, later, same⟩ :=
            Option.map_eq_some_iff.mp pulled
          cases same
          obtain ⟨opened, tail, own, rfl, restContent, ends⟩ :=
            induction (ending.trans clean) later
          refine ⟨⟨nonce, byte :: plain, ciphertext, opening.aad⟩ :: opened,
              tail, ?_, rfl, ?_, ends⟩
          · intro other listed
            rcases List.mem_cons.mp listed with rfl | listed
            · exact ⟨member, rfl⟩
            · exact own other listed
          · rw [content, restContent]
            simp [frame]

/-! ## Whole bodies -/

/--
Whatever body is opened under the data key of one encryption, reading it to
the end either fails or yields plaintext chunks of frames of that encryption.
The body then consists of a header and these frames, with at most a bare
length field behind them, and a body with a frame carries the header that
was written.
-/
theorem decryptReader_yields_own_frames
    (aead : Aead) (nonces : Nonces) (dek : Bytes) (chunk : Int)
    (plain : Source) (wholePlain : plain.ending = .eof) (writer : EncReader)
    (written : encryptReader aead nonces dek plain chunk = .ok writer)
    (ideal : aead.IdealOn dek (writer.sealing.boxes plain.content
      plain.ending)) (body : Source) (wholeBody : body.ending = .eof)
    (reader : DecReader)
    (accepted : decryptReader aead dek body = .ok reader) :
    (∃ output err, reader.Drains output err) ∧
      ∀ output err, reader.Drains output err → err ≠ .eof ∨
          ∃ (opened : List SealedBox) (header tail : Bytes), (∀ box ∈ opened,
              box ∈ writer.sealing.boxes plain.content plain.ending) ∧
            output = plaintexts opened ∧
            body.content = header ++ frames opened ++ tail ∧
            header.length = headerLen ∧
            (opened ≠ [] → header = writer.sealing.aad) ∧
            (tail = [] ∨ tail.length = 4) := by
  refine ⟨⟨_, _, (reader.drains_iff _ _).mpr rfl⟩, ?_⟩
  intro output err drained
  by_cases clean : err = .eof
  · right
    subst clean
    obtain ⟨rfl, rfl, unbuffered, ending, length, content⟩ :=
      decryptReader_ok accepted
    obtain ⟨fuel, rest, rfl, pulled⟩ := Refill.pull_of_drains drained
    have nonempty :
        ∀ box ∈ writer.sealing.boxes plain.content plain.ending,
          box.plaintext ≠ [] := by
      intro box member
      exact (writer.sealing.mem_stream _ _ _ _ box member).2.2 wholePlain
    obtain ⟨opened, tail, own, rfl, restContent, ends⟩ :=
      Opening.pull_own_frames ideal nonempty (ending.trans wholeBody) pulled
    refine ⟨opened, reader.opening.aad, tail,
      fun box listed => (own box listed).1, by simp [unbuffered], ?_,
      length, ?_, ends⟩
    · rw [content, restContent, List.append_assoc]
    · intro some
      obtain ⟨box, listed⟩ := List.exists_mem_of_ne_nil opened some
      obtain ⟨member, sameAad⟩ := own box listed
      obtain ⟨position, boxed⟩ :=
        (writer.sealing.mem_stream _ _ _ _ box member).1
      rw [← sameAad, boxed]
      rfl
  · exact .inl clean

/-! ## A dropped frame -/

/-- Nonces that count the frames. -/
def countingNonces : Nonces where
  nonce := fun index => List.replicate nonceLen (UInt8.ofNat index)
  length_nonce := fun _ => List.length_replicate

/-- The box of one byte as the cipher of a log seals it in chunks of one. -/
def byteBox (index : Nat) (byte : UInt8) : SealedBox :=
  { nonce := countingNonces.nonce index
    plaintext := [byte]
    ciphertext := byte :: List.replicate tagLen 0
    aad := magic ++ [0, 0, 0] ++ putUint32 1 ++ [0, 0, 0, 0] }

/-- The boxes of the plaintext `[1, 2]` in chunks of one byte. -/
def twoBoxes : List SealedBox := [byteBox 0 1, byteBox 1 2]

theorem twoBoxes_idealOn (key : Bytes) :
    (Aead.ofLog twoBoxes).IdealOn key twoBoxes := by
  apply Aead.ofLog_idealOn
  decide

/-- A 256-bit key. -/
def zeroKey : Bytes := List.replicate 32 0

/-- The writer of the plaintext `[1, 2]` in chunks of one byte. -/
def twoWriter : EncReader :=
  let sealing : Sealing :=
    ⟨Aead.ofLog twoBoxes, zeroKey, countingNonces, 1, Nat.one_pos⟩
  ⟨sealing, ⟨sealing.aad, ⟨Source.ofBytes [1, 2], 0, false⟩⟩⟩

/-- The body of `twoWriter` without its last frame. -/
def droppedBody : Source :=
  Source.ofBytes (twoWriter.sealing.aad ++ frame (byteBox 0 1))

/-- The reader of the body without its last frame. -/
def droppedReader : DecReader :=
  ⟨⟨Aead.ofLog twoBoxes, zeroKey, twoWriter.sealing.aad, 1⟩,
    ⟨[], Source.ofBytes (frame (byteBox 0 1))⟩⟩

theorem droppedReader_drains : droppedReader.Drains [1] .eof :=
  Refill.drains_of_pull (show
    Refill.pull droppedReader.opening.fill 3 droppedReader.buffered.state =
      some ([1], .eof) by decide) []

/--
A body without its last frame is read to a clean end, and not all of the
plaintext is delivered.
-/
theorem dropped_frame_ends_cleanly :
    ¬ ∀ (aead : Aead) (nonces : Nonces) (dek : Bytes) (chunk : Int)
        (plain : Source) (writer : EncReader) (written : Bytes),
      plain.ending = .eof →
      encryptReader aead nonces dek plain chunk = .ok writer →
      writer.Drains written .eof →
      aead.IdealOn dek (writer.sealing.boxes plain.content plain.ending) →
      ∀ body : Source, body.ending = .eof → body.content ≠ written →
      ∀ reader, decryptReader aead dek body = .ok reader →
      ∀ output err, reader.Drains output err →
        err ≠ .eof ∨ output = plain.content := by
  intro integrity
  have made : encryptReader (Aead.ofLog twoBoxes) countingNonces zeroKey
      (Source.ofBytes [1, 2]) 1 = .ok twoWriter :=
    rfl
  have written :=
    (encryptReader_drains_iff made _ _).mpr ⟨rfl, rfl⟩
  rcases integrity _ _ _ _ _ _ _ rfl made written
      (twoBoxes_idealOn zeroKey) droppedBody rfl (by decide)
      droppedReader rfl _ _ droppedReader_drains with failed | whole
  · exact failed rfl
  · exact absurd whole (by decide)

/-- The dropped frame leaves the first frame of the encryption. -/
theorem decryptReader_yields_own_frames_dropped :
    droppedReader.Drains [1] .eof ∧
      ∃ (opened : List SealedBox) (header tail : Bytes), (∀ box ∈ opened,
          box ∈ twoWriter.sealing.boxes [1, 2] .eof) ∧
        [1] = plaintexts opened ∧
        droppedBody.content = header ++ frames opened ++ tail ∧
        header.length = headerLen ∧
        (opened ≠ [] → header = twoWriter.sealing.aad) ∧
        (tail = [] ∨ tail.length = 4) :=
  ⟨droppedReader_drains, ((decryptReader_yields_own_frames
    (Aead.ofLog twoBoxes) countingNonces zeroKey 1 (Source.ofBytes [1, 2])
    rfl twoWriter rfl (twoBoxes_idealOn zeroKey) droppedBody rfl
    droppedReader rfl).2 [1] .eof droppedReader_drains).resolve_left
      (· rfl)⟩

end DataSafe.Kms
