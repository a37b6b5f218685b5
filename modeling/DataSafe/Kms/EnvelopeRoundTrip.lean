import DataSafe.Kms.Envelope

/-!
# Opening what was sealed

Reading an `encReader` to its end fails exactly if its source fails, except
for a source that fails with an unexpected end of file.

A body that `encryptReader` has delivered to its end opens under its data key
to the bytes that the source delivered, whether the source ended with an end
of file or with an unexpected one.  A last frame without plaintext, which only
the latter leaves, ends the body like the end of the file.
-/

namespace DataSafe.Kms

open Base

/-! ## The end of a sealed body -/

/-- Reading an `encReader` to the end reports an error. -/
def EncReader.Fails (reader : EncReader) : Prop :=
  (∃ output err, reader.Drains output err) ∧
    ∀ output err, reader.Drains output err → err ≠ .eof

/-- A failing source is noticed unless its error is an unexpected end. -/
theorem encryptReader_fails_iff
    {aead : Aead} {nonces : Nonces} {dek : Bytes} {plain : Source}
    {chunk : Int} {reader : EncReader}
    (made : encryptReader aead nonces dek plain chunk = .ok reader)
    (broken : plain.ending ≠ .eof) :
    reader.Fails ↔ plain.ending ≠ .unexpectedEOF := by
  have ended : reader.sealing.ending plain.content plain.ending =
      if plain.ending = .unexpectedEOF then .eof else plain.ending :=
    reader.sealing.stream_ending _ _ 0 _ (Nat.lt_succ_self _)
  simp only [EncReader.Fails, encryptReader_drains_iff made, ended]
  by_cases truncated : plain.ending = .unexpectedEOF
  · simp [truncated]
  · simp [broken]

/-! ## Opening -/

/-- What opens the bodies of a sealing. -/
def Sealing.opening (sealing : Sealing) : Opening :=
  ⟨sealing.aead, sealing.dek, sealing.aad, sealing.chunk⟩

variable {src : Source} {plain : Bytes}

/-- A refill at the end of a body reports the end. -/
theorem Opening.pull_end
    (opening : Opening) {fuel : Nat}
    (empty : src.content = []) (clean : src.ending = .eof) :
    Refill.pull opening.fill (fuel + 1) src = some ([], .eof) := by
  obtain ⟨_, err, _⟩ := src.readFull_short 4 (by simp [empty])
  simp [Refill.pull, fill, err, empty, clean]

/-- A box that a frame of this chunk size can hold. -/
structure Boxed (chunk : Nat) (box : SealedBox) : Prop where
  nonce : box.nonce.length = nonceLen
  tagged : tagLen ≤ box.ciphertext.length
  short : box.ciphertext.length ≤ chunk + tagLen
  fits : box.ciphertext.length < 2 ^ 32

theorem Sealing.boxed_box
    (sealing : Sealing) (fits : sealing.chunk + tagLen < 2 ^ 32)
    (index : Nat) (short : plain.length ≤ sealing.chunk) :
    Boxed sealing.chunk (sealing.box index plain) := by
  have cipher : (sealing.box index plain).ciphertext.length =
      plain.length + tagLen :=
    sealing.aead.sealBox_length _ _ _ _
  exact ⟨sealing.nonces.length_nonce index, by omega, by omega, by omega⟩

/-- A refill comes down to opening the box of the frame in front. -/
theorem Opening.fill_frame
    (opening : Opening) {box : SealedBox} {rest : Bytes}
    (boxed : Boxed opening.chunk box)
    (content : src.content = frame box ++ rest) :
    ∃ next, next.content = rest ∧ next.ending = src.ending ∧
      opening.fill src =
        match opening.aead.openBox opening.dek box.nonce box.ciphertext
            opening.aad with
        | none => .error (.other "cipher: message authentication failed")
        | some plain => .ok (plain, next) := by
  obtain ⟨nonce, tagged, short, fits⟩ := boxed
  simp only [frame, List.append_assoc] at content
  obtain ⟨lengthData, lengthErr, lengthRest, lengthEnding⟩ :=
    src.readFull_enough 4 (by
      rw [content, List.length_append, putUint32_length]
      omega)
  rw [content] at lengthData
  rw [content, List.drop_left' (putUint32_length _)] at lengthRest
  have size : uint32 (src.readFull 4).data = box.ciphertext.length := by
    rw [lengthData]
    exact uint32_putUint32 _ fits
  rw [← List.append_assoc] at lengthRest
  have whole : (box.nonce ++ box.ciphertext).length =
      nonceLen + box.ciphertext.length := by
    rw [List.length_append, nonce]
  obtain ⟨data, err, left, ending⟩ :=
    (src.readFull 4).rest.readFull_enough
      (nonceLen + box.ciphertext.length) (by
        rw [lengthRest, List.length_append]
        omega)
  rw [lengthRest, List.take_left' whole] at data
  rw [lengthRest, List.drop_left' whole] at left
  have accepted : ¬ (box.ciphertext.length < tagLen ∨
      opening.chunk + tagLen < box.ciphertext.length) := by
    omega
  refine ⟨_, left, ending.trans lengthEnding, ?_⟩
  have front : (box.nonce ++ box.ciphertext).take nonceLen = box.nonce :=
    List.take_left' nonce
  have back : (box.nonce ++ box.ciphertext).drop nonceLen =
      box.ciphertext :=
    List.drop_left' nonce
  cases opened : opening.aead.openBox opening.dek box.nonce box.ciphertext
      opening.aad with
  | none =>
    simp only [fill, lengthErr, size, accepted, if_false, err, data, front,
      back, opened]
  | some plain =>
    simp only [fill, lengthErr, size, accepted, if_false, err, data, front,
      back, opened]

section Open

variable {sealing : Sealing} (correct : sealing.aead.Correct)
  (fits : sealing.chunk + tagLen < 2 ^ 32)

include correct fits

/-- A refill opens the frame of its own sealing in front. -/
theorem Sealing.fill_frame
    {index : Nat} {rest : Bytes} (short : plain.length ≤ sealing.chunk)
    (content : src.content = frame (sealing.box index plain) ++ rest) :
    ∃ next, sealing.opening.fill src = .ok (plain, next) ∧
      next.content = rest ∧ next.ending = src.ending := by
  obtain ⟨next, left, ending, filled⟩ :=
    sealing.opening.fill_frame (sealing.boxed_box fits index short) content
  refine ⟨next, ?_, left, ending⟩
  rw [filled]
  simp only [opening, box, correct _ _ _ _]

/-- Opening the last frame of a body ends the body. -/
theorem Sealing.pull_last
    (index : Nat) {fuel : Nat} (short : plain.length ≤ sealing.chunk)
    (content : src.content = frame (sealing.box index plain))
    (clean : src.ending = .eof) :
    Refill.pull sealing.opening.fill (fuel + 2) src =
      some (plain, .eof) := by
  rw [← List.append_nil (frame _)] at content
  obtain ⟨next, filled, left, ending⟩ :=
    sealing.fill_frame correct fits short content
  by_cases empty : plain = []
  · subst empty
    simp [Refill.pull, filled]
  · have stopped : Refill.pull sealing.opening.fill (fuel + 1) next = _ :=
      sealing.opening.pull_end left (ending.trans clean)
    simpa using pull_of_fill filled empty stopped

/-- Refilling from the frames of a source yields what the source held. -/
theorem Sealing.pull_stream
    {ending : ReadErr} (accepted : ending = .eof ∨ ending = .unexpectedEOF)
    (fuel : Nat) :
    ∀ (index : Nat) (content : Bytes) (src : Source), content.length < fuel →
      src.content = frames (sealing.stream fuel index content ending).1 →
      src.ending = .eof →
      Refill.pull sealing.opening.fill (fuel + 1) src =
        some (content, .eof) := by
  induction fuel with
  | zero =>
    intro index content src bounded
    omega
  | succ fuel induction =>
    intro index content src bounded held clean
    have positive := sealing.chunk_pos
    by_cases enough : sealing.chunk ≤ content.length
    · simp only [stream, enough] at held
      obtain ⟨next, filled, left, ended⟩ :=
        sealing.fill_frame correct fits (List.length_take_le _ _) held
      have later := induction (index + 1) (content.drop sealing.chunk) next
        (by
          rw [List.length_drop]
          omega)
        left (ended.trans clean)
      have nonempty : content.take sealing.chunk ≠ [] := by
        intro empty
        have lengths := congrArg List.length empty
        rw [List.length_take, List.length_nil] at lengths
        omega
      simpa using pull_of_fill filled nonempty later
    · have short : content.length ≤ sealing.chunk := by omega
      rcases accepted with rfl | rfl
      · by_cases empty : content = []
        · subst empty
          refine sealing.opening.pull_end ?_ clean
          simpa [stream, Nat.ne_of_gt positive] using held
        · refine sealing.pull_last correct fits index short ?_ clean
          simpa [stream, enough, empty] using held
      · refine sealing.pull_last correct fits index short ?_ clean
        simpa [stream, enough] using held

/-- A body that was delivered to its end opens to what its source held. -/
theorem decryptReader_sealed
    (keyed : aeadFor sealing.dek = .ok ()) (content : Bytes)
    {ending : ReadErr} (accepted : ending = .eof ∨ ending = .unexpectedEOF) :
    ∃ reader, decryptReader sealing.aead sealing.dek (Source.ofBytes
            (sealing.aad ++ frames (sealing.boxes content ending))) =
          .ok reader ∧
        reader.readAll = (content, .eof) := by
  generalize boxed : frames (sealing.boxes content ending) = body
  generalize whole : Source.ofBytes (sealing.aad ++ body) = src
  have held : src.content = sealing.aad ++ body := by
    rw [← whole]
    simp [Source.ofBytes, Source.content]
  have clean : src.ending = .eof := by
    rw [← whole]
    rfl
  obtain ⟨data, err, rest, ended⟩ :=
    src.readFull_enough headerLen (by
      rw [held, List.length_append, length_aad]
      omega)
  rw [held, List.take_left' (length_aad sealing)] at data
  rw [held] at rest
  have chunk : uint32 ((sealing.aad.drop 8).take 4) = sealing.chunk :=
    uint32_putUint32 sealing.chunk (by omega)
  have named : sealing.aad.take 5 = magic := rfl
  refine ⟨⟨sealing.opening, ⟨[], (src.readFull headerLen).rest⟩⟩, ?_, ?_⟩
  · simp [decryptReader, keyed, bind, Except.bind, err, data, named, chunk,
      Nat.ne_of_gt sealing.chunk_pos, Sealing.opening]
  · have pulled := sealing.pull_stream correct fits accepted
      (content.length + 1) 0 content (src.readFull headerLen).rest
      (Nat.lt_succ_self _) (rest.trans boxed.symm) (ended.trans clean)
    exact (DecReader.drains_iff _ _ _).mp (Refill.drains_of_pull pulled [])

end Open

end DataSafe.Kms
