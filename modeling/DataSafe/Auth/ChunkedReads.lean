import DataSafe.Auth.SignedUpload

/-!
# Reading a chunked body

`chunkReader` serves what is left of a chunk first and decodes the next chunk
when nothing is left, so it is a refilled buffer over a producer of chunks.
Whatever the sizes of the reads, it delivers the data of the chunks in order;
what it checked when it reports the end is read off the train.

Trailers are read only if the request announces them.  A body that carries
them all the same ends well whatever they say.
-/

namespace DataSafe.Auth

open Base Metadata

/-! ## The reader -/

/-- What `chunkReader` goes on from; `data` is what its hashes have seen. -/
structure ChunkState where
  input : Bytes
  prevSig : Bytes
  data : Bytes

/-- How a reader reports the end of a train. -/
def trainEnding (ending : Option ChunkErr) : ReadErr :=
  match ending with
  | none => .eof
  | some err => .other err.text

/-- `Read` of a `chunkReader` that has nothing left. -/
def nextChunk
    (platform : Platform) (codecs : Codecs) (setup : ChunkSetup)
    (state : ChunkState) : Except ReadErr (Bytes × ChunkState) :=
  let fail (err : ChunkErr) := Except.error (trainEnding (some err))
  match readHeader setup.signed state.input with
  | none => fail .malformedChunk
  | some (size, signature, rest) =>
    if maxChunkSize < size then fail .malformedChunk
    else
      match takeChunk size rest with
      | none => fail .malformedChunk
      | some (chunk, rest) =>
        let next :=
          chunkSig platform setup state.prevSig (platform.sha256 chunk)
        if setup.signed = true ∧ equalFold next signature = false then
          fail .chunkSignature
        else
          let prevSig := if setup.signed then next else state.prevSig
          if size = 0 then
            .error (trainEnding (finishTrain platform codecs setup prevSig
              state.data rest))
          else .ok (chunk, ⟨rest, prevSig, state.data ++ chunk⟩)

/-- `UnwrapAWSChunked` up to the reader: its settings and first signature. -/
def chunkSetupOf (request : HTTPRequest) (secret : Bytes)
    (mode : StreamingMode) : Except ChunkErr (ChunkSetup × Bytes) :=
  match announcedLength request with
  | none => .error .malformedChunk
  | some want =>
    let trailers := decide (mode ≠ .streamingSigned) ||
      decide (request.headerGet trailerName ≠ [])
    if mode.signed then
      match seedFromRequest request with
      | none => .error .malformedChunk
      | some (seed, amzDate, scope, region, dateStamp) =>
        .ok (⟨true, trailers, secret, amzDate, scope, region, dateStamp,
          want⟩, seed)
    else .ok (⟨false, trailers, [], [], [], [], [], want⟩, [])

/-- Trailers are read if the mode has them or the request names them. -/
def announcesTrailers (request : HTTPRequest) (mode : StreamingMode) : Bool :=
  decide (mode ≠ .streamingSigned) ||
    decide (request.headerGet trailerName ≠ [])

variable {request : HTTPRequest} {setup : ChunkSetup} {seed data text : Bytes}

theorem chunkSetupOf_ok
    {secret : Bytes} {mode : StreamingMode}
    (made : chunkSetupOf request secret mode = .ok (setup, seed)) :
    (mode.signed = true ∧ ∃ want amzDate scope region dateStamp,
      announcedLength request = some want ∧
      seedFromRequest request = some (seed, amzDate, scope, region,
        dateStamp) ∧
      setup = ⟨true, announcesTrailers request mode, secret, amzDate, scope,
        region, dateStamp, want⟩) ∨
    (mode.signed = false ∧ ∃ want, announcedLength request = some want ∧
      setup = ⟨false, announcesTrailers request mode, [], [], [], [], [],
        want⟩ ∧ seed = []) := by
  unfold chunkSetupOf at made
  cases announced : announcedLength request with
  | none =>
    rw [announced] at made
    cases made
  | some want =>
    rw [announced] at made
    dsimp only at made
    cases signed : mode.signed with
    | false =>
      rw [if_neg (by simp [signed])] at made
      cases made
      exact .inr ⟨rfl, want, rfl, rfl, rfl⟩
    | true =>
      rw [if_pos signed] at made
      cases seeded : seedFromRequest request with
      | none =>
        rw [seeded] at made
        cases made
      | some settings =>
        rcases settings with ⟨found, amzDate, scope, region, dateStamp⟩
        rw [seeded] at made
        cases made
        exact .inl ⟨rfl, want, amzDate, scope, region, dateStamp, rfl,
          rfl, rfl⟩

/-- What reads of these sizes deliver, up to the first error. -/
def readBody
    (platform : Platform) (codecs : Codecs) (setup : ChunkSetup)
    (seed body : Bytes) (sizes : List Nat) : Option (Bytes × ReadErr) :=
  readAlong (Refill.read (nextChunk platform codecs setup)) sizes
    ⟨[], ⟨body, seed, []⟩⟩

section Reader

variable (platform : Platform) (codecs : Codecs) (setup : ChunkSetup)

theorem readHeader_shorter
    {signed : Bool} {input signature rest : Bytes} {size : Nat}
    (header : readHeader signed input = some (size, signature, rest)) :
    rest.length < input.length := by
  simp only [readHeader, Option.bind_eq_bind, Option.bind_eq_some_iff,
    Prod.exists] at header
  rcases header with ⟨line, behind, read, _, _, _, _, _, _, rfl⟩
  rw [readLine] at read
  split_ifs at read with present
  rcases Prod.mk.inj (Option.some.inj read) with ⟨_, rfl⟩
  simp only [cut, List.length_drop]
  have parts := congrArg List.length
    (List.takeWhile_append_dropWhile (p := (· ≠ lineFeed)) (l := input))
  have some : 0 < (input.dropWhile (· ≠ lineFeed)).length := by
    apply List.length_pos_iff.mpr
    intro none
    have all := List.dropWhile_eq_nil_iff.mp none lineFeed present
    simp at all
  rw [List.length_append] at parts
  omega

/-- Reading to the end delivers the train that `readChunks` decodes. -/
theorem pull_nextChunk
    (fuel : Nat) (prevSig data input : Bytes) (enough : input.length ≤ fuel) :
    Refill.pull (nextChunk platform codecs setup) (fuel + 1)
        ⟨input, prevSig, data⟩ =
      some ((readChunks platform codecs setup fuel prevSig data
          input).1.flatten,
        trainEnding (readChunks platform codecs setup fuel prevSig data
          input).2) := by
  induction fuel generalizing prevSig data input with
  | zero =>
    obtain rfl := List.eq_nil_of_length_eq_zero (Nat.le_zero.mp enough)
    have none : readHeader setup.signed [] = none := rfl
    simp [Refill.pull, nextChunk, readChunks, none]
  | succ fuel induction =>
    rw [Refill.pull, nextChunk, readChunks]
    cases header : readHeader setup.signed input with
    | none => simp
    | some found =>
      rcases found with ⟨size, signature, rest⟩
      dsimp only
      by_cases large : maxChunkSize < size
      · simp [large]
      rw [if_neg large, if_neg large]
      cases taken : takeChunk size rest with
      | none => simp
      | some found =>
        rcases found with ⟨chunk, behind⟩
        rcases takeChunk_some taken with ⟨sized, split⟩
        dsimp only
        by_cases forged : setup.signed = true ∧ equalFold
            (chunkSig platform setup prevSig (platform.sha256 chunk))
            signature = false
        · simp [forged]
        rw [if_neg forged, if_neg forged]
        by_cases empty : size = 0
        · simp [empty]
        rw [if_neg empty, if_neg empty]
        have shorter := readHeader_shorter header
        have split := congrArg List.length split
        rw [List.length_append] at split
        cases chunk with
        | nil => exact absurd sized.symm empty
        | cons byte chunk =>
          simp only
          rw [induction _ _ _ (by omega)]
          rfl

/-- What `UnwrapAWSChunked` hands to the service is what the reads deliver. -/
theorem unwrapAWSChunked_streaming
    {mode : StreamingMode} (streaming : streamingMode request = some mode)
    (secret : Bytes) (body : Source) (contentLength : Int)
    (made : chunkSetupOf request secret mode = .ok (setup, seed)) :
    unwrapAWSChunked platform codecs request secret body contentLength =
      .ok (trainSource (readChunks platform codecs setup body.content.length
        seed [] body.content), (setup.want.map Int.ofNat).getD (-1)) := by
  unfold unwrapAWSChunked
  rw [streaming]
  rcases chunkSetupOf_ok made with
    ⟨signed, want, amzDate, scope, region, dateStamp, announced, seeded,
      rfl⟩ | ⟨unsigned, want, announced, rfl, rfl⟩
  · rw [announced]
    dsimp only
    rw [if_pos signed, seeded]
    rfl
  · rw [announced]
    dsimp only
    rw [if_neg (by simp [unsigned])]
    rfl

theorem readBody_eq
    (seed body : Bytes) {sizes : List Nat}
    (positive : ∀ size ∈ sizes, 0 < size) {output : Bytes} {err : ReadErr}
    (read : readBody platform codecs setup seed body sizes =
      some (output, err)) :
    output = (readChunks platform codecs setup body.length seed []
        body).1.flatten ∧
      err = trainEnding (readChunks platform codecs setup body.length seed []
        body).2 := by
  have drained := drains_of_readAlong positive read
  have pulled := pull_nextChunk platform codecs setup body.length seed []
    body (Nat.le_refl _)
  exact (Refill.drains_iff_of_pull pulled [] output err).mp drained

end Reader

/-! ## What an ended train was checked for -/

/-- The signature that the next chunk continues from. -/
def chainSig (platform : Platform) (setup : ChunkSetup)
    (prevSig chunk : Bytes) : Bytes :=
  if setup.signed then
    chunkSig platform setup prevSig (platform.sha256 chunk)
  else prevSig

/--
The input starts with a line that has the size of the chunk and, if chunks
are signed, a signature that continues the chain; then come the chunk and,
unless it is empty, a line end.
-/
def Frame (platform : Platform) (setup : ChunkSetup)
    (prevSig input chunk rest : Bytes) : Prop :=
  ∃ signature, readHeader setup.signed input = some (chunk.length, signature,
      chunk ++ (if chunk.length = 0 then [] else [13, 10]) ++ rest) ∧
    (setup.signed = true → equalFold
      (chunkSig platform setup prevSig (platform.sha256 chunk))
      signature = true)

/-- A train of chunks up to its empty one, the last signature and the rest. -/
inductive Train (platform : Platform) (setup : ChunkSetup) :
    Bytes → Bytes → List Bytes → Bytes → Bytes → Prop where
  | stop {prevSig input rest : Bytes}
      (frame : Frame platform setup prevSig input [] rest) :
      Train platform setup prevSig input [] (chainSig platform setup prevSig
        []) rest
  | chunk {prevSig input chunk middle last rest : Bytes}
      {chunks : List Bytes} (filled : chunk ≠ [])
      (frame : Frame platform setup prevSig input chunk middle)
      (later : Train platform setup (chainSig platform setup prevSig chunk)
        middle chunks last rest) :
      Train platform setup prevSig input (chunk :: chunks) last rest

theorem train_of_readChunks
    (platform : Platform) (codecs : Codecs)
    (fuel : Nat) (prevSig data input : Bytes)
    (ended : (readChunks platform codecs setup fuel prevSig data input).2 =
      none) :
    ∃ last rest, Train platform setup prevSig input
        (readChunks platform codecs setup fuel prevSig data input).1 last
        rest ∧
      finishTrain platform codecs setup last
        (data ++ (readChunks platform codecs setup fuel prevSig data
          input).1.flatten) rest = none := by
  induction fuel generalizing prevSig data input with
  | zero => cases ended
  | succ fuel induction =>
    rw [readChunks] at ended ⊢
    cases header : readHeader setup.signed input with
    | none =>
      rw [header] at ended
      cases ended
    | some found =>
      rcases found with ⟨size, signature, behind⟩
      rw [header] at ended
      dsimp only at ended ⊢
      by_cases large : maxChunkSize < size
      · rw [if_pos large] at ended
        cases ended
      rw [if_neg large] at ended ⊢
      cases taken : takeChunk size behind with
      | none =>
        rw [taken] at ended
        cases ended
      | some found =>
        rcases found with ⟨chunk, rest⟩
        rcases takeChunk_some taken with ⟨rfl, split⟩
        rw [taken] at ended
        dsimp only at ended ⊢
        by_cases forged : setup.signed = true ∧ equalFold
            (chunkSig platform setup prevSig (platform.sha256 chunk))
            signature = false
        · rw [if_pos forged] at ended
          cases ended
        rw [if_neg forged] at ended ⊢
        have frame : Frame platform setup prevSig input chunk rest :=
          ⟨signature, split ▸ header,
            fun signed => by simpa [signed] using forged⟩
        by_cases empty : chunk.length = 0
        · obtain rfl := List.eq_nil_of_length_eq_zero empty
          refine ⟨_, rest, .stop frame, ?_⟩
          simpa [chainSig] using ended
        · rw [if_neg empty] at ended ⊢
          rcases induction _ _ _ ended with ⟨last, final, later, done⟩
          refine ⟨last, final, .chunk ?_ frame later, ?_⟩
          · rintro rfl
            exact empty rfl
          · simpa using done

/-- The lines of the trailer block that the bytes behind a train carry. -/
def trailerLines : Nat → Bytes → List Bytes
  | 0, _ => []
  | fuel + 1, input =>
    match readLine input with
    | none => []
    | some (line, rest) =>
      if line = [] ∨
          trailerSignaturePrefixed.isPrefixOf (toLower line) then []
      else line :: trailerLines fuel rest

theorem trailerLines_of_read
    {fuel : Nat} {input signature : Bytes} {lines : List Bytes}
    (read : readTrailerLines fuel input = some (lines, signature)) :
    trailerLines fuel input = lines := by
  induction fuel generalizing input lines with
  | zero => cases read
  | succ fuel induction =>
    simp only [readTrailerLines, Option.bind_eq_bind,
      Option.bind_eq_some_iff, Prod.exists] at read
    rcases read with ⟨line, rest, found, read⟩
    simp only [trailerLines, found]
    split_ifs at read with blank last
    · cases read
      simp [blank]
    · cases read
      simp [last]
    · rcases Option.bind_eq_some_iff.mp read with ⟨⟨more, _⟩, later, same⟩
      cases same
      simp [blank, last, induction later]

/-- The line is no known checksum, or that of the bytes. -/
def ChecksumHolds (codecs : Codecs) (data line : Bytes) : Prop :=
  58 ∈ line → ∀ kind,
    checksumKind (toLower (trimSpace (cut 58 line).1)) = some kind →
    codecs.base64Decode (trimSpace (cut 58 line).2) =
      some (codecs.checksum kind data)

theorem checksumHolds_of_ok
    {codecs : Codecs} {line : Bytes}
    (checked : trailerLineOK codecs data line = true) :
    ChecksumHolds codecs data line := by
  intro colon kind known
  rw [trailerLineOK] at checked
  split_ifs at checked with skipped
  · -- An empty name is that of no checksum.
    rw [skipped.resolve_left (not_not.mpr colon)] at known
    have unknown : checksumKind (toLower (trimSpace [])) = none := by
      decide +kernel
    rw [unknown] at known
    cases known
  · simpa [checksumOK, known] using checked

/-- The text that the signature of a trailer block covers. -/
def canonicalTrailers (lines : List Bytes) : Bytes :=
  if lines = [] then [] else [lineFeed].intercalate lines ++ [lineFeed]

/-- What the end of a body was checked for. -/
structure EndsWell (platform : Platform) (codecs : Codecs)
    (setup : ChunkSetup) (last data rest : Bytes) : Prop where
  length : ∀ want, setup.want = some want → data.length = want
  signature : setup.signed = true → setup.trailers = true →
    ∃ signature, readTrailerLines rest.length rest =
        some (trailerLines rest.length rest, signature) ∧
      equalFold (trailerSig platform setup last
        (canonicalTrailers (trailerLines rest.length rest))) signature = true
  checksums : setup.trailers = true ∨ trailerLines rest.length rest = [] →
    ∀ line ∈ trailerLines rest.length rest, ChecksumHolds codecs data line

theorem endsWell_of_finishTrain
    {platform : Platform} {codecs : Codecs} {last rest : Bytes}
    (done : finishTrain platform codecs setup last data rest = none) :
    EndsWell platform codecs setup last data rest := by
  have trailers : setup.trailers = true →
      readTrailers platform codecs setup last data rest = none := by
    intro announced
    rw [finishTrain, if_pos announced] at done
    split at done
    · cases done
    · next fine => exact fine
  have block : setup.trailers = true → ∃ signature,
      readTrailerLines rest.length rest =
        some (trailerLines rest.length rest, signature) ∧
      (setup.signed = true → equalFold (trailerSig platform setup last
        (canonicalTrailers (trailerLines rest.length rest))) signature =
          true) ∧
      (trailerLines rest.length rest).all (trailerLineOK codecs data) =
        true := by
    intro announced
    have fine := trailers announced
    unfold readTrailers at fine
    split at fine
    · cases fine
    · next lines signature read =>
        obtain rfl := trailerLines_of_read read
        change (if setup.signed = true ∧ (signature = [] ∨ equalFold
            (trailerSig platform setup last (canonicalTrailers
              (trailerLines rest.length rest))) signature = false) then _
          else if _ then _ else _) = none at fine
        split_ifs at fine with forged checked
        refine ⟨signature, read, fun signed => ?_, checked⟩
        rcases not_or.mp (not_and.mp forged signed) with ⟨_, matched⟩
        exact Bool.eq_true_of_not_eq_false matched
  constructor
  · intro want announced
    unfold finishTrain at done
    split at done
    · cases done
    · rw [announced] at done
      split_ifs at done with other
      exact (of_not_not fun apart => other (decide_eq_true apart)).symm
  · intro signed announced
    rcases block announced with ⟨signature, read, matched, _⟩
    exact ⟨signature, read, matched signed⟩
  · rintro (announced | none) line carried
    · rcases block announced with ⟨_, _, _, checked⟩
      exact checksumHolds_of_ok (List.all_eq_true.mp checked line carried)
    · rw [none] at carried
      cases carried

/-! ## Encoding -/

/-- `strconv.FormatInt` in base 16; a number has fewer digits than itself. -/
def hexDigits : Nat → Nat → Bytes
  | 0, _ => []
  | fuel + 1, number =>
    if number < 16 then [lowerDigit number]
    else hexDigits fuel (number / 16) ++ [lowerDigit (number % 16)]

/-- The body of `write` in `EncodeSignedChunks`. -/
def signedFrame (platform : Platform) (setup : ChunkSetup)
    (prevSig data : Bytes) : Bytes :=
  hexDigits (data.length + 1) data.length ++ 59 :: ascii "chunk-signature=" ++
    chunkSig platform setup prevSig (platform.sha256 data) ++ [13, 10] ++
    data ++ if data.length = 0 then [] else [13, 10]

/-- `EncodeSignedChunks` -/
def encodeSignedChunks (platform : Platform) (setup : ChunkSetup)
    (seed payload : Bytes) : Bytes :=
  signedFrame platform setup seed payload ++ signedFrame platform setup
      (chunkSig platform setup seed (platform.sha256 payload)) []

/-- The text is of hexadecimal digits. -/
def AllDigits (text : Bytes) : Prop :=
  ∀ byte ∈ text, (digitValue byte).isSome = true

theorem AllDigits.notMem
    (digits : AllDigits text) {byte : UInt8}
    (other : digitValue byte = none) : byte ∉ text := by
  intro member
  have digit := digits byte member
  rw [other] at digit
  cases digit

theorem lowerDigit_isSome {digit : Nat} (small : digit < 16) :
    (digitValue (lowerDigit digit)).isSome = true := by
  rw [digitValue_lowerDigit digit small]
  rfl

theorem allDigits_hexText (bytes : Bytes) : AllDigits (hexText bytes) := by
  intro byte member
  rcases List.mem_flatMap.mp member with ⟨source, _, digit⟩
  have bound := source.toNat_lt
  rcases List.mem_pair.mp digit with rfl | rfl
  all_goals exact lowerDigit_isSome (by omega)

theorem allDigits_hexDigits (fuel number : Nat) :
    AllDigits (hexDigits fuel number) := by
  induction fuel generalizing number with
  | zero => simp [AllDigits, hexDigits]
  | succ fuel induction =>
    intro byte member
    rw [hexDigits] at member
    split_ifs at member with small
    · rw [List.mem_singleton.mp member]
      exact lowerDigit_isSome small
    · rcases List.mem_append.mp member with front | last
      · exact induction _ byte front
      · rw [List.mem_singleton.mp last]
        exact lowerDigit_isSome (Nat.mod_lt _ (by decide))

theorem readDigits_hexDigits
    {fuel number : Nat} (enough : number < fuel) :
    readDigits 16 (hexDigits fuel number) = some number := by
  have filled : ∀ fuel number, hexDigits (fuel + 1) number ≠ [] := by
    intro fuel number
    rw [hexDigits]
    split_ifs <;> simp
  induction fuel generalizing number with
  | zero => cases enough
  | succ fuel induction =>
    rw [readDigits, if_neg (filled fuel number), hexDigits]
    split_ifs with small
    · simp [digitValue_lowerDigit number small, small]
    · cases fuel with
      | zero => omega
      | succ fuel =>
        have front : readDigits 16 (hexDigits (fuel + 1) (number / 16)) =
            some (number / 16) := induction (by omega)
        rw [readDigits, if_neg (filled fuel _)] at front
        have last : number % 16 < 16 := Nat.mod_lt _ (by decide)
        rw [List.foldlM_append, front]
        simp [digitValue_lowerDigit _ last, last, Nat.div_add_mod]

theorem parseSize_hexDigits {number : Nat} (small : number < 2 ^ 63) :
    parseSize 16 (hexDigits (number + 1) number) = some number := by
  have digits := allDigits_hexDigits (number + 1) number
  have read := readDigits_hexDigits (Nat.lt_succ_self number)
  have minus : digitValue 45 = none := by decide
  have plus : digitValue 43 = none := by decide
  generalize hexDigits (number + 1) number = text at digits read
  unfold parseSize
  split
  · exact absurd (.head _) (digits.notMem minus)
  · exact absurd (.head _) (digits.notMem plus)
  · simpa [read] using small

theorem trimRunes_of_allDigits
    {runes : List Bytes}
    (apart : (runes.all fun rune => !rune.isEmpty && rune.all fun byte =>
      (digitValue byte).isNone) = true) (digits : AllDigits text) :
    trimRunes runes 0 text = text := by
  cases text with
  | nil => rfl
  | cons byte rest =>
    have none : runes.find? (fun rune =>
        rune.isPrefixOf (byte :: rest)) = none := by
      rw [List.find?_eq_none]
      intro rune known leads
      have other := List.all_eq_true.mp apart rune known
      cases rune with
      | nil => cases other
      | cons head tail =>
        have same := (List.cons_prefix_cons.mp
          (List.isPrefixOf_iff_prefix.mp leads)).1
        simp only [List.isEmpty_cons, Bool.not_false, Bool.true_and,
          List.all_cons, Bool.and_eq_true, same,
          Option.isNone_iff_eq_none] at other
        exact digits.notMem other.1 (.head _)
    rw [trimRunes, leadingRune, none]

theorem trimSpace_of_allDigits
    (digits : AllDigits text) : trimSpace text = text := by
  have reversed : AllDigits text.reverse :=
    fun byte member => digits byte (List.mem_reverse.mp member)
  rw [trimSpace, trimRunes_of_allDigits (by decide) digits,
    trimRunes_of_allDigits (by decide) reversed, List.reverse_reverse]

/-- A line that holds no part of a line end is read up to its end. -/
theorem readLine_append
    {line : Bytes} (unbroken : ∀ byte ∈ line, byte ≠ 13 ∧ byte ≠ 10)
    (rest : Bytes) : readLine (line ++ 13 :: 10 :: rest) =
      some (line, rest) := by
  have absent : lineFeed ∉ line ++ [13] := by
    rw [List.mem_append, not_or]
    exact ⟨fun member => (unbroken _ member).2 rfl, by decide⟩
  have split : cut lineFeed (line ++ 13 :: 10 :: rest) =
      (line ++ [13], rest) := by
    have front := cut_append absent rest
    rwa [List.append_assoc] at front
  have trimmed : trimLineEnd (line ++ [13]) = line := by
    rw [trimLineEnd, List.reverse_append, List.reverse_singleton,
      List.singleton_append, List.dropWhile_cons_of_pos (by decide)]
    cases reversed : line.reverse with
    | nil => exact (List.reverse_eq_nil_iff.mp reversed).symm
    | cons byte front =>
      have last := unbroken byte (List.mem_reverse.mp
        (reversed ▸ List.mem_cons_self))
      rw [List.dropWhile_cons_of_neg (by simp [last]), ← reversed,
        List.reverse_reverse]
  rw [readLine, if_pos (by simp [lineFeed]), split, trimmed]

theorem textBehind_append (head : UInt8) (pattern rest : Bytes) :
    textBehind (head :: pattern) (head :: pattern ++ rest) = some rest := by
  have leads : (head :: pattern).isPrefixOf (head :: (pattern ++ rest)) =
      true :=
    List.isPrefixOf_iff_prefix.mpr (List.prefix_append (head :: pattern) rest)
  have behind : (head :: (pattern ++ rest)).drop (head :: pattern).length =
      rest := List.drop_left
  rw [List.cons_append, textBehind, if_pos leads, behind]

/-- The line of a signed chunk. -/
def frameLine (digits signature : Bytes) : Bytes :=
  digits ++ 59 :: (ascii "chunk-signature=" ++ signature)

section FrameLine

variable {digits signature : Bytes} (sizeDigits : AllDigits digits)
  (signDigits : AllDigits signature)

include sizeDigits

theorem cut_frameLine :
    cut 59 (frameLine digits signature) =
      (digits, ascii "chunk-signature=" ++ signature) :=
  cut_append (sizeDigits.notMem (by decide)) _

include signDigits

theorem frameLine_unbroken :
    ∀ byte ∈ frameLine digits signature, byte ≠ 13 ∧ byte ≠ 10 := by
  have fixed : ((59 :: ascii "chunk-signature=").all fun byte =>
      byte != 13 && byte != 10) = true := by decide
  have digit : ∀ text, AllDigits text → ∀ byte ∈ text,
      byte ≠ 13 ∧ byte ≠ 10 := by
    intro text all byte member
    constructor <;> rintro rfl
    · exact all.notMem (by decide) member
    · exact all.notMem (by decide) member
  intro byte member
  rw [frameLine, ← List.cons_append] at member
  rcases List.mem_append.mp member with inSize | member
  · exact digit digits sizeDigits byte inSize
  · rcases List.mem_append.mp member with named | inSignature
    · simpa using List.all_eq_true.mp fixed byte named
    · exact digit signature signDigits byte inSignature

theorem chunkSignature_frameLine :
    chunkSignature true (frameLine digits signature) = some signature := by
  have named : (59 : UInt8) ∈ frameLine digits signature := by
    simp [frameLine]
  have behind : textBehind (ascii "chunk-signature=")
      (ascii "chunk-signature=" ++ signature) = some signature :=
    textBehind_append 99 (ascii "hunk-signature=") signature
  rw [chunkSignature, if_pos named, cut_frameLine sizeDigits, behind]
  simp only
  rw [cut_of_notMem (signDigits.notMem (by decide)),
    trimSpace_of_allDigits signDigits]

end FrameLine

section

variable (platform : Platform) (codecs : Codecs)
  (signed : setup.signed = true)

include signed

omit signed in
theorem readHeader_signedFrame
    (setup : ChunkSetup) (prevSig data tail : Bytes)
    (small : data.length < 2 ^ 63) :
    readHeader true (signedFrame platform setup prevSig data ++ tail) =
      some (data.length,
        chunkSig platform setup prevSig (platform.sha256 data),
        data ++ (if data.length = 0 then [] else [13, 10]) ++ tail) := by
  have sizeDigits := allDigits_hexDigits (data.length + 1) data.length
  have signDigits : AllDigits
      (chunkSig platform setup prevSig (platform.sha256 data)) :=
    allDigits_hexText _
  have shape : signedFrame platform setup prevSig data ++ tail =
      frameLine (hexDigits (data.length + 1) data.length)
          (chunkSig platform setup prevSig (platform.sha256 data)) ++
        13 :: 10 ::
          (data ++ (if data.length = 0 then [] else [13, 10]) ++ tail) := by
    simp [signedFrame, frameLine]
  rw [shape, readHeader,
    readLine_append (frameLine_unbroken sizeDigits signDigits)]
  simp only [Option.bind_eq_bind, Option.bind_some, Option.pure_def,
    chunkSignature_frameLine sizeDigits signDigits,
    cut_frameLine sizeDigits, parseSize_hexDigits small]

theorem frame_signedFrame
    (prevSig data tail : Bytes) (small : data.length < 2 ^ 63) :
    Frame platform setup prevSig
      (signedFrame platform setup prevSig data ++ tail) data tail := by
  refine ⟨_, ?_, fun _ => decide_eq_true rfl⟩
  rw [signed]
  exact readHeader_signedFrame platform setup prevSig data tail small

theorem readChunks_signedFrame
    (fuel : Nat) (prevSig seen : Bytes)
    (small : data.length ≤ maxChunkSize) (tail : Bytes) :
    readChunks platform codecs setup (fuel + 1) prevSig seen
        (signedFrame platform setup prevSig data ++ tail) =
      if data.length = 0 then
        ([], finishTrain platform codecs setup
          (chunkSig platform setup prevSig (platform.sha256 data)) seen tail)
      else
        (data :: (readChunks platform codecs setup fuel
            (chunkSig platform setup prevSig (platform.sha256 data))
            (seen ++ data) tail).1,
          (readChunks platform codecs setup fuel
            (chunkSig platform setup prevSig (platform.sha256 data))
            (seen ++ data) tail).2) := by
  have header := readHeader_signedFrame platform setup prevSig data tail
    (Nat.lt_of_le_of_lt small (by decide))
  have taken : takeChunk data.length
      (data ++ (if data.length = 0 then [] else [13, 10]) ++ tail) =
      some (data, tail) := by
    rw [takeChunk]
    split_ifs with empty short
    · rw [List.eq_nil_of_length_eq_zero empty]
      rfl
    · simp only [List.length_append] at short
      omega
    · rw [List.append_assoc, List.drop_left, List.take_left]
      rfl
  have same : equalFold
      (chunkSig platform setup prevSig (platform.sha256 data))
      (chunkSig platform setup prevSig (platform.sha256 data)) = true :=
    decide_eq_true rfl
  rw [readChunks, signed, header]
  simp only [Nat.not_lt.mpr small, if_false, taken, same, Bool.true_eq_false,
    and_false, if_true]

theorem readChunks_encodeSignedChunks
    (plain : setup.trailers = false)
    {payload : Bytes} (small : payload.length ≤ maxChunkSize)
    (announced : ∀ want, setup.want = some want → want = payload.length)
    (fuel : Nat) (seed : Bytes) :
    (readChunks platform codecs setup (fuel + 2) seed []
        (encodeSignedChunks platform setup seed payload)).1.flatten =
      payload ∧
    (readChunks platform codecs setup (fuel + 2) seed []
        (encodeSignedChunks platform setup seed payload)).2 = none := by
  have ended : ∀ last rest, finishTrain platform codecs setup last payload
      rest = none := by
    intro last rest
    simp only [finishTrain, plain]
    cases want : setup.want with
    | none => rfl
    | some length => simp [announced length want]
  have last : ([] : Bytes).length ≤ maxChunkSize := Nat.zero_le _
  unfold encodeSignedChunks
  rw [readChunks_signedFrame platform codecs signed _ seed [] small]
  split_ifs with empty
  · have none := List.eq_nil_of_length_eq_zero empty
    rw [none] at ended ⊢
    exact ⟨rfl, ended _ _⟩
  · have final := readChunks_signedFrame platform codecs signed fuel
      (chunkSig platform setup seed (platform.sha256 payload)) ([] ++ payload)
      last []
    rw [List.append_nil] at final
    rw [final]
    simp [ended]

end

theorem seedFromRequest_seed
    {amzDate scope region dateStamp : Bytes}
    (seeded : seedFromRequest request =
      some (seed, amzDate, scope, region, dateStamp)) :
    seed = (headerPresented request).signature := by
  unfold seedFromRequest at seeded
  split_ifs at seeded
  dsimp only at seeded
  split at seeded
  · split_ifs at seeded
    exact (Prod.mk.inj (Option.some.inj seeded)).1.symm
  · cases seeded

/--
Reads of any positive sizes deliver what `EncodeSignedChunks` framed and then
the end.  And whatever the body and the mode: reads deliver the source that
`UnwrapAWSChunked` hands on; if they end well, the bytes that they delivered
are the chunks of a train in order, of the announced length, with signatures
that continue from that of the request; and the checksums that the body
carries are theirs, if the request announces trailers or the body carries
none.
-/
theorem chunked_decoding_exact
    (platform : Platform) (codecs : Codecs) (request : HTTPRequest)
    (secret : Bytes) (mode : StreamingMode)
    (streaming : streamingMode request = some mode) (setup : ChunkSetup)
    (seed : Bytes)
    (made : chunkSetupOf request secret mode = .ok (setup, seed)) :
    (∀ payload sizes,
      payload.length ≤ maxChunkSize → mode = .streamingSigned →
      request.headerGet trailerName = [] →
      (∀ want, setup.want = some want → want = payload.length) →
      (∀ size ∈ sizes, 0 < size) → payload.length < sizes.length →
      readBody platform codecs setup seed
        (encodeSignedChunks platform setup seed payload) sizes =
          some (payload, .eof)) ∧
    (∀ body contentLength sizes output err, (∀ size ∈ sizes, 0 < size) →
      readBody platform codecs setup seed body.content sizes =
        some (output, err) →
      ∃ source size, unwrapAWSChunked platform codecs request secret body
          contentLength = .ok (source, size) ∧
        source.content = output ∧ source.ending = err) ∧
    (mode.signed = true → seed = (headerPresented request).signature) ∧
    ∀ body sizes output, (∀ size ∈ sizes, 0 < size) →
      readBody platform codecs setup seed body sizes = some (output, .eof) →
      ∃ chunks last rest, Train platform setup seed body chunks last rest ∧
        output = chunks.flatten ∧
        EndsWell platform codecs setup last output rest := by
  refine ⟨?_, ?_, ?_, ?_⟩
  · intro payload sizes small plain unnamed announced positive enough
    subst plain
    have signed : setup.signed = true ∧ setup.trailers = false := by
      rcases chunkSetupOf_ok made with
        ⟨_, _, _, _, _, _, _, _, rfl⟩ | ⟨unsigned, _⟩
      · exact ⟨rfl, by simp [announcesTrailers, unnamed]⟩
      · cases unsigned
    have long : 2 ≤ (encodeSignedChunks platform setup seed payload).length :=
      by simp [encodeSignedChunks, signedFrame]; omega
    have pulled := pull_nextChunk platform codecs setup _ seed []
      (encodeSignedChunks platform setup seed payload) (Nat.le_refl _)
    rcases Nat.exists_eq_add_of_le' long with ⟨fuel, size⟩
    rw [size] at pulled
    rcases readChunks_encodeSignedChunks platform codecs signed.1 signed.2
      small announced fuel seed with ⟨content, ending⟩
    rw [content, ending] at pulled
    exact Refill.readAlong_of_pull positive pulled [] enough
  · intro body contentLength sizes output err positive read
    rcases readBody_eq platform codecs setup seed body.content positive read
      with ⟨rfl, rfl⟩
    exact ⟨_, _, unwrapAWSChunked_streaming platform codecs setup streaming
      secret body contentLength made, rfl, rfl⟩
  · intro signed
    rcases chunkSetupOf_ok made with
      ⟨_, _, _, _, _, _, _, seeded, _⟩ | ⟨unsigned, _⟩
    · exact seedFromRequest_seed seeded
    · rw [signed] at unsigned
      cases unsigned
  · intro body sizes output positive read
    rcases readBody_eq platform codecs setup seed body positive read with
      ⟨rfl, ending⟩
    have ended : (readChunks platform codecs setup body.length seed []
        body).2 = none := by
      cases found : (readChunks platform codecs setup body.length seed []
          body).2 with
      | none => rfl
      | some err =>
        rw [found] at ending
        cases ending
    rcases train_of_readChunks platform codecs body.length seed [] body
      ended with ⟨last, rest, train, done⟩
    exact ⟨_, last, rest, train, rfl, endsWell_of_finishTrain done⟩

/-! ### A trailer that nobody reads -/

/-- A put in signed chunks that announces no trailers. -/
def chunkedPut : HTTPRequest where
  method := putMethod
  url := keyURL
  host := storeHost
  header :=
    ((Table.empty.put contentSha256Name
        ⟨⟨StreamingMode.streamingSigned.text, by decide +kernel⟩, []⟩).put
      amzDateName ⟨dateLine, []⟩).put
      authorizationName
        ⟨⟨authScheme ++ ascii "Credential=alice/d/us/s3/aws4_request" ++
          ascii ",SignedHeaders=host,Signature=5eed", by decide +kernel⟩, []⟩

def chunkedSetup : ChunkSetup where
  signed := true
  trailers := false
  secret := ascii "secret"
  amzDate := ascii "20260101T000000Z"
  scope := ascii "d/us/s3/aws4_request"
  region := ascii "us"
  dateStamp := ascii "d"
  want := none

theorem chunkedPut_setup :
    streamingMode chunkedPut = some .streamingSigned ∧
    chunkSetupOf chunkedPut (ascii "secret") .streamingSigned =
      .ok (chunkedSetup, ascii "5eed") := by
  decide +kernel

/-- Checksums that are the data, and a decoder that decodes nothing. -/
def plainCodecs : Codecs := ⟨fun _ data => data, some⟩

theorem chunked_put_decodes :
    readBody plainPlatform plainCodecs chunkedSetup (ascii "5eed")
      (encodeSignedChunks plainPlatform chunkedSetup (ascii "5eed") [97, 98])
      [1, 5, 1] = some ([97, 98], .eof) :=
  (chunked_decoding_exact plainPlatform plainCodecs chunkedPut
    (ascii "secret") .streamingSigned chunkedPut_setup.1 chunkedSetup
    (ascii "5eed") chunkedPut_setup.2).1 [97, 98] [1, 5, 1] (by decide) rfl
    (by decide +kernel) (by decide) (by decide) (by decide)

def wrongTrailer : Bytes := ascii "x-amz-checksum-sha256:AAAA"

/-- What follows the chunk, and then a trailer with a wrong checksum. -/
def trailedEnd : Bytes :=
  signedFrame plainPlatform chunkedSetup (chunkSig plainPlatform chunkedSetup
    (ascii "5eed") [97]) [] ++ (wrongTrailer ++ [13, 10, 13, 10])

def trailedBody : Bytes :=
  signedFrame plainPlatform chunkedSetup (ascii "5eed") [97] ++ trailedEnd

/-- The body ends well, although the checksum that it carries is wrong. -/
theorem carried_checksum_unread :
    streamingMode chunkedPut = some .streamingSigned ∧
    chunkSetupOf chunkedPut (ascii "secret") .streamingSigned =
      .ok (chunkedSetup, ascii "5eed") ∧
    readBody plainPlatform plainCodecs chunkedSetup (ascii "5eed")
      trailedBody [4, 4] = some ([97], .eof) ∧
    ∃ last rest,
      Train plainPlatform chunkedSetup (ascii "5eed") trailedBody [[97]] last
        rest ∧
      wrongTrailer ∈ trailerLines rest.length rest ∧
      ¬ChecksumHolds plainCodecs [97] wrongTrailer := by
  have signed : chunkedSetup.signed = true := rfl
  have first := frame_signedFrame plainPlatform signed (ascii "5eed") [97]
    trailedEnd (by decide)
  have second := frame_signedFrame plainPlatform signed
    (chunkSig plainPlatform chunkedSetup (ascii "5eed") [97]) []
    (wrongTrailer ++ [13, 10, 13, 10]) (by decide)
  refine ⟨chunkedPut_setup.1, chunkedPut_setup.2, by decide +kernel, _, _,
    .chunk (by decide) first (.stop second), by decide +kernel, ?_⟩
  intro holds
  have matched := holds (by decide) .sha256 (by decide)
  revert matched
  decide

end DataSafe.Auth
