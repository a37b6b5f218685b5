import DataSafe.Base.ByteSource

/-!
# The bytes of a copy

`copyBytes` reads the body of a source version and writes it to the target:
a version that fits into one part by one put, a longer one by an upload whose
parts are cut from the body.  Neither way compares the number of bytes with
the size of the version.  The put takes any body that ends with an end of
file, and the loop over the parts takes an unexpected end of file for the end
of its last part.

The target is an arbitrary function from requests and attempts to what becomes
of them.  A request that the target carries out is received, also when its
answer is lost and `call` repeats it.
-/

namespace DataSafe.Migrate

open Base

/-! ## Requests to the target -/

/-- The requests of one copy, all for the same object. -/
inductive TargetRequest where
  | put (body : Bytes)
  | initiate
  | uploadPart (uploadID : String) (number : Nat) (data : Bytes)
  | complete (uploadID : String) (parts : List (Nat × String))
deriving DecidableEq

/-- The requests that make the target store an object. -/
def TargetRequest.stores : TargetRequest → Bool
  | .put _ => true
  | .complete _ _ => true
  | _ => false

/-- What becomes of one attempt at a request. -/
inductive Attempt where
  /-- The context is done. -/
  | cancelled
  /-- No answer comes; the target may have carried the request out. -/
  | lost (carriedOut : Bool)
  /-- The server is not the leader of its cluster. -/
  | notLeader
  /-- Any other answer that the service is unavailable. -/
  | unavailable
  /-- An answer from 300 on. -/
  | refused (carriedOut : Bool)
  /-- A success, with the upload id, the ETag or the version id. -/
  | answered (text : String)

abbrev Target := TargetRequest → Nat → Attempt

def received (carriedOut : Bool) (request : TargetRequest) :
    List TargetRequest :=
  if carriedOut then [request] else []

def attempts : Nat := 6

/-- The attempts of `call`, with what the target has received. -/
def callFrom (target : Target) (request : TargetRequest) :
    Nat → Nat → List TargetRequest × Option String
  | 0, _ => ([], none)
  | left + 1, attempt =>
    match target request attempt with
    | .cancelled => ([], none)
    | .lost carriedOut =>
      let rest := callFrom target request left (attempt + 1)
      (received carriedOut request ++ rest.1, rest.2)
    | .notLeader => callFrom target request left (attempt + 1)
    | .unavailable => ([], none)
    | .refused carriedOut => (received carriedOut request, none)
    | .answered text => ([request], some text)

/-- `call`, which repeats the same payload. -/
def call (target : Target) (request : TargetRequest) :
    List TargetRequest × Option String :=
  callFrom target request attempts 0

/-! ## The copy -/

def defaultPartSize : Nat := 8 * 2 ^ 20

/-- The part size that the options set. -/
def partSizeOf (option : Int) : Nat :=
  if option < 1 then defaultPartSize else option.toNat

theorem partSizeOf_pos (option : Int) : 0 < partSizeOf option := by
  unfold partSizeOf
  split_ifs with small
  · decide
  · omega

/-- What the target has received, and the version id unless the copy fails. -/
structure CopyResult where
  requests : List TargetRequest
  reply : Option String
deriving DecidableEq

/-- `io.ReadAll` and one put. -/
def putWhole (target : Target) (body : Source) : CopyResult :=
  if body.ending ≠ .eof then ⟨[], none⟩
  else
    let (requests, reply) := call target (.put body.content)
    ⟨requests, reply⟩

/-- One turn of the loop uploads what it has read, unless that is nothing. -/
def uploadRead (target : Target) (uploadID : String) (number : Nat)
    (data : Bytes) : List TargetRequest × Option (List (Nat × String)) :=
  if data = [] then ([], some [])
  else
    match call target (.uploadPart uploadID number data) with
    | (sent, none) => (sent, none)
    | (sent, some etag) => (sent, some [(number, etag)])

/--
The loop of `multipart`: it fills a part, uploads what it has and goes on
until the body ends.
-/
def partLoop (target : Target) (uploadID : String) (partSize : Nat) :
    Nat → Nat → Source → List TargetRequest × Option (List (Nat × String))
  | 0, _, _ => ([], none)
  | fuel + 1, number, body =>
    let read := body.readFull partSize
    match uploadRead target uploadID number read.data with
    | (sent, none) => (sent, none)
    | (sent, some parts) =>
      match read.err with
      | some .eof => (sent, some parts)
      | some .unexpectedEOF => (sent, some parts)
      | some (.other _) => (sent, none)
      | none =>
        let later := partLoop target uploadID partSize fuel
          (number + 1) read.rest
        (sent ++ later.1, later.2.map (fun rest => parts ++ rest))

/-- `multipart` -/
def multipart (target : Target) (partSize : Nat) (body : Source) :
    CopyResult :=
  match call target .initiate with
  | (initiated, none) => ⟨initiated, none⟩
  | (initiated, some uploadID) =>
    -- An answer that cannot be decoded names no upload.
    if uploadID = "" then ⟨initiated, none⟩
    else
      match partLoop target uploadID partSize (body.content.length + 1) 1
          body with
      | (sent, none) => ⟨initiated ++ sent, none⟩
      | (sent, some parts) =>
        let (completed, reply) := call target (.complete uploadID parts)
        ⟨initiated ++ sent ++ completed, reply⟩

/-- `copyBytes` once the source has answered with a body. -/
def copyBytes (target : Target) (option : Int) (size : Nat)
    (body : Source) : CopyResult :=
  if partSizeOf option < size then multipart target (partSizeOf option) body
  else putWhole target body

/-! ## What the target stores -/

def partData (uploadID : String) (number : Nat) :
    TargetRequest → Option Bytes
  | .uploadPart otherID otherNumber data =>
    if otherID = uploadID ∧ otherNumber = number then some data else none
  | _ => none

/-- The bytes of a part that the target has received last. -/
def lastPart (requests : List TargetRequest) (uploadID : String)
    (number : Nat) : Option Bytes :=
  (requests.filterMap (partData uploadID number)).getLast?

/-- What some listed parts make together. -/
def assembled (requests : List TargetRequest) (uploadID : String)
    (parts : List (Nat × String)) : Bytes :=
  parts.flatMap (fun part => (lastPart requests uploadID part.1).getD [])

/--
The request stores these bytes: it is a put of them, or it completes an upload
of them in parts that are numbered from one.
-/
def StoresBytes (requests : List TargetRequest) (content : Bytes) :
    TargetRequest → Prop
  | .put body => body = content
  | .complete uploadID parts =>
    parts.map Prod.fst = List.range' 1 parts.length ∧
      assembled requests uploadID parts = content
  | _ => False

/-! ## Calls -/

variable {sent : List TargetRequest} {body : Source} {number size : Nat}
  {data : Bytes} {parts : List (Nat × String)} {version : String}
  {option : Int}

section Call

variable {target : Target} {request : TargetRequest}

theorem callFrom_spec (left attempt : Nat) :
    (∀ other ∈ (callFrom target request left attempt).1, other = request) ∧
      ((callFrom target request left attempt).2.isSome →
        request ∈ (callFrom target request left attempt).1) := by
  induction left generalizing attempt with
  | zero => simp [callFrom]
  | succ left induction =>
    have rest := induction (attempt + 1)
    unfold callFrom
    cases target request attempt with
    | cancelled => simp
    | lost carriedOut =>
      cases carriedOut with
      | false => simpa [received] using rest
      | true =>
        refine ⟨?_, fun _ => by simp [received]⟩
        intro other member
        rcases List.mem_append.mp member with once | again
        · simpa [received] using once
        · exact rest.1 other again
    | notLeader => exact rest
    | unavailable => simp
    | refused carriedOut => cases carriedOut <;> simp [received]
    | answered text => simp

/-- The target receives nothing but the request. -/
theorem mem_call {other : TargetRequest}
    (member : other ∈ (call target request).1) : other = request :=
  (callFrom_spec attempts 0).1 other member

/-- A request that is answered has been received. -/
theorem call_received {text : String}
    (done : call target request = (sent, some text)) : request ∈ sent := by
  have taken : request ∈ (call target request).1 :=
    (callFrom_spec attempts 0).2 (by
      rw [show callFrom target request attempts 0 = _ from done]
      rfl)
  rwa [done] at taken

end Call

/-! ## The loop over the parts -/

section Loop

variable {target : Target} {uploadID : String} {partSize : Nat}

/-- The errors that the loop takes for the end of the body. -/
def Ends (err : ReadErr) : Prop :=
  err = .eof ∨ err = .unexpectedEOF

theorem not_ends_iff {err : ReadErr} :
    ¬ Ends err ↔ ∃ reason, err = .other reason := by
  cases err <;> simp [Ends]

/-- A turn that can fill its part. -/
theorem partLoop_enough
    (target : Target) (uploadID : String) (fuel number : Nat)
    (enough : partSize ≤ body.content.length) :
    ∃ rest : Source, rest.content = body.content.drop partSize ∧
        rest.ending = body.ending ∧
        partLoop target uploadID partSize (fuel + 1) number body =
          match uploadRead target uploadID number
              (body.content.take partSize) with
          | (sent, none) => (sent, none)
          | (sent, some parts) =>
            (sent ++ (partLoop target uploadID partSize fuel (number + 1)
                rest).1,
              (partLoop target uploadID partSize fuel (number + 1)
                rest).2.map (fun later => parts ++ later)) := by
  obtain ⟨data, err, rest, ending⟩ :=
    Source.readFull_enough partSize body enough
  refine ⟨_, rest, ending, ?_⟩
  simp only [partLoop, data, err]

/-- The turn that comes to the end of the body. -/
theorem partLoop_short
    (fuel number : Nat) (short : body.content.length < partSize) :
    partLoop target uploadID partSize (fuel + 1) number body =
      match uploadRead target uploadID number body.content, body.ending with
      | (sent, none), _ => (sent, none)
      | (sent, some _), .other _ => (sent, none)
      | (sent, some parts), _ => (sent, some parts) := by
  obtain ⟨data, err, -⟩ := Source.readFull_short partSize body short
  simp only [partLoop, data, err]
  generalize uploadRead target uploadID number body.content = turn
  obtain ⟨sent, uploaded⟩ := turn
  cases uploaded with
  | none => rfl
  | some parts =>
    cases ending : body.ending with
    | eof => by_cases empty : body.content = [] <;> simp [empty]
    | unexpectedEOF => simp
    | other reason => simp

/-- The requests upload parts of this upload, from `number` on. -/
def UploadsFrom (uploadID : String) (number : Nat)
    (requests : List TargetRequest) : Prop :=
  ∀ request ∈ requests,
    ∃ later data, number ≤ later ∧ request = .uploadPart uploadID later data

variable {later : List TargetRequest} {requests : List TargetRequest}

theorem UploadsFrom.append
    (first : UploadsFrom uploadID number sent)
    (rest : UploadsFrom uploadID (number + 1) later) :
    UploadsFrom uploadID number (sent ++ later) := by
  intro request member
  rcases List.mem_append.mp member with now | after
  · exact first request now
  · obtain ⟨other, data, above, same⟩ := rest request after
    exact ⟨other, data, by omega, same⟩

theorem UploadsFrom.stores
    (uploads : UploadsFrom uploadID number requests) :
    ∀ request ∈ requests, request.stores = false := by
  intro request member
  obtain ⟨later, data, -, rfl⟩ := uploads request member
  rfl

theorem mem_uploadRead
    {request : TargetRequest}
    (member : request ∈ (uploadRead target uploadID number data).1) :
    request = .uploadPart uploadID number data := by
  unfold uploadRead at member
  split at member
  · simp at member
  · split at member <;> rename_i called <;>
      exact mem_call (by rw [called]; exact member)

theorem partLoop_uploads (target : Target) (uploadID : String)
    (partSize fuel number : Nat) (body : Source) :
    UploadsFrom uploadID number
      (partLoop target uploadID partSize fuel number body).1 := by
  induction fuel generalizing number body with
  | zero => simp [partLoop, UploadsFrom]
  | succ fuel induction =>
    have first : UploadsFrom uploadID number
        (uploadRead target uploadID number
          (body.readFull partSize).data).1 :=
      fun request member =>
        ⟨number, _, Nat.le_refl number, mem_uploadRead member⟩
    unfold partLoop
    dsimp only
    generalize uploadRead target uploadID number
      (body.readFull partSize).data = turn at first ⊢
    obtain ⟨sent, uploaded⟩ := turn
    cases uploaded with
    | none => exact first
    | some parts =>
      dsimp only
      split
      · exact first
      · exact first
      · exact first
      · exact first.append (induction (number + 1) _)

/-! ## The parts together -/

theorem filterMap_partData_of_uploadsFrom {other : Nat}
    (uploads : UploadsFrom uploadID number requests)
    (below : other < number) :
    requests.filterMap (partData uploadID other) = [] := by
  rw [List.filterMap_eq_nil_iff]
  intro request member
  obtain ⟨later, data, above, rfl⟩ := uploads request member
  simp [partData]
  omega

/-- A part that was uploaded is held by the target. -/
theorem lastPart_call
    {etag : String}
    (done : call target (.uploadPart uploadID number data) =
      (sent, some etag)) :
    lastPart sent uploadID number = some data := by
  have same : ∀ request ∈ sent,
      request = .uploadPart uploadID number data := by
    intro request member
    have received : request ∈
        (call target (.uploadPart uploadID number data)).1 := by
      rwa [done]
    exact mem_call received
  have taken : sent ≠ [] := List.ne_nil_of_mem (call_received done)
  have repeated : sent =
      List.replicate sent.length (.uploadPart uploadID number data) :=
    List.eq_replicate_of_mem same
  have positive : sent.length ≠ 0 := by simpa using taken
  rw [lastPart, repeated]
  simp [partData, List.getLast?_replicate, positive]

/-- The parts of a loop are numbered in order and make up the body. -/
structure Uploaded (uploadID : String) (number : Nat) (content : Bytes)
    (sent : List TargetRequest) (parts : List (Nat × String)) : Prop where
  numbered : parts.map Prod.fst = List.range' number parts.length
  whole : assembled sent uploadID parts = content

theorem Uploaded.of_uploadRead
    (done : uploadRead target uploadID number data = (sent, some parts)) :
    Uploaded uploadID number data sent parts := by
  unfold uploadRead at done
  split at done
  · rename_i empty
    cases done
    exact ⟨rfl, by simp [assembled, empty]⟩
  · split at done
    · cases done
    · rename_i called
      cases done
      exact ⟨rfl, by simp [assembled, lastPart_call called]⟩

/-- Later parts go behind a first one. -/
theorem Uploaded.append {content : Bytes} {rest : List (Nat × String)}
    (done : uploadRead target uploadID number data = (sent, some parts))
    (nonempty : data ≠ []) (uploads : UploadsFrom uploadID (number + 1) later)
    (tail : Uploaded uploadID (number + 1) content later rest) :
    Uploaded uploadID number (data ++ content) (sent ++ later)
      (parts ++ rest) := by
  have head := Uploaded.of_uploadRead done
  obtain ⟨etag, rfl⟩ : ∃ etag, parts = [(number, etag)] := by
    rw [uploadRead, if_neg nonempty] at done
    split at done <;> cases done
    exact ⟨_, rfl⟩
  have own : ∀ request ∈ sent,
      request = .uploadPart uploadID number data := by
    intro request member
    exact mem_uploadRead (by rw [done]; exact member)
  -- The part itself is not uploaded again, and it is none of the later ones.
  have here : lastPart (sent ++ later) uploadID number =
      lastPart sent uploadID number := by
    rw [lastPart, List.filterMap_append,
      filterMap_partData_of_uploadsFrom uploads (Nat.lt_succ_self number),
      List.append_nil, lastPart]
  have there : ∀ part ∈ rest, lastPart (sent ++ later) uploadID part.1 =
        lastPart later uploadID part.1 := by
    intro part member
    have above : part.1 ∈ List.range' (number + 1) rest.length := by
      rw [← tail.numbered]
      exact List.mem_map_of_mem member
    have none : sent.filterMap (partData uploadID part.1) = [] := by
      rw [List.filterMap_eq_nil_iff]
      intro request sentHere
      rw [own request sentHere]
      simp only [partData, ite_eq_right_iff]
      intro same
      rw [List.mem_range'_1] at above
      omega
    rw [lastPart, List.filterMap_append, none, List.nil_append, lastPart]
  refine ⟨?_, ?_⟩
  · simp [tail.numbered, List.range'_succ]
  · calc assembled (sent ++ later) uploadID ((number, etag) :: rest)
        = (lastPart (sent ++ later) uploadID number).getD [] ++
            rest.flatMap (fun part =>
              (lastPart (sent ++ later) uploadID part.1).getD []) := rfl
      _ = (lastPart sent uploadID number).getD [] ++
            rest.flatMap (fun part =>
              (lastPart later uploadID part.1).getD []) := by
          rw [here]
          congr 1
          exact List.flatMap_congr fun part member => by
            rw [there part member]
      _ = data ++ content := by
          have first : (lastPart sent uploadID number).getD [] = data := by
            simpa [assembled] using head.whole
          rw [first]
          exact congrArg (data ++ ·) tail.whole

/-- A loop that succeeds has come to the end of the body. -/
theorem partLoop_done (positive : 0 < partSize) {fuel : Nat}
    (done : partLoop target uploadID partSize fuel number body = (sent, some
      parts)) :
    Ends body.ending ∧ Uploaded uploadID number body.content sent parts := by
  induction fuel generalizing number body sent parts with
  | zero => cases done
  | succ fuel induction =>
    by_cases enough : partSize ≤ body.content.length
    · obtain ⟨rest, restContent, sameEnding, turn⟩ :=
        partLoop_enough target uploadID fuel number enough
      rw [turn] at done
      split at done
      · cases done
      · rename_i first firstParts uploaded
        obtain ⟨rfl, found⟩ := Prod.mk.inj done
        obtain ⟨later, laterDone, rfl⟩ := Option.map_eq_some_iff.mp found
        have tail := induction (Prod.ext rfl laterDone)
        have nonempty : body.content.take partSize ≠ [] := by
          rw [← List.length_pos_iff, List.length_take]
          omega
        refine ⟨sameEnding ▸ tail.1, ?_⟩
        have joined := Uploaded.append uploaded nonempty
          (partLoop_uploads _ _ _ fuel (number + 1) rest) tail.2
        rwa [restContent, List.take_append_drop] at joined
    · rw [partLoop_short fuel number (Nat.lt_of_not_le enough)] at done
      split at done
      · cases done
      · cases done
      · rename_i uploaded notOther
        cases done
        refine ⟨?_, Uploaded.of_uploadRead uploaded⟩
        by_contra failing
        obtain ⟨reason, ending⟩ := not_ends_iff.mp failing
        exact notOther reason ending

end Loop

/-! ## Truncated bodies -/

/--
The copy of a version is whole: a body with too few bytes makes it fail and
store nothing, and after a success the target has stored the bytes of the
body and nothing else, and they are as many as the version has.
-/
structure CopiesWhole (size : Nat) (content : Bytes)
    (result : CopyResult) : Prop where
  short : content.length < size → result.reply = none ∧
      ∀ request ∈ result.requests, request.stores = false
  whole : ∀ version, result.reply = some version → content.length = size ∧
      (∃ request ∈ result.requests, request.stores) ∧
      ∀ request ∈ result.requests, request.stores →
        StoresBytes result.requests content request

/-- A copy that fails before it stores anything is whole. -/
theorem CopiesWhole.of_failed {content : Bytes}
    {result : CopyResult} (failed : result.reply = none)
    (nothing : ∀ request ∈ result.requests, request.stores = false) :
    CopiesWhole size content result :=
  ⟨fun _ => ⟨failed, nothing⟩, fun version done => by
    rw [failed] at done
    cases done⟩

/-- A success stores the body, whatever the version's size is. -/
structure StoresBody (body : Source) (result : CopyResult) : Prop where
  stored : ∃ request ∈ result.requests, request.stores
  bytes : ∀ request ∈ result.requests, request.stores →
    StoresBytes result.requests body.content request

section Copies

variable {target : Target} {body : Source}

theorem putWhole_of_ending (failing : body.ending ≠ .eof) :
    putWhole target body = ⟨[], none⟩ := by
  rw [putWhole, if_pos failing]

theorem putWhole_stores
    (done : (putWhole target body).reply = some version) :
    StoresBody body (putWhole target body) := by
  unfold putWhole at done ⊢
  split at done
  · cases done
  · rename_i clean
    rw [if_neg clean]
    refine ⟨⟨.put body.content, ?_, rfl⟩, ?_⟩
    · exact call_received (Prod.ext rfl done)
    · intro request member _
      rw [mem_call member]
      rfl

/-- The requests before the completion leave the parts as they are. -/
theorem assembled_of_between {uploadID : String}
    {before after : List TargetRequest}
    (initiated : ∀ request ∈ before, request = .initiate)
    (completed : ∀ request ∈ after, request = .complete uploadID parts) :
    assembled (before ++ sent ++ after) uploadID parts =
      assembled sent uploadID parts := by
  have first : ∀ number, before.filterMap (partData uploadID number) = [] := by
    intro number
    rw [List.filterMap_eq_nil_iff]
    intro request member
    rw [initiated request member]
    rfl
  have last : ∀ number, after.filterMap (partData uploadID number) = [] := by
    intro number
    rw [List.filterMap_eq_nil_iff]
    intro request member
    rw [completed request member]
    rfl
  simp only [assembled, lastPart, List.filterMap_append, first, last,
    List.nil_append, List.append_nil]

theorem stores_of_initiated {request : TargetRequest}
    (member : request ∈ (call target .initiate).1) :
    request.stores = false := by
  rw [mem_call member]
  rfl

variable {partSize : Nat}

/-- An upload whose body fails is not completed. -/
theorem multipart_of_failing (positive : 0 < partSize)
    (failing : ¬ Ends body.ending) :
    (multipart target partSize body).reply = none ∧
      ∀ request ∈ (multipart target partSize body).requests,
        request.stores = false := by
  unfold multipart
  split
  · rename_i initiated started
    refine ⟨rfl, fun request member => ?_⟩
    exact stores_of_initiated (by rw [started]; exact member)
  · rename_i initiated uploadID started
    have quiet : ∀ request ∈ initiated, request.stores = false :=
      fun request member =>
        stores_of_initiated (by rw [started]; exact member)
    split
    · exact ⟨rfl, quiet⟩
    · split
      · rename_i sent looped
        refine ⟨rfl, fun request member => ?_⟩
        rcases List.mem_append.mp member with first | later
        · exact quiet request first
        · have uploads := partLoop_uploads target uploadID partSize
            (body.content.length + 1) 1 body
          rw [looped] at uploads
          exact uploads.stores request later
      · rename_i looped
        exact absurd (partLoop_done positive looped).1 failing

theorem multipart_stores (positive : 0 < partSize)
    (done : (multipart target partSize body).reply = some version) :
    StoresBody body (multipart target partSize body) := by
  unfold multipart at done ⊢
  split at done
  · cases done
  · rename_i initiated uploadID started
    split at done
    · cases done
    · rename_i named
      simp only [if_neg named]
      split at done
      · cases done
      · rename_i sent parts looped
        have quiet : ∀ request ∈ initiated, request = .initiate :=
          fun request member => mem_call (by rw [started]; exact member)
        have uploads := partLoop_uploads target uploadID partSize
          (body.content.length + 1) 1 body
        rw [looped] at uploads
        have uploaded := (partLoop_done positive looped).2
        refine ⟨⟨.complete uploadID parts, ?_, rfl⟩, ?_⟩
        · exact List.mem_append_right _ (call_received (Prod.ext rfl done))
        · intro request member stores
          rcases List.mem_append.mp member with before | completing
          · rcases List.mem_append.mp before with first | later
            · rw [quiet request first] at stores
              cases stores
            · rw [uploads.stores request later] at stores
              cases stores
          · rw [mem_call completing]
            refine ⟨uploaded.numbered, ?_⟩
            rw [assembled_of_between quiet (fun _ => mem_call)]
            exact uploaded.whole

/-- A success of either way stores the body. -/
theorem copyBytes_stores
    (done : (copyBytes target option size body).reply = some version) :
    StoresBody body (copyBytes target option size body) := by
  unfold copyBytes at done ⊢
  split at done
  · rename_i large
    rw [if_pos large]
    exact multipart_stores (partSizeOf_pos option) done
  · rename_i small
    rw [if_neg small]
    exact putWhole_stores done

/-- The endings with which a body of any length makes the copy fail. -/
def FailsCopy (option : Int) (size : Nat) (ending : ReadErr) : Prop :=
  (∃ reason, ending = .other reason) ∨
    size ≤ partSizeOf option ∧ ending = .unexpectedEOF

theorem copyBytes_of_failsCopy
    (fails : FailsCopy option size body.ending) :
    (copyBytes target option size body).reply = none ∧
      ∀ request ∈ (copyBytes target option size body).requests,
        request.stores = false := by
  unfold copyBytes
  split
  · rename_i large
    apply multipart_of_failing (partSizeOf_pos option)
    rw [not_ends_iff]
    rcases fails with failing | ⟨small, -⟩
    · exact failing
    · omega
  · have failing : body.ending ≠ .eof := by
      rcases fails with ⟨reason, ending⟩ | ⟨-, ending⟩ <;> simp [ending]
    rw [putWhole_of_ending failing]
    exact ⟨rfl, by simp⟩

end Copies

/-! ## A target that answers -/

/-- A target that carries out and answers every request at once. -/
def answering : Target :=
  fun _ _ => .answered "1"

theorem call_answering (request : TargetRequest) :
    call answering request = ([request], some "1") :=
  rfl

theorem partLoop_answering {partSize fuel : Nat}
    (positive : 0 < partSize) {uploadID : String}
    (enoughFuel : body.content.length < fuel) (ends : Ends body.ending) :
    (partLoop answering uploadID partSize fuel number body).2.isSome := by
  have turns : ∀ number data, ∃ sent parts,
        uploadRead answering uploadID number data = (sent, some parts) := by
    intro number data
    unfold uploadRead
    split
    · exact ⟨_, _, rfl⟩
    · exact ⟨_, _, rfl⟩
  induction fuel generalizing number body with
  | zero => omega
  | succ fuel induction =>
    by_cases enough : partSize ≤ body.content.length
    · obtain ⟨rest, restContent, sameEnding, turn⟩ :=
        partLoop_enough answering uploadID fuel number enough
      obtain ⟨sent, parts, uploaded⟩ :=
        turns number (body.content.take partSize)
      rw [turn, uploaded, Option.isSome_map]
      apply induction
      · rw [restContent, List.length_drop]
        omega
      · exact sameEnding ▸ ends
    · rw [partLoop_short fuel number (Nat.lt_of_not_le enough)]
      obtain ⟨sent, parts, uploaded⟩ := turns number body.content
      rw [uploaded]
      rcases ends with ending | ending <;> rw [ending] <;> rfl

/-- Every body that does not make the copy fail is stored. -/
theorem copyBytes_answering
    (passes : ¬ FailsCopy option size body.ending) :
    ∃ version, (copyBytes answering option size body).reply =
      some version := by
  have ends : Ends body.ending := by
    by_contra failing
    exact passes (.inl (not_ends_iff.mp failing))
  unfold copyBytes
  split
  · have looped : (partLoop answering "1" (partSizeOf option)
        (body.content.length + 1) 1 body).2.isSome :=
      partLoop_answering (partSizeOf_pos option) (Nat.lt_succ_self _) ends
    obtain ⟨parts, looped⟩ := Option.isSome_iff_exists.mp looped
    refine ⟨"1", ?_⟩
    rw [multipart, call_answering]
    simp only
    rw [show partLoop answering "1" (partSizeOf option)
        (body.content.length + 1) 1 body = (_, some parts) from
      Prod.ext rfl looped]
    rfl
  · rename_i small
    have clean : body.ending = .eof := by
      rcases ends with clean | cut
      · exact clean
      · exact absurd (.inr ⟨Nat.le_of_not_lt small, cut⟩) passes
    refine ⟨"1", ?_⟩
    rw [putWhole, if_neg (not_not.mpr clean), call_answering]

/--
A copy is whole against every target exactly when the body has as many bytes
as the version, or ends in a way that the copy does not take for its end.
-/
theorem copies_whole_iff (option : Int) (size : Nat) (body : Source) :
    (∀ target,
      CopiesWhole size body.content (copyBytes target option size body)) ↔
      body.content.length = size ∨ FailsCopy option size body.ending := by
  constructor
  · intro whole
    by_contra neither
    obtain ⟨otherSize, passes⟩ := not_or.mp neither
    obtain ⟨version, done⟩ := copyBytes_answering passes
    exact otherSize ((whole answering).whole version done).1
  · rintro (sameSize | fails) target
    · refine ⟨fun short => by omega, fun version done => ?_⟩
      have stores := copyBytes_stores done
      exact ⟨sameSize, stores.stored, stores.bytes⟩
    · obtain ⟨failed, nothing⟩ := copyBytes_of_failsCopy fails
      exact CopiesWhole.of_failed failed nothing

/-- One byte of three arrives, and the upload is completed with it. -/
theorem truncated_upload_completes :
    copyBytes answering 2 3 ⟨[[7]], .unexpectedEOF, false⟩ =
        ⟨[.initiate, .uploadPart "1" 1 [7], .complete "1" [(1, "1")]],
          some "1"⟩ ∧
      ¬ CopiesWhole 3 [7]
        (copyBytes answering 2 3 ⟨[[7]], .unexpectedEOF, false⟩) := by
  refine ⟨by decide, fun whole => ?_⟩
  have failed := (whole.short (by decide)).1
  revert failed
  decide

end DataSafe.Migrate
