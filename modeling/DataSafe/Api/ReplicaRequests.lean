import DataSafe.Base.Joined
import DataSafe.Base.Machine
import DataSafe.Metadata.Records

/-!
# Authentication of object replica requests

A node takes object bytes from its peers at `replicaPath`.  A peer signs the
verb, the body, an expiry, a nonce, the destination node and the object with
the secret that the nodes share.  `handleObjectReplica` checks the expiry when
a request arrives, reads the body, checks the signature over it and then asks
the memory of nonces whether the request is new.

SHA-256 and HMAC are parameters.  The values of the query are decoded texts,
which may hold line breaks; the verb and the headers cannot.  Instants are
nanoseconds, and the clock of a node does not go back.
-/

namespace DataSafe.Api

open Base Metadata

/-! ## Texts -/

/-- A text on one line, as HTTP carries verbs and headers. -/
structure LineText where
  text : String
  unbroken : '\n' ∉ text.toList
deriving DecidableEq

/-- `fromHexChar` -/
def hexValue (rune : Char) : Option Nat :=
  if '0' ≤ rune ∧ rune ≤ '9' then some (rune.toNat - 48)
  else if 'a' ≤ rune ∧ rune ≤ 'f' then some (rune.toNat - 87)
  else if 'A' ≤ rune ∧ rune ≤ 'F' then some (rune.toNat - 55)
  else none

/-- The bytes that pairs of digits stand for. -/
def decodePairs : List Char → Option Bytes
  | [] => some []
  | [_] => none
  | high :: low :: rest => do
    let high ← hexValue high
    let low ← hexValue low
    let bytes ← decodePairs rest
    return UInt8.ofNat (16 * high + low) :: bytes

/-- `hex.DecodeString` -/
def hexDecode (text : String) : Option Bytes :=
  decodePairs text.toList

theorem hexValue_hexDigit :
    ∀ digit < 16, hexValue (hexDigit digit) = some digit := by
  decide

theorem hexDecode_hexEncode (bytes : Bytes) :
    hexDecode (hexEncode bytes) = some bytes := by
  rw [hexDecode, hexEncode, String.toList_ofList]
  induction bytes with
  | nil => rfl
  | cons byte bytes induction =>
    have bound := byte.toNat_lt
    have whole : 16 * (byte.toNat / 16) + byte.toNat % 16 = byte.toNat :=
      Nat.div_add_mod byte.toNat 16
    rw [List.flatMap_cons, List.cons_append, List.cons_append,
      List.nil_append, decodePairs,
      hexValue_hexDigit _ (by omega), hexValue_hexDigit _ (by omega)]
    simp only [Option.bind_eq_bind, Option.bind_some, induction, whole,
      UInt8.ofNat_toNat, Option.pure_def]

theorem hexEncode_injective : Function.Injective hexEncode := by
  intro left right same
  have decoded := hexDecode_hexEncode left
  rw [same, hexDecode_hexEncode] at decoded
  exact (Option.some.inj decoded).symm

/-- The number that decimal digits stand for. -/
def parseDigits (digits : List Char) : Option Nat :=
  if digits = [] ∨ digits.all Char.isDigit = false then none
  else some (digits.foldl (fun number rune =>
    10 * number + (rune.toNat - 48)) 0)

/-- `strconv.ParseInt(text, 10, 64)` -/
def parseInt64 (text : String) : Option Int :=
  match text.toList with
  | '-' :: digits => do
    let number ← parseDigits digits
    if number ≤ 2 ^ 63 then some (-number) else none
  | '+' :: digits => do
    let number ← parseDigits digits
    if number < 2 ^ 63 then some number else none
  | digits => do
    let number ← parseDigits digits
    if number < 2 ^ 63 then some number else none

/-! ## Signatures -/

/-- The functions of `crypto/sha256` and of HMAC over it. -/
structure Digests where
  sha256 : Bytes → Bytes
  hmac : String → String → Bytes

/-- No two inputs have one digest under this secret. -/
structure Digests.CollisionFree (digests : Digests) (secret : String) :
    Prop where
  sha256 : Function.Injective digests.sha256
  hmac : Function.Injective (digests.hmac secret)

def replicaPath : String := "/api/v1/ha/object-replica"

/-- `replicaTTL` -/
def replicaTTL : Time := 30 * 1000000000

/-- `emptyBodySHA` -/
def emptyBodySHA (digests : Digests) : String :=
  hexEncode (digests.sha256 [])

/-- `replicaCanon` -/
def replicaCanon (method bodyHash expiry nonce nodeID bucket key version :
    String) : String :=
  "\n".intercalate [method, replicaPath, bodyHash, expiry, nonce, nodeID,
    bucket, key, version]

/-- `replicaSign` -/
def replicaSign (digests : Digests) (secret canon : String) : String :=
  hexEncode (digests.hmac secret canon)

/-- `replicaMACOK` -/
def replicaMACOK (digests : Digests) (secret canon got : String) : Bool :=
  if secret = "" ∨ got = "" then false
  else
    match hexDecode (replicaSign digests secret canon), hexDecode got with
    | some want, some got => decide (want = got)
    | _, _ => false

/-- The code is checked over bytes, so the case of its digits is free. -/
theorem replicaMACOK_iff
    (digests : Digests) (secret canon got : String) :
    replicaMACOK digests secret canon got = true ↔ secret ≠ "" ∧ got ≠ "" ∧
        hexDecode got = some (digests.hmac secret canon) := by
  unfold replicaMACOK
  rw [replicaSign, hexDecode_hexEncode]
  split_ifs with blank
  · constructor
    · intro never
      cases never
    · rintro ⟨named, given, -⟩
      exact absurd blank (not_or.mpr ⟨named, given⟩)
  · rw [not_or] at blank
    cases decoded : hexDecode got with
    | none => simp
    | some bytes =>
      simp only [decide_eq_true_eq, Option.some.injEq]
      exact ⟨fun same => ⟨blank.1, blank.2, same.symm⟩,
        fun all => all.2.2.symm⟩

/-! ## Requests -/

/-- A request at `replicaPath` with the values that the handler reads. -/
structure ReplicaRequest where
  method : LineText
  bucket : String
  key : String
  version : String
  /-- `X-DataSafe-Replica-Expires` -/
  expires : LineText
  /-- `X-DataSafe-Replica-Node` -/
  node : LineText
  /-- `X-DataSafe-Replica-Nonce` -/
  nonce : LineText
  /-- `X-DataSafe-Replica` -/
  signature : LineText
  body : Bytes
deriving DecidableEq

variable {digests : Digests} {request : ReplicaRequest} {expUnix exp : Int}
  {now : Time} {nonce : String}

namespace ReplicaRequest

/-- The bytes that the handler reads: a body counts with PUT alone. -/
def content (request : ReplicaRequest) : Bytes :=
  if request.method.text = "PUT" then request.body else []

def bodyHash (digests : Digests) (request : ReplicaRequest) : String :=
  if request.method.text = "PUT" then hexEncode (digests.sha256 request.body)
  else emptyBodySHA digests

theorem bodyHash_eq (digests : Digests) (request : ReplicaRequest) :
    request.bodyHash digests = hexEncode (digests.sha256 request.content) := by
  unfold bodyHash content
  split_ifs <;> rfl

/-- The text that the signature of the request covers. -/
def canon (digests : Digests) (request : ReplicaRequest) : String :=
  replicaCanon request.method.text (request.bodyHash digests)
    request.expires.text request.nonce.text request.node.text request.bucket
    request.key request.version

/-- The request with the signature that a peer puts on it. -/
def sign (digests : Digests) (secret : String)
    (request : ReplicaRequest) : ReplicaRequest :=
  { request with
    signature :=
      ⟨replicaSign digests secret (request.canon digests), fun member =>
        absurd (hexEncode_ge member) (by decide)⟩ }

/-- A signed request as a peer tells it from others. -/
def identity (request : ReplicaRequest) : LineText × Option Bytes :=
  (request.nonce, hexDecode request.signature.text)

/-- The object is named without line breaks. -/
def Unbroken (request : ReplicaRequest) : Prop :=
  '\n' ∉ request.bucket.toList ∧ '\n' ∉ request.key.toList ∧
    '\n' ∉ request.version.toList

theorem bodyHash_unbroken
    (digests : Digests) (request : ReplicaRequest) :
    '\n' ∉ (request.bodyHash digests).toList := by
  rw [bodyHash_eq]
  intro member
  exact absurd (hexEncode_ge member) (by decide)

theorem canon_toList (digests : Digests) (request : ReplicaRequest) :
    (request.canon digests).toList =
      ['\n'].intercalate [request.method.text.toList, replicaPath.toList,
        (request.bodyHash digests).toList, request.expires.text.toList,
        request.nonce.text.toList, request.node.text.toList,
        request.bucket.toList, request.key.toList,
        request.version.toList] := by
  rw [canon, replicaCanon, String.toList_intercalate]
  rfl

/-- The lines before the object are told apart whatever the object is. -/
theorem expires_eq_of_canon
    {left right : ReplicaRequest}
    (same : left.canon digests = right.canon digests) :
    left.expires.text = right.expires.text := by
  have lists := congrArg String.toList same
  rw [canon_toList, canon_toList] at lists
  have afterMethod := (intercalate_cons_inj left.method.unbroken
    right.method.unbroken lists).2
  have afterPath := (intercalate_cons_inj (by decide) (by decide)
    afterMethod).2
  have afterHash := (intercalate_cons_inj (bodyHash_unbroken digests left)
    (bodyHash_unbroken digests right) afterPath).2
  exact String.toList_inj.mp (intercalate_cons_inj left.expires.unbroken
    right.expires.unbroken afterHash).1

/-- What a request whose object is named without line breaks signs. -/
structure SameSigned (request signed : ReplicaRequest) : Prop where
  method : request.method.text = signed.method.text
  content : request.content = signed.content
  bucket : request.bucket = signed.bucket
  key : request.key = signed.key
  version : request.version = signed.version

theorem sameSigned_of_canon
    {signed : ReplicaRequest}
    (sha256 : Function.Injective digests.sha256) (unbroken : signed.Unbroken)
    (same : signed.canon digests = request.canon digests) :
    request.SameSigned signed := by
  have lists := congrArg String.toList same
  rw [canon_toList, canon_toList] at lists
  have fields := intercalate_inj (by rfl) ?free lists
  case free =>
    simp only [List.mem_cons, List.not_mem_nil, or_false, forall_eq_or_imp,
      forall_eq]
    exact ⟨signed.method.unbroken, by decide,
      bodyHash_unbroken digests signed, signed.expires.unbroken,
      signed.nonce.unbroken, signed.node.unbroken, unbroken⟩
  simp only [List.cons.injEq, String.toList_inj, and_true, true_and] at fields
  obtain ⟨method, hash, -, -, -, bucket, key, version⟩ := fields
  rw [bodyHash_eq, bodyHash_eq] at hash
  exact
    { method := method.symm
      content := (sha256 (hexEncode_injective hash)).symm
      bucket := bucket.symm
      key := key.symm
      version := version.symm }

end ReplicaRequest

/-! ## Expiry and nonces -/

/--
`replicaExpiryOK`.  Where `time.Unix` wraps around, the expiry is refused as
long past instead of as far ahead.
-/
def replicaExpiryOK (expUnix : Int) (now : Time) : Bool :=
  let exp := expUnix * 1000000000
  if exp < now - 5 * 1000000000 then false
  else if now + replicaTTL < exp then false
  else true

theorem replicaExpiryOK_past
    (valid : replicaExpiryOK expUnix now = true) :
    ¬ expUnix * 1000000000 + 5 * 1000000000 < now := by
  intro past
  have earlier : expUnix * 1000000000 < now - 5 * 1000000000 := by omega
  rw [replicaExpiryOK, if_pos earlier] at valid
  cases valid

/-- `Time.Unix` -/
def unixSeconds (instant : Time) : Int :=
  instant / 1000000000

/-- `replicaNonces`: the nonces seen, with the expiry of their requests. -/
abbrev ReplicaNonces := Table String Int

variable {nonces : ReplicaNonces}

namespace ReplicaNonces

/-- Forget what has expired, once there are many nonces. -/
def prune (nonces : ReplicaNonces) (now : Int) : ReplicaNonces :=
  if 256 < nonces.entries.length then
    nonces.restrict fun nonce =>
      match nonces.get nonce with
      | some exp => ¬ exp < now
      | none => true
  else nonces

/-- `replicaNonces.accept` at the second `now` -/
def accept (nonces : ReplicaNonces) (nonce : String) (exp : Int)
    (now : Int) : Bool × ReplicaNonces :=
  if nonce = "" then (false, nonces)
  else
    let kept := nonces.prune now
    match kept.get nonce with
    | some _ => (false, kept)
    | none => (true, kept.put nonce exp)

/-- A nonce is kept, or it has expired when there are many. -/
theorem get_prune
    (now : Int) (present : nonces.get nonce = some exp) :
    (nonces.prune now).get nonce = some exp ∨
      256 < nonces.entries.length ∧ exp < now := by
  unfold prune
  split_ifs with many
  · rw [Table.get_restrict, present]
    by_cases past : exp < now
    · exact Or.inr ⟨many, past⟩
    · simp [past]
  · exact Or.inl present

/-- An accepted nonce was not kept, and it is remembered. -/
theorem accept_true
    {now : Int} (accepted : (nonces.accept nonce exp now).1 = true) :
    (nonces.prune now).get nonce = none ∧ (nonces.accept nonce exp now).2 =
        (nonces.prune now).put nonce exp := by
  unfold accept at accepted ⊢
  split_ifs at accepted ⊢
  simp only at accepted ⊢
  cases kept : (nonces.prune now).get nonce with
  | some _ =>
    rw [kept] at accepted
    cases accepted
  | none => exact ⟨rfl, rfl⟩

/-- A refusal forgets what pruning forgets, or nothing. -/
theorem accept_false
    {now : Int} (refused : (nonces.accept nonce exp now).1 = false) :
    (nonces.accept nonce exp now).2 = nonces ∨
      (nonces.accept nonce exp now).2 = nonces.prune now := by
  unfold accept at refused ⊢
  split_ifs at refused ⊢
  · exact Or.inl rfl
  · simp only at refused ⊢
    cases kept : (nonces.prune now).get nonce with
    | some _ => exact Or.inr rfl
    | none =>
      rw [kept] at refused
      cases refused

end ReplicaNonces

/-! ## The handler -/

/-- The answers of `handleObjectReplica` to a request that does not pass. -/
inductive ReplicaRefusal where
  | methodNotAllowed
  | forbidden
  | internalServerError
deriving DecidableEq

/-- `handleObjectReplica` before it reads the body -/
def admitReplica (nodeID : String) (now : Time) (request : ReplicaRequest) :
    Except ReplicaRefusal Int :=
  if request.method.text ≠ "PUT" ∧ request.method.text ≠ "GET" ∧
      request.method.text ≠ "HEAD" then
    .error .methodNotAllowed
  else if request.bucket = "" ∨ request.key = "" then .error .forbidden
  else
    match parseInt64 request.expires.text with
    | none => .error .forbidden
    | some expUnix =>
      if replicaExpiryOK expUnix now = false then .error .forbidden
      else if request.node.text = "" ∨ request.node.text ≠ nodeID then
        .error .forbidden
      else .ok expUnix

/-- `handleObjectReplica` from the body to the nonce -/
def authenticateReplica (digests : Digests) (secret : String)
    (spoolFails : Bool) (now : Time) (nonces : ReplicaNonces)
    (request : ReplicaRequest) (expUnix : Int) :
    Except ReplicaRefusal Unit × ReplicaNonces :=
  if request.method.text = "PUT" ∧ spoolFails = true then
    (.error .internalServerError, nonces)
  else if replicaMACOK digests secret (request.canon digests)
      request.signature.text = false then
    (.error .forbidden, nonces)
  else
    let (accepted, nonces) :=
      nonces.accept request.nonce.text expUnix (unixSeconds now)
    if accepted then (.ok (), nonces) else (.error .forbidden, nonces)

/-- What the admission of a request has checked. -/
theorem admitReplica_ok
    {nodeID : String}
    (admitted : admitReplica nodeID now request = .ok expUnix) :
    parseInt64 request.expires.text = some expUnix ∧
      ¬ expUnix * 1000000000 + 5 * 1000000000 < now := by
  unfold admitReplica at admitted
  cases parsed : parseInt64 request.expires.text with
  | none =>
    rw [parsed] at admitted
    split_ifs at admitted
  | some exp =>
    rw [parsed] at admitted
    simp only at admitted
    split_ifs at admitted with verb object expired
    cases admitted
    exact ⟨rfl, replicaExpiryOK_past (Bool.eq_true_of_not_eq_false expired)⟩

/-- A request passes or not; what the nonces are afterwards. -/
inductive Authenticated (digests : Digests) (secret : String)
    (nonces : ReplicaNonces) (second : Int) (request : ReplicaRequest)
    (expUnix : Int) : Except ReplicaRefusal Unit × ReplicaNonces → Prop where
  | passed
      (signed : hexDecode request.signature.text =
        some (digests.hmac secret (request.canon digests)))
      (fresh : (nonces.prune second).get request.nonce.text = none) :
      Authenticated digests secret nonces second request expUnix
        (.ok (), (nonces.prune second).put request.nonce.text expUnix)
  | pruned (refusal : ReplicaRefusal) :
      Authenticated digests secret nonces second request expUnix
        (.error refusal, nonces.prune second)
  | kept (refusal : ReplicaRefusal) :
      Authenticated digests secret nonces second request expUnix
        (.error refusal, nonces)

theorem authenticateReplica_authenticated
    (digests : Digests) (secret : String) (spoolFails : Bool) (now : Time)
    (nonces : ReplicaNonces) (request : ReplicaRequest) (expUnix : Int) :
    Authenticated digests secret nonces (unixSeconds now) request expUnix
      (authenticateReplica digests secret spoolFails now nonces request
        expUnix) := by
  unfold authenticateReplica
  split_ifs with spool mac
  · exact .kept _
  · exact .kept _
  · have signed := ((replicaMACOK_iff _ _ _ _).mp
      (Bool.eq_true_of_not_eq_false mac)).2.2
    cases accepted : (nonces.accept request.nonce.text expUnix
        (unixSeconds now)).1 with
    | true =>
      obtain ⟨fresh, after⟩ := ReplicaNonces.accept_true accepted
      simp only [accepted, after]
      exact .passed signed fresh
    | false =>
      simp only [accepted]
      rcases ReplicaNonces.accept_false accepted with after | after
      · rw [after]
        exact .kept _
      · rw [after]
        exact .pruned _

/-- A signed request with a new nonce passes. -/
theorem authenticateReplica_sign
    {secret : String} {seen : ReplicaNonces}
    (shared : secret ≠ "") (given : request.nonce.text ≠ "")
    (coded : replicaSign digests secret (request.canon digests) ≠ "")
    (fresh : (seen.prune (unixSeconds now)).get request.nonce.text = none) :
    authenticateReplica digests secret false now seen
        (request.sign digests secret) expUnix =
      (.ok (),
        (seen.prune (unixSeconds now)).put request.nonce.text expUnix) := by
  have valid : replicaMACOK digests secret (request.canon digests)
      (replicaSign digests secret (request.canon digests)) = true :=
    (replicaMACOK_iff _ _ _ _).mpr
      ⟨shared, coded, by rw [replicaSign, hexDecode_hexEncode]⟩
  have accepted : seen.accept request.nonce.text expUnix (unixSeconds now) =
      (true,
        (seen.prune (unixSeconds now)).put request.nonce.text expUnix) := by
    simp only [ReplicaNonces.accept, if_neg given, fresh]
  have canon : (request.sign digests secret).canon digests =
      request.canon digests := rfl
  rw [authenticateReplica, canon]
  simp only [ReplicaRequest.sign, Bool.false_eq_true, and_false, if_false,
    valid, Bool.true_eq_false, accepted, if_true]

/-! ## A node that takes requests -/

/-- What a node knows of replica requests, and those that have passed. -/
structure ReplicaNode where
  clock : Time
  seen : ReplicaNonces
  /-- Requests whose bodies are being read, with their expiries. -/
  waiting : List (ReplicaRequest × Int)
  passed : List ReplicaRequest
deriving DecidableEq

/-- A node that has just started. -/
def ReplicaNode.started (clock : Time) : ReplicaNode :=
  { clock := clock, seen := Table.empty, waiting := [], passed := [] }

/-- What happens some nanoseconds after the event before. -/
inductive ReplicaEvent where
  | arrive (elapsed : Nat) (request : ReplicaRequest)
  | finish (elapsed : Nat) (place : Nat) (spoolFails : Bool)
deriving DecidableEq

def ReplicaEvent.elapsed : ReplicaEvent → Nat
  | .arrive elapsed _ => elapsed
  | .finish elapsed _ _ => elapsed

/-- The handlers of one node under an event. -/
def replicaStep (digests : Digests) (secret nodeID : String)
    (state : ReplicaNode) (event : ReplicaEvent) : ReplicaNode :=
  let now := state.clock + event.elapsed
  match event with
  | .arrive _ request =>
    match admitReplica nodeID now request with
    | .error _ => { state with clock := now }
    | .ok expUnix =>
      { state with
        clock := now
        waiting := state.waiting ++ [(request, expUnix)] }
  | .finish _ place spoolFails =>
    match state.waiting[place]? with
    | none => { state with clock := now }
    | some (request, expUnix) =>
      let (answer, seen) := authenticateReplica digests secret spoolFails
        now state.seen request expUnix
      { clock := now
        seen := seen
        waiting := state.waiting.eraseIdx place
        passed :=
          match answer with
          | .ok () => request :: state.passed
          | .error _ => state.passed }

end DataSafe.Api
