import DataSafe.Auth.Texts
import DataSafe.Base.Aead

/-!
# Encrypted metadata fields

A field is stored as `enc:v1:` and five parts with colons between them: the
id of the key and, in Base64, the nonce, the ciphertext, an ephemeral public
key and the wrapped data key.  The id stands in the text as it was configured.

Strings are bytes.  The random values of an encryption are its inputs, and the
service is never nil.
-/

namespace DataSafe.Security

open Base Auth

/-- The primitives and their laws: an authenticated cipher, X25519 with the
hash of its result, and Base64. -/
structure Suite where
  aead : Aead
  publicKey : Bytes → Bytes
  deriveWrapKey : (priv peerPub : Bytes) → Option Bytes
  encode64 : Bytes → Bytes
  decode64 : Bytes → Option Bytes
  correct : aead.Correct
  agreed : ∀ one two, ∃ key, deriveWrapKey one (publicKey two) = some key ∧
    deriveWrapKey two (publicKey one) = some key
  decoded : ∀ data, decode64 (encode64 data) = some data
  plain : ∀ data, 58 ∉ encode64 data
  alphabet : ∀ text, 58 ∈ text → decode64 text = none

inductive FieldErr where
  | notEncrypted
  | invalidWire
  | base64
  | unknownKEK (kekID : Bytes)
  | agreement
  | shortDEK
  | notOpened
  | noActiveKey
  | noPrivateKeys
  | retired (kekID : Bytes)
  | activeIDRequired
  | keysRequired
  | activeKeyMissing (kekID : Bytes)
  deriving DecidableEq

/-- What one encryption draws at random. -/
structure Draw where
  ephPriv : Bytes
  dek : Bytes
  wrapNonce : Bytes
  payloadNonce : Bytes
  wrapNonce_length : wrapNonce.length = 12

/-! ## The wire format -/

def wirePrefix : Bytes := ascii "enc:v1:"

def aadFor (kekID fieldPath : Bytes) : Bytes :=
  ascii "v1|" ++ kekID ++ ascii "|" ++ fieldPath

structure Wire where
  kekID : Bytes
  payloadNonce : Bytes
  ct : Bytes
  ephPub : Bytes
  wrapped : Bytes

def Wire.text (suite : Suite) (wire : Wire) : Bytes :=
  wirePrefix ++ (wire.kekID ++ 58 :: (suite.encode64 wire.payloadNonce ++
    58 :: (suite.encode64 wire.ct ++ 58 :: (suite.encode64 wire.ephPub ++
      58 :: suite.encode64 wire.wrapped))))

/-- `strings.SplitN` at colons, into one part more than the number. -/
def splitN : Nat → Bytes → List Bytes
  | 0, text => [text]
  | more + 1, text =>
    if 58 ∈ text then (cut 58 text).1 :: splitN more (cut 58 text).2
    else [text]

def isEncrypted (stored : Bytes) : Bool := wirePrefix.isPrefixOf stored

def parseWire (suite : Suite) (stored : Bytes) : Except FieldErr Wire :=
  if isEncrypted stored then
    match splitN 4 (stored.drop wirePrefix.length) with
    | [kekID, payloadNonce, ct, ephPub, wrapped] =>
      if kekID = [] then .error .invalidWire
      else
        match suite.decode64 payloadNonce, suite.decode64 ct,
          suite.decode64 ephPub, suite.decode64 wrapped with
        | some payloadNonce, some ct, some ephPub, some wrapped =>
          .ok ⟨kekID, payloadNonce, ct, ephPub, wrapped⟩
        | _, _, _, _ => .error .base64
    | _ => .error .invalidWire
  else .error .notEncrypted

/-! ## Values -/

def wrapDEK (suite : Suite) (draw : Draw) (wrapKey : Bytes) : Bytes :=
  draw.wrapNonce ++ suite.aead.sealBox wrapKey draw.wrapNonce draw.dek []

def unwrapDEK (suite : Suite) (wrapKey blob : Bytes) :
    Except FieldErr Bytes :=
  if blob.length < 12 then .error .shortDEK
  else
    match suite.aead.openBox wrapKey (blob.take 12) (blob.drop 12) [] with
    | some dek => .ok dek
    | none => .error .notOpened

/-- The parts of an encrypted value. -/
def sealedWire (suite : Suite) (draw : Draw)
    (kekID fieldPath plaintext wrapKey : Bytes) : Wire where
  kekID := kekID
  payloadNonce := draw.payloadNonce
  ct := suite.aead.sealBox draw.dek draw.payloadNonce plaintext
    (aadFor kekID fieldPath)
  ephPub := suite.publicKey draw.ephPriv
  wrapped := wrapDEK suite draw wrapKey

def encryptValue (suite : Suite) (draw : Draw)
    (kekPriv kekID fieldPath plaintext : Bytes) : Except FieldErr Bytes :=
  match suite.deriveWrapKey draw.ephPriv (suite.publicKey kekPriv) with
  | none => .error .agreement
  | some wrapKey =>
    .ok ((sealedWire suite draw kekID fieldPath plaintext wrapKey).text
      suite)

def decryptValue (suite : Suite) (privateKeys : List (Bytes × Bytes))
    (fieldPath stored : Bytes) : Except FieldErr Bytes := do
  let wire ← parseWire suite stored
  match privateKeys.lookup wire.kekID with
  | none => .error (.unknownKEK wire.kekID)
  | some priv =>
    match suite.deriveWrapKey priv wire.ephPub with
    | none => .error .agreement
    | some wrapKey => do
      let dek ← unwrapDEK suite wrapKey wire.wrapped
      match suite.aead.openBox dek wire.payloadNonce wire.ct
          (aadFor wire.kekID fieldPath) with
      | some plain => .ok plain
      | none => .error .notOpened

/-! ## The service -/

structure Service where
  enabled : Bool
  activeKekID : Bytes := []
  privateKeys : List (Bytes × Bytes) := []
  activePriv : Option Bytes := none
  retired : List Bytes := []

namespace Service

def encrypt (service : Service) (suite : Suite) (draw : Draw)
    (fieldPath plaintext : Bytes) : Except FieldErr Bytes :=
  if !service.enabled || plaintext = [] then .ok plaintext
  else
    match service.activePriv with
    | none => .error .noActiveKey
    | some priv =>
      encryptValue suite draw priv service.activeKekID fieldPath plaintext

def decrypt (service : Service) (suite : Suite)
    (fieldPath stored : Bytes) : Except FieldErr Bytes :=
  if stored = [] || !isEncrypted stored then .ok stored
  else if service.privateKeys = [] then .error .noPrivateKeys
  else do
    let wire ← parseWire suite stored
    if wire.kekID ∈ service.retired then .error (.retired wire.kekID)
    else decryptValue suite service.privateKeys fieldPath stored

/-- The value to store, and whether it is another one. -/
def rewrapIfNeeded (service : Service) (suite : Suite) (draw : Draw)
    (fieldPath stored : Bytes) : Except FieldErr (Bytes × Bool) :=
  if !service.enabled || stored = [] then .ok (stored, false)
  else if !isEncrypted stored then do
    let enc ← service.encrypt suite draw fieldPath stored
    .ok (enc, true)
  else do
    let wire ← parseWire suite stored
    if wire.kekID = service.activeKekID then .ok (stored, false)
    else
      let plain ← service.decrypt suite fieldPath stored
      let enc ← service.encrypt suite draw fieldPath plain
      .ok (enc, true)

end Service

/-- The variables come trimmed, and the private keys read. -/
def fromEnv (enabled : Bool) (activeID : Bytes)
    (loaded : Except FieldErr (List (Bytes × Bytes))) :
    Except FieldErr Service :=
  if !enabled then .ok { enabled := false }
  else if activeID = [] then .error .activeIDRequired
  else do
    let keys ← loaded
    if keys = [] then .error .keysRequired
    else
      match keys.lookup activeID with
      | none => .error (.activeKeyMissing activeID)
      | some active =>
        .ok { enabled := true, activeKekID := activeID,
              privateKeys := keys, activePriv := some active }

/-! ## Reading the wire format -/

variable (suite : Suite) {service : Service}

theorem splitN_append
    {front : Bytes} (plain : 58 ∉ front) (more : Nat) (rest : Bytes) :
    splitN (more + 1) (front ++ 58 :: rest) = front :: splitN more rest := by
  simp [splitN, cut_append plain]

/-- With more colons than cuts the last part has one. -/
theorem colon_mem_last
    (more : Nat) (text : Bytes) (many : more < text.count 58) :
    ∃ front last, splitN more text = front ++ [last] ∧
      front.length = more ∧ 58 ∈ last := by
  induction more generalizing text with
  | zero => exact ⟨[], text, rfl, rfl, List.count_pos_iff.mp many⟩
  | succ more induction =>
    have colon : 58 ∈ text := List.count_pos_iff.mp (by omega)
    rcases List.eq_append_cons_of_mem colon with ⟨first, rest, rfl, plain⟩
    have left : more < rest.count 58 := by
      simpa [List.count_eq_zero.mpr plain] using many
    rcases induction rest left with ⟨front, last, parts, length, held⟩
    refine ⟨first :: front, last, ?_, by rw [List.length_cons, length], held⟩
    rw [splitN_append plain, parts, List.cons_append]

theorem isEncrypted_text (wire : Wire) :
    isEncrypted (wire.text suite) = true :=
  List.isPrefixOf_iff_prefix.mpr (List.prefix_append _ _)

theorem parseWire_text
    {wire : Wire} (named : wire.kekID ≠ [])
    (plain : 58 ∉ wire.kekID) :
    parseWire suite (wire.text suite) = .ok wire := by
  have parts := splitN_append plain 3 (suite.encode64 wire.payloadNonce ++
    58 :: (suite.encode64 wire.ct ++ 58 :: (suite.encode64 wire.ephPub ++
      58 :: suite.encode64 wire.wrapped)))
  rw [splitN_append (suite.plain _), splitN_append (suite.plain _),
    splitN_append (suite.plain _)] at parts
  rw [parseWire, if_pos (isEncrypted_text suite wire), Wire.text,
    List.drop_left, parts]
  simp [splitN, named, suite.decoded]

theorem parseWire_colon
    (wire : Wire) (colon : 58 ∈ wire.kekID) :
    ∃ err, parseWire suite (wire.text suite) = .error err := by
  have many : 4 < (wire.kekID ++ 58 :: (suite.encode64 wire.payloadNonce ++
      58 :: (suite.encode64 wire.ct ++ 58 :: (suite.encode64 wire.ephPub ++
        58 :: suite.encode64 wire.wrapped)))).count 58 := by
    have one := List.count_pos_iff.mpr colon
    simp only [List.count_append, List.count_cons_self]
    omega
  rcases colon_mem_last 4 _ many with ⟨front, last, parts, length, held⟩
  rw [parseWire, if_pos (isEncrypted_text suite wire), Wire.text,
    List.drop_left, parts]
  match front, length with
  | [kekID, payloadNonce, ct, ephPub], _ =>
    simp only [List.cons_append, List.nil_append, suite.alphabet last held]
    split_ifs
    · exact ⟨_, rfl⟩
    · cases suite.decode64 payloadNonce <;> cases suite.decode64 ct <;>
        cases suite.decode64 ephPub <;> exact ⟨_, rfl⟩

/-! ## Round trips -/

/-- A service that `FromEnv` has accepted with encryption enabled. -/
structure Ready (service : Service) (priv : Bytes) : Prop where
  enabled : service.enabled = true
  named : service.activeKekID ≠ []
  active : service.activePriv = some priv
  listed : service.privateKeys.lookup service.activeKekID = some priv
  current : service.retired = []

theorem fromEnv_ready
    {activeID : Bytes} {loaded : Except FieldErr (List (Bytes × Bytes))}
    (accepted : fromEnv true activeID loaded = .ok service) :
    service.activeKekID = activeID ∧ ∃ priv, Ready service priv := by
  rw [fromEnv] at accepted
  by_cases empty : activeID = []
  · simp [empty] at accepted
  · cases loaded with
    | error err => simp [empty, bind, Except.bind] at accepted
    | ok keys =>
      by_cases none : keys = []
      · simp [empty, none, bind, Except.bind] at accepted
      · cases found : keys.lookup activeID with
        | none => simp [empty, none, found, bind, Except.bind] at accepted
        | some priv =>
          simp [empty, none, found, bind, Except.bind] at accepted
          subst accepted
          exact ⟨rfl, priv, rfl, empty, rfl, found, rfl⟩

theorem unwrapDEK_wrapDEK
    (draw : Draw) (wrapKey : Bytes) :
    unwrapDEK suite wrapKey (wrapDEK suite draw wrapKey) = .ok draw.dek := by
  have long : ¬(wrapDEK suite draw wrapKey).length < 12 := by
    simp [wrapDEK, draw.wrapNonce_length]
  rw [unwrapDEK, if_neg long, wrapDEK, List.take_left' draw.wrapNonce_length,
    List.drop_left' draw.wrapNonce_length, suite.correct]

/-- The box of an encryption opens under its own associated data only. -/
def BoundBox (suite : Suite) (draw : Draw)
    (kekID path plaintext : Bytes) : Prop :=
  ∀ aad plain, suite.aead.openBox draw.dek draw.payloadNonce
    (suite.aead.sealBox draw.dek draw.payloadNonce plaintext
      (aadFor kekID path)) aad = some plain → aad = aadFor kekID path

section Sealed

variable {priv : Bytes} (ready : Ready service priv)
  (draw : Draw) (path : Bytes) {plaintext : Bytes} (some_text : plaintext ≠ [])

include ready some_text

/-- What is stored is opened by its data key, or not read at all. -/
theorem encrypt_spec :
    ∃ stored, service.encrypt suite draw path plaintext = .ok stored ∧
      isEncrypted stored = true ∧
      (58 ∈ service.activeKekID → ∀ other, ∃ err,
        service.decrypt suite other stored = .error err) ∧
      (58 ∉ service.activeKekID →
        (∃ wire, parseWire suite stored = .ok wire ∧
          wire.kekID = service.activeKekID) ∧
        ∀ other, service.decrypt suite other stored =
          match suite.aead.openBox draw.dek draw.payloadNonce
            (suite.aead.sealBox draw.dek draw.payloadNonce plaintext
              (aadFor service.activeKekID path))
            (aadFor service.activeKekID other) with
          | some plain => .ok plain
          | none => .error .notOpened) := by
  rcases suite.agreed draw.ephPriv priv with ⟨wrapKey, sender, receiver⟩
  let wire := sealedWire suite draw service.activeKekID path plaintext
    wrapKey
  have keyed : service.privateKeys ≠ [] := by
    intro none
    have found := ready.listed
    simp [none] at found
  have kept : wire.text suite ≠ [] := by
    simp [Wire.text]
  refine ⟨wire.text suite, by simp [Service.encrypt, ready.enabled,
    some_text, ready.active, encryptValue, sender, wire],
    isEncrypted_text suite wire, fun colon other => ?_, fun plain => ?_⟩
  · rcases parseWire_colon suite wire colon with ⟨err, failed⟩
    exact ⟨err, by simp [Service.decrypt, kept, isEncrypted_text, keyed,
      failed, bind, Except.bind]⟩
  have parsed : parseWire suite (wire.text suite) = .ok wire :=
    parseWire_text suite ready.named plain
  refine ⟨⟨wire, parsed, rfl⟩, fun other => ?_⟩
  have listed : service.privateKeys.lookup wire.kekID = some priv :=
    ready.listed
  have agreed : suite.deriveWrapKey priv wire.ephPub = some wrapKey :=
    receiver
  have unwrapped : unwrapDEK suite wrapKey wire.wrapped = .ok draw.dek :=
    unwrapDEK_wrapDEK suite draw wrapKey
  simp [Service.decrypt, keyed, parsed, ready.current, decryptValue, listed,
    agreed, unwrapped, bind, Except.bind]
  rfl

/-- A value is not opened under another path. -/
theorem decrypt_other_path
    (bound : BoundBox suite draw service.activeKekID path plaintext)
    {other : Bytes} (apart : other ≠ path) :
    ∃ stored err, service.encrypt suite draw path plaintext = .ok stored ∧
      service.decrypt suite other stored = .error err := by
  rcases encrypt_spec suite ready draw path some_text with
    ⟨stored, done, marked, broken, opened⟩
  by_cases colon : 58 ∈ service.activeKekID
  · rcases broken colon other with ⟨err, failed⟩
    exact ⟨stored, err, done, failed⟩
  · refine ⟨stored, .notOpened, done, ?_⟩
    rw [(opened colon).2]
    split
    · rename_i plain found
      exact absurd (List.append_cancel_left (bound _ _ found)) apart
    · rfl

end Sealed

/-- An encrypted field is read back unless the id of the active key holds a
colon. -/
theorem encrypt_decrypt_iff
    {priv : Bytes} (ready : Ready service priv)
    (draw : Draw) (path plaintext : Bytes) :
    (service.encrypt suite draw path plaintext >>=
        service.decrypt suite path) = .ok plaintext ↔
      plaintext = [] ∨ 58 ∉ service.activeKekID := by
  by_cases empty : plaintext = []
  · subst empty
    simp [Service.encrypt, Service.decrypt, bind, Except.bind]
  · rcases encrypt_spec suite ready draw path empty with
      ⟨stored, done, _, broken, opened⟩
    simp only [done, bind, Except.bind, empty]
    by_cases colon : 58 ∈ service.activeKekID
    · rcases broken colon path with ⟨err, failed⟩
      simp [failed, colon]
    · simp [(opened colon).2, suite.correct _ _ _ _, colon]

/-- A value that has just been stored is not stored again. -/
theorem rewrap_encrypted
    {priv : Bytes} (ready : Ready service priv)
    (plain : 58 ∉ service.activeKekID) (draw again : Draw)
    (path plaintext : Bytes) :
    ∃ stored, service.encrypt suite draw path plaintext = .ok stored ∧
      service.decrypt suite path stored = .ok plaintext ∧
      service.rewrapIfNeeded suite again path stored =
        .ok (stored, false) := by
  by_cases empty : plaintext = []
  · subst empty
    exact ⟨[], by simp [Service.encrypt], by simp [Service.decrypt],
      by simp [Service.rewrapIfNeeded]⟩
  · rcases encrypt_spec suite ready draw path empty with
      ⟨stored, done, marked, _, opened⟩
    rcases opened plain with ⟨⟨wire, parsed, active⟩, reads⟩
    refine ⟨stored, done, by rw [reads, suite.correct], ?_⟩
    simp [Service.rewrapIfNeeded, marked, parsed, active, bind, Except.bind]

/--
Field encryption of an accepted service: fields are read back, and rewrapped
once and for all, exactly when the id of the active key has no colon; under
another path a field is never read.
-/
theorem field_encryption_round_trip
    (suite : Suite) (activeID : Bytes)
    (loaded : Except FieldErr (List (Bytes × Bytes))) (service : Service)
    (accepted : fromEnv true activeID loaded = .ok service) :
    (∀ draw path plaintext, (service.encrypt suite draw path plaintext >>=
          service.decrypt suite path) = .ok plaintext ↔
        plaintext = [] ∨ 58 ∉ activeID) ∧
    (58 ∉ activeID → ∀ path stored plaintext,
      service.decrypt suite path stored = .ok plaintext →
      ∀ draw again, ∃ rewrapped changed,
        service.rewrapIfNeeded suite draw path stored =
            .ok (rewrapped, changed) ∧
          service.decrypt suite path rewrapped = .ok plaintext ∧
          service.rewrapIfNeeded suite again path rewrapped =
            .ok (rewrapped, false)) ∧
    ∀ (draw : Draw) path other plaintext, plaintext ≠ [] → other ≠ path →
      BoundBox suite draw activeID path plaintext →
      ∃ stored err, service.encrypt suite draw path plaintext = .ok stored ∧
        service.decrypt suite other stored = .error err := by
  rcases fromEnv_ready accepted with ⟨rfl, priv, ready⟩
  refine ⟨encrypt_decrypt_iff suite ready, ?_, ?_⟩
  · intro plain path stored plaintext read draw again
    by_cases empty : stored = []
    · subst empty
      exact ⟨[], false, by simp [Service.rewrapIfNeeded], read,
        by simp [Service.rewrapIfNeeded]⟩
    rcases rewrap_encrypted suite ready plain draw again path plaintext
      with ⟨next, done, opened, kept⟩
    by_cases marked : isEncrypted stored = true
    · cases parsed : parseWire suite stored with
      | error err =>
        have failed := read
        simp only [Service.decrypt, parsed, bind, Except.bind] at failed
        split_ifs at failed
        simp_all
      | ok wire =>
        by_cases active : wire.kekID = service.activeKekID
        · have same : ∀ draw, service.rewrapIfNeeded suite draw path
              stored = .ok (stored, false) := by
            intro draw
            simp [Service.rewrapIfNeeded, marked, parsed, active, bind,
              Except.bind]
          exact ⟨stored, false, same draw, read, same again⟩
        · exact ⟨next, true, by simp [Service.rewrapIfNeeded, marked,
            parsed, active, ready.enabled, empty, read, done, bind,
            Except.bind], opened, kept⟩
    · have whole : stored = plaintext := by
        simpa [Service.decrypt, marked] using read
      subst whole
      exact ⟨next, true, by simp [Service.rewrapIfNeeded, marked,
        ready.enabled, empty, done, bind, Except.bind], opened, kept⟩
  · intro draw path other plaintext some_text apart bound
    exact decrypt_other_path suite ready draw path some_text bound apart

/-- Primitives without secrets: the tag tells one associated data from all
others, and every shared key is empty. -/
def markingSuite (own : Bytes) : Suite where
  aead :=
    { sealBox := fun _ _ plaintext aad => plaintext ++
        List.replicate 16 (if aad = own then 1 else 0)
      openBox := fun _ _ ciphertext aad =>
        if 16 ≤ ciphertext.length ∧ ciphertext.drop (ciphertext.length - 16) =
            List.replicate 16 (if aad = own then 1 else 0) then
          some (ciphertext.take (ciphertext.length - 16))
        else none
      sealBox_length := by simp }
  publicKey := id
  deriveWrapKey := fun _ _ => some []
  encode64 := hexText
  decode64 := fun text => if 58 ∈ text then none else readHex text
  correct := by
    intro key nonce plaintext aad
    simp
  agreed := fun _ _ => ⟨[], rfl, rfl⟩
  decoded := by
    intro data
    have plain : 58 ∉ hexText data := notMem_hexText (by decide) data
    simp [plain, readHex_hexText]
  plain := notMem_hexText (by decide)
  alphabet := by
    intro text colon
    simp [colon]

def zeroDraw : Draw := ⟨[], [], List.replicate 12 0, [], rfl⟩

theorem plain_id_round_trip :
    ∃ service, fromEnv true [97] (.ok [([97], [])]) = .ok service ∧
      (service.encrypt (markingSuite (aadFor [97] [112])) zeroDraw [112]
        [120] >>= service.decrypt (markingSuite (aadFor [97] [112]))
          [112]) = .ok [120] ∧
      ∃ stored err, service.encrypt (markingSuite (aadFor [97] [112]))
          zeroDraw [112] [120] = .ok stored ∧
        service.decrypt (markingSuite (aadFor [97] [112])) [113] stored =
          .error err := by
  have trip := field_encryption_round_trip (markingSuite (aadFor [97] [112]))
    [97] (.ok [([97], [])]) _ rfl
  refine ⟨_, rfl, (trip.1 zeroDraw [112] [120]).mpr (by decide),
    trip.2.2 zeroDraw [112] [113] [120] (by decide) (by decide) ?_⟩
  intro aad plain opened
  by_contra other
  simp [markingSuite, other] at opened

/-- Nothing is read back when the id of the active key is `a:b`. -/
theorem colon_id_not_read :
    ((fromEnv true (ascii "a:b") (.ok [(ascii "a:b", [])])).bind
      fun service =>
        (service.encrypt (markingSuite []) zeroDraw [112] [120]).bind
          (service.decrypt (markingSuite []) [112])) =
      .error .base64 := by
  decide

end DataSafe.Security
