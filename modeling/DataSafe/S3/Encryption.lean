import DataSafe.Kms.Envelope
import DataSafe.Metadata.Store
import DataSafe.Storage.FSBackend

/-!
# Object encryption

`prepareObjectEncryption` decides how the next write is sealed and
`openDecrypted` opens what a read finds.  A new object is sealed with its own
data key, which is stored wrapped under the local key or by Vault; objects of
release 1.5.0 carry no marker and are classified on the first read.

`Config` is what a node is started with.  `Env` is what one call draws from
its surroundings: the clock, random bytes, the state of Vault, and the faults
of the file system and of the metadata transactions.
-/

namespace DataSafe.S3

open Base Kms Metadata Storage

inductive Err where
  | store (err : StoreErr)
  | backend (err : BackendErr)
  | read (err : ReadErr)
  | quotaExceeded
  | legalHold
  | retentionLocked
  | objectLockVersioning
  | invalidArgument
  | invalidTime
  | sseKeyMissing
  | clusterUpgrade
  | keyNotAllowed
  | keyDestroyed
  | kmsUnavailable
  | wrappedTooShort
  | ciphertextTooShort
  | authenticationFailed
  | envelopeWithoutMetadata
deriving DecidableEq

/-! ## The surroundings of a call -/

/-- `kms.Local`: the key-encryption keys derived from the master key. -/
structure LocalKey where
  kek : Int → Bytes
  length_kek : ∀ version, (kek version).length = 32

/-- `kms.DEKSource` as it answers during one call. -/
structure Vault where
  wrap : (keyID : String) → (dek : Bytes) → Option (Bytes × Int)
  unwrapDEK : (keyID : String) → (version generation : Int) →
    (wrapped : Bytes) → Option Bytes

/-- The encryption that a request asks for, or that an upload prescribes. -/
structure SseSpec where
  algorithm : String := ""
  keyID : String := ""
  forced : Option ObjectEncryption := none

/-- What a node is started with. -/
structure Config where
  aead : Aead
  md5 : Bytes → String
  localKey : Option LocalKey
  keyAllowed : String → Bool
  defaultKeyID : (tenant bucket : String) → String

/-- The places of a call at which the file system is used. -/
inductive Stage where
  | write
  | purge
  | stat
  | read
  | delete
  | parts
  | complete
  | aside
  | abort
deriving DecidableEq

/-- The metadata transactions of a call. -/
inductive Transaction where
  | putObject
  | deleteVersion
  | putKMSKey
  | updateBucket
  | putBucket
  | putMultipart
  | deleteMultipart
  | rewriteObject
  | putTrash
  | deleteTrash
deriving DecidableEq

/-- What one call draws from its surroundings. -/
structure Env where
  now : Time
  modTime : Time
  versionID : RandomID
  uploadID : RandomID
  tempName : String
  dek : Bytes
  dek_length : dek.length = 32
  nonces : Nonces
  wrapNonce : Bytes
  wrapNonce_length : wrapNonce.length = nonceLen
  spec : SseSpec := {}
  upgrading : Bool := false
  vault : Option Vault := none
  faults : Stage → Faults := fun _ => noFaults
  transactionFails : Transaction → Bool := fun _ => false
  /-- How much of a source is read before a write error. -/
  readBefore : Nat := 0

/-- The write environment of one stage. -/
def Env.write (env : Env) (config : Config) (stage : Stage) : WriteEnv where
  md5 := config.md5
  faults := env.faults stage
  random := env.tempName
  modTime := env.modTime

/-- Run a transaction that may fail on its own account. -/
def Env.transact (env : Env) (transaction : Transaction)
    (result : Except StoreErr Store) : Except Err Store :=
  if env.transactionFails transaction then .error (.store .transaction)
  else
    match result with
    | .ok store => .ok store
    | .error err => .error (.store err)

theorem Env.transact_eq_ok_iff
    {env : Env} {transaction : Transaction}
    {result : Except StoreErr Store} {store : Store} :
    env.transact transaction result = .ok store ↔
      env.transactionFails transaction = false ∧ result = .ok store := by
  unfold Env.transact
  cases env.transactionFails transaction <;> cases result <;> simp

/-! ## Data keys -/

def providerLocal : String := "local"
def providerVault : String := "vault-transit"
def sseAlgorithmAES256 : String := "AES256"
def sseAlgorithmKMS : String := "aws:kms"
def alg : String := "AES-256-GCM"

/-- The associated data of a wrapped data key, `datasafe-dek`. -/
def dekAAD : Bytes :=
  [0x64, 0x61, 0x74, 0x61, 0x73, 0x61, 0x66, 0x65, 0x2d, 0x64, 0x65, 0x6b]

/-- A version number of a key that was never rotated counts as the first. -/
def atLeastOne (version : Int) : Int := if version < 1 then 1 else version

/-- `Local.WrapVersion` -/
def LocalKey.wrapVersion (key : LocalKey) (aead : Aead)
    (nonce dek : Bytes) (version : Int) : Bytes × Int :=
  let version := atLeastOne version
  (nonce ++ aead.sealBox (key.kek version) nonce dek dekAAD, version)

/-- `Local.Unwrap` -/
def LocalKey.unwrap (key : LocalKey) (aead : Aead) (version : Int)
    (wrapped : Bytes) : Except Err Bytes :=
  if wrapped.length < nonceLen then .error .wrappedTooShort
  else
    match aead.openBox (key.kek (atLeastOne version))
        (wrapped.take nonceLen) (wrapped.drop nonceLen) dekAAD with
    | some dek => .ok dek
    | none => .error .authenticationFailed

/-- `Local.EncryptFormat0`: the whole plaintext in one box. -/
def LocalKey.encryptFormat0 (key : LocalKey) (aead : Aead)
    (nonce plain : Bytes) : Bytes :=
  nonce ++ aead.sealBox (key.kek 0) nonce plain []

/-- `Local.DecryptFormat0` -/
def LocalKey.decryptFormat0 (key : LocalKey) (aead : Aead)
    (data : Bytes) : Except Err Bytes :=
  if data.length < nonceLen then .error .ciphertextTooShort
  else
    match aead.openBox (key.kek 0) (data.take nonceLen)
        (data.drop nonceLen) [] with
    | some plain => .ok plain
    | none => .error .authenticationFailed

/-- `Local.AuthenticateFormat0` -/
def LocalKey.authenticateFormat0 (key : LocalKey) (aead : Aead)
    (data : Bytes) : Except Err Bool :=
  if data.length < nonceLen then .ok false
  else if data.take 5 = magic then .error .envelopeWithoutMetadata
  else if data.length < nonceLen + tagLen then .ok false
  else
    .ok (aead.openBox (key.kek 0) (data.take nonceLen)
      (data.drop nonceLen) []).isSome

/-- `unwrapDEK` -/
def unwrapDEK (config : Config) (env : Env) (store : Store)
    (encryption : ObjectEncryption) : Except Err Bytes :=
  if encryption.provider = providerVault then
    match env.vault with
    | none => .error .kmsUnavailable
    | some vault =>
      let generation :=
        match store.getKMSKey encryption.keyID with
        | some key => key.generation
        | none => 0
      match vault.unwrapDEK encryption.keyID
          (atLeastOne encryption.keyVersion) generation
          encryption.wrappedDEK with
      | some dek => .ok dek
      | none => .error .kmsUnavailable
  else
    match config.localKey with
    | none => .error .sseKeyMissing
    | some key =>
      key.unwrap config.aead encryption.keyVersion encryption.wrappedDEK

/-- The row of a key, which is created when it is first used. -/
def ensureKMSKey (env : Env) (store : Store)
    (id tenant bucketKey provider : String) :
    Store × Except Err KMSKeyRecord :=
  match store.getKMSKey id with
  | some key =>
    if key.status = "destroyed" then (store, .error .keyDestroyed)
    else (store, .ok key)
  | none =>
    let key : KMSKeyRecord :=
      { id := id
        provider := if provider = "" then providerLocal else provider
        status := "active"
        version := 1
        generation := 1
        tenantID := tenant
        bucketKey := bucketKey }
    match env.transact .putKMSKey (.ok (store.putKMSKey key)) with
    | .ok stored => (stored, .ok key)
    | .error err => (store, .error err)

/-! ## Sealing a write -/

/-- `byteCounter`: it counts while the backend reads, or is set already. -/
inductive Counter where
  | live
  | fixed (count : Int)
deriving DecidableEq

/-- What the backend is to store, and the marker of the object. -/
structure Prepared where
  body : Body
  counter : Option Counter
  encryption : ObjectEncryption

/-- A body as the caller sends it. -/
def rawBody (source : Source) : Body := ⟨source.content, source.ending⟩

/-- What `EncryptReader` delivers when the backend reads it to the end. -/
def sealBody (config : Config) (env : Env) (dek : Bytes)
    (source : Source) : Except Err Body :=
  match encryptReader config.aead env.nonces dek source defaultChunk with
  | .error err => .error (.read err)
  | .ok reader =>
    .ok
      { data := reader.sealing.aad ++
          frames (reader.sealing.boxes source.content source.ending)
        ending := reader.sealing.ending source.content source.ending }

/-- The algorithm and the key that the request or the bucket ask for. -/
def resolveAlgo (env : Env) (bucket : BucketRecord) : String × String :=
  if env.spec.algorithm ≠ "" then
    (env.spec.algorithm,
      if env.spec.keyID = "" then bucket.kmsMasterKeyID else env.spec.keyID)
  else (bucket.defaultEncryption, bucket.kmsMasterKeyID)

/-- A whole body in one box, for a cluster with a node of release 1.5.0. -/
def sealFormat0 (config : Config) (env : Env) (key : LocalKey)
    (source : Source) : Except Err Prepared :=
  if source.ending ≠ .eof then .error (.read source.ending)
  else
    .ok
      { body := ⟨key.encryptFormat0 config.aead env.wrapNonce
          source.content, .eof⟩
        counter := some (.fixed source.content.length)
        encryption := {
          provider := providerLocal
          alg := alg
          sseAlgorithm := sseAlgorithmAES256
          plainSize := source.content.length } }

/-- Wrap the new data key, by Vault or under the local key. -/
def wrapDEK (config : Config) (env : Env) (key : KMSKeyRecord)
    (provider : String) : Except Err (Bytes × Int) :=
  if provider = providerVault then
    match env.vault.bind (fun vault => vault.wrap key.id env.dek) with
    | some wrapped => .ok wrapped
    | none => .error .kmsUnavailable
  else
    match config.localKey with
    | some localKey =>
      .ok (localKey.wrapVersion config.aead env.wrapNonce env.dek
        (atLeastOne key.version))
    | none => .error .sseKeyMissing

/-- Seal a body with a new data key that is wrapped under `key`. -/
def sealFormat1 (config : Config) (env : Env) (key : KMSKeyRecord)
    (algorithm provider : String) (source : Source) :
    Except Err Prepared := do
  let (wrapped, version) ← wrapDEK config env key provider
  let body ← sealBody config env env.dek source
  return {
    body := body
    counter := some .live
    encryption := {
      formatVersion := 1
      provider := provider
      keyID := key.id
      keyVersion := version
      wrappedDEK := wrapped
      alg := alg
      sseAlgorithm := algorithm } }

/-- Seal a body with the data key of an upload. -/
def sealForced (config : Config) (env : Env) (store : Store)
    (forced : ObjectEncryption) (source : Source) :
    Except Err Prepared := do
  let dek ← unwrapDEK config env store forced
  let body ← sealBody config env dek source
  return ⟨body, some .live, forced⟩

/-- `ObjectEncryption` prescribes format 1. -/
def isFormat1 (encryption : ObjectEncryption) : Bool :=
  encryption.sealed && encryption.formatVersion == 1

/-- The provider and the id of the key for a new data key. -/
def chooseKey (config : Config) (env : Env) (bucket : BucketRecord)
    (algorithm requested : String) : Except Err (String × String) :=
  let provider :=
    if algorithm = sseAlgorithmKMS ∧ env.vault.isSome then providerVault
    else providerLocal
  let keyID :=
    if requested = "" then config.defaultKeyID bucket.tenantID bucket.name
    else requested
  if algorithm = sseAlgorithmKMS ∧ env.upgrading then .error .clusterUpgrade
  else if provider = providerLocal ∧ config.localKey.isNone then
    .error .sseKeyMissing
  else if !config.keyAllowed keyID then .error .keyNotAllowed
  else .ok (provider, keyID)

/-- The part of `prepareObjectEncryption` behind the choice of a format. -/
def sealWithKey (config : Config) (env : Env) (store : Store)
    (bucket : BucketRecord) (source : Source)
    (algorithm requested : String) : Store × Except Err Prepared :=
  match chooseKey config env bucket algorithm requested with
  | .error err => (store, .error err)
  | .ok (provider, keyID) =>
    match ensureKMSKey env store keyID bucket.tenantID
        bucket.effectiveStorageKey provider with
    | (stored, .error err) => (stored, .error err)
    | (stored, .ok key) =>
      (stored, sealFormat1 config env key algorithm provider source)

/-- `prepareObjectEncryption` -/
def prepareObjectEncryption (config : Config) (env : Env) (store : Store)
    (bucket : BucketRecord) (source : Source) :
    Store × Except Err Prepared :=
  match env.spec.forced.filter isFormat1 with
  | some forced => (store, sealForced config env store forced source)
  | none =>
    let (algorithm, requested) := resolveAlgo env bucket
    if algorithm = "" then
      (store, .ok ⟨rawBody source, none, { plaintext := true }⟩)
    else if algorithm ≠ sseAlgorithmAES256 ∧ algorithm ≠ sseAlgorithmKMS then
      (store, .error .invalidArgument)
    else
      match config.localKey with
      | some key =>
        if env.upgrading ∧ algorithm = sseAlgorithmAES256 then
          (store, sealFormat0 config env key source)
        else
          sealWithKey config env store bucket source algorithm requested
      | none =>
        sealWithKey config env store bucket source algorithm requested

/-! ## Opening a read -/

/-- The shortest body of format 0: a nonce and a tag. -/
def format0MinLen : Int := 12 + 16

/-- The plaintext size that is read fully before a success status. -/
def sealAuthLimit : Int := 32 * 2 ^ 20

def plaintextMarker : ObjectEncryption := { plaintext := true }

def format0Marker (plainSize : Int) : ObjectEncryption where
  provider := providerLocal
  alg := alg
  sseAlgorithm := sseAlgorithmAES256
  plainSize := max plainSize 0

/-- `finishSealed`: small objects are read fully, larger ones streamed. -/
def finishSealed (reader : DecReader) (record : ObjectRecord) :
    Except Err (Body × ObjectRecord) :=
  let (data, ending) := reader.readAll
  if record.size ≤ sealAuthLimit then
    if ending ≠ .eof then .error (.read ending)
    else .ok (⟨data, .eof⟩, { record with size := data.length })
  else if data = [] ∧ ending ≠ .eof then .error (.read ending)
  else .ok (⟨data, ending⟩, record)

/-- `openFormat0` -/
def openFormat0 (config : Config) (data : Bytes) (record : ObjectRecord) :
    Except Err (Body × ObjectRecord) := do
  match config.localKey with
  | none => .error .sseKeyMissing
  | some key =>
    let plain ← key.decryptFormat0 config.aead data
    return (⟨plain, .eof⟩, { record with size := plain.length })

/-- `openUnmarkedRaw`: an envelope without its metadata is not served. -/
def openUnmarkedRaw (data : Bytes) (record : ObjectRecord) :
    Except Err (Body × ObjectRecord) :=
  if data.take 5 = magic then .error .envelopeWithoutMetadata
  else .ok (⟨data, .eof⟩, record)

/-- `openUnmarked`, with the marker that it stores. -/
def openUnmarked (config : Config) (data : Bytes) (record : ObjectRecord) :
    Option ObjectEncryption × Except Err (Body × ObjectRecord) :=
  match config.localKey with
  | none => (none, openUnmarkedRaw data record)
  | some key =>
    let asPlain : Option ObjectEncryption ×
        Except Err (Body × ObjectRecord) :=
      (some plaintextMarker, .ok (⟨data, .eof⟩,
        { record with encryption := some plaintextMarker }))
    if 0 ≤ record.size ∧ record.size < format0MinLen then asPlain
    else
      match key.authenticateFormat0 config.aead data with
      | .error err => (none, .error err)
      | .ok false => asPlain
      | .ok true =>
        let marker := format0Marker (record.size - format0MinLen)
        (some marker, openFormat0 config data
          { record with encryption := some marker })

/-- `openDecrypted` on a sealed record. -/
def openSealed (config : Config) (env : Env) (store : Store)
    (encryption : ObjectEncryption) (data : Bytes) (record : ObjectRecord) :
    Except Err (Body × ObjectRecord) := do
  match store.getKMSKey encryption.keyID with
  | some key =>
    if encryption.keyID ≠ "" ∧ key.status = "destroyed" then
      .error .keyDestroyed
  | none => pure ()
  if encryption.provider ≠ providerVault ∧
      (encryption.formatVersion = 0 ∨ encryption.wrappedDEK = []) then
    openFormat0 config data record
  else
    let dek ← unwrapDEK config env store encryption
    match decryptReader config.aead dek (Source.ofBytes data) with
    | .error err => .error (.read err)
    | .ok reader => finishSealed reader record

/-- `openDecrypted`, with the marker that it stores. -/
def openDecrypted (config : Config) (env : Env) (store : Store)
    (data : Bytes) (record : ObjectRecord) :
    Option ObjectEncryption × Except Err (Body × ObjectRecord) :=
  match record.encryption with
  | none => openUnmarked config data record
  | some encryption =>
    if encryption.sealed then
      (none, openSealed config env store encryption data record)
    else if encryption.plaintext then (none, .ok (⟨data, .eof⟩, record))
    else openUnmarked config data record

end DataSafe.S3
