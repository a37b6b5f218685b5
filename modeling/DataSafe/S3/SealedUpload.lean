import DataSafe.Kms.EnvelopeRoundTrip
import DataSafe.S3.Calls

/-!
# Sealed uploads

A put gives the backend no size to check when its body is sealed, and the
sealing takes an unexpected end of file for a short last chunk.  A sealed
upload that breaks off is then stored as far as it came, and the put succeeds.

The result here is the exact condition under which a sealed put that succeeds
has stored a plaintext of the declared size.  The plaintext of a file is what
the keys of the put open it to.
-/

namespace DataSafe.S3

open Base Kms Metadata Storage

/-! ## The plaintext of a stored file -/

/-- What a format-1 body opens to under a data key, if it opens. -/
def openFormat1 (config : Config) (dek data : Bytes) : Option Bytes :=
  match decryptReader config.aead dek (Source.ofBytes data) with
  | .error _ => none
  | .ok reader =>
    if reader.readAll.2 = .eof then some reader.readAll.1 else none

/-- What a stored body opens to under the keys of a put. -/
def openStored (config : Config) (env : Env) (store : Store)
    (encryption : ObjectEncryption) (data : Bytes) : Option Bytes :=
  if encryption.formatVersion = 1 then
    (dataKey config env store).bind (fun dek =>
      openFormat1 config dek data)
  else
    config.localKey.bind (fun key =>
      (key.decryptFormat0 config.aead data).toOption)

/-- The plaintext size of what lies at a path. -/
def storedSize (config : Config) (env : Env) (store : Store)
    (encryption : ObjectEncryption) (disk : Disk) (path : Path) :
    Option Int :=
  (fileAt disk path).bind (fun blob =>
    (openStored config env store encryption blob.data).map
      (fun plain => (plain.length : Int)))

variable {env : Env} {source : Source}

/-- A sealed body is read to its end only behind an end of its source. -/
theorem ending_of_sealBody
    {config : Config} {dek : Bytes}
    {body : Body} (sealing : sealBody config env dek source = .ok body)
    (complete : body.ending = .eof) :
    source.ending = .eof ∨ source.ending = .unexpectedEOF := by
  unfold sealBody at sealing
  cases made : encryptReader config.aead env.nonces dek source
      defaultChunk with
  | error err => simp [made] at sealing
  | ok reader =>
    simp only [made, Except.ok.injEq] at sealing
    subst sealing
    have ended := reader.sealing.stream_ending source.ending
      (source.content.length + 1) 0 source.content (Nat.lt_succ_self _)
    rw [show (reader.sealing.stream _ 0 _ _).2 = .eof from complete] at ended
    by_cases truncated : source.ending = .unexpectedEOF
    · exact .inr truncated
    · rw [if_neg truncated] at ended
      exact .inl ended.symm

section Open

variable {config : Config} (correct : config.aead.Correct)

include correct

theorem LocalKey.decryptFormat0_encryptFormat0
    (key : LocalKey) {nonce : Bytes} (plain : Bytes)
    (long : nonce.length = nonceLen) :
    key.decryptFormat0 config.aead
        (key.encryptFormat0 config.aead nonce plain) = .ok plain := by
  have enough : ¬ (key.encryptFormat0 config.aead nonce plain).length <
      nonceLen := by
    simp [LocalKey.encryptFormat0, long]
  rw [LocalKey.decryptFormat0, if_neg enough]
  simp only [LocalKey.encryptFormat0, List.take_left' long,
    List.drop_left' long, correct _ _ _ _]

theorem openFormat1_sealBody
    {dek : Bytes} {body : Body}
    (sealing : sealBody config env dek source = .ok body)
    (complete : body.ending = .eof) :
    openFormat1 config dek body.data = some source.content := by
  have accepted := ending_of_sealBody sealing complete
  unfold sealBody at sealing
  cases made : encryptReader config.aead env.nonces dek source
      defaultChunk with
  | error err => simp [made] at sealing
  | ok reader =>
    simp only [made, Except.ok.injEq] at sealing
    subst sealing
    obtain ⟨keyed, aead, key, chunk, _⟩ := encryptReader_ok made
    obtain ⟨opened, decrypted, readAll⟩ :=
      decryptReader_sealed (aead ▸ correct)
        (by rw [chunk]; decide) (key ▸ keyed) source.content accepted
    rw [aead, key] at decrypted
    simp [openFormat1, decrypted, readAll]

/-- A sealed body that was read to its end opens to its plaintext. -/
theorem PreparedAs.openStored_body
    {store : Store} {bucket : BucketRecord} {prepared : Prepared}
    (shape : PreparedAs config env store bucket source prepared)
    (seals : Encrypts env bucket) (complete : prepared.body.ending = .eof) :
    openStored config env store prepared.encryption prepared.body.data =
      some source.content := by
  cases shape with
  | plain unsealed => exact absurd seals unsealed
  | format0 key encryption held _ unversioned =>
    simp [openStored, unversioned, held,
      key.decryptFormat0_encryptFormat0 correct source.content
        env.wrapNonce_length, Except.toOption]
  | format1 dek body encryption drawn sealing versioned =>
    simp [openStored, versioned, drawn,
      openFormat1_sealBody correct sealing complete]

end Open

/-! ## The condition -/

/-- A sealed put that succeeds has stored a plaintext of the declared size. -/
def StoresDeclared (config : Config) (env : Env) (world : World)
    (request : PutRequest) : Prop :=
  ∀ bucketRec after record, world.store.getBucketByKey
        (normalizeBucketKey world.store request.bucket) = some bucketRec →
      Encrypts env bucketRec →
      putObject config env world request = (after, .ok record) →
        ∃ encryption, record.encryption = some encryption ∧
          storedSize config env world.store encryption after.disk
              (dataPath (normalizeBucketKey world.store request.bucket)
                request.key record.versionID) =
            some request.size

/--
When a sealed put goes through, its source has delivered the declared number
of bytes; or the write has failed unnoticed, and the file that lay at the path
before opens to that many bytes.
-/
def DeliversDeclared (config : Config) (env : Env) (world : World)
    (request : PutRequest) : Prop :=
  ∀ bucketRec stored prepared, Encrypts env bucketRec →
    Admitted config env world request bucketRec stored prepared →
    InPlace config env { world with store := stored }
      (normalizeBucketKey world.store request.bucket) request prepared →
    Commits env (targetPath env { world with store := stored }
      (normalizeBucketKey world.store request.bucket) request) →
      (Writes config env { world with store := stored }
          (normalizeBucketKey world.store request.bucket) request prepared →
        (request.source.content.length : Int) = request.size) ∧
      (¬ Writes config env { world with store := stored }
          (normalizeBucketKey world.store request.bucket) request prepared →
        storedSize config env world.store prepared.encryption
            (targetDisk env { world with store := stored }
              (normalizeBucketKey world.store request.bucket) request)
            (targetPath env { world with store := stored }
              (normalizeBucketKey world.store request.bucket) request) =
          some request.size)

section Put

variable {config : Config} (correct : config.aead.Correct)
  {env : Env} {world : World} {request : PutRequest}

include correct

/-- What the write of a sealed put leaves at its path. -/
theorem storedSize_written
    {store : Store} {bucketRec : BucketRecord} {bucket : String}
    {prepared : Prepared}
    (shape : PreparedAs config env store bucketRec request.source prepared)
    (seals : Encrypts env bucketRec) :
    storedSize config env store prepared.encryption
        (written config env world bucket request prepared).disk
        (targetPath env world bucket request) = some request.size ↔
      (Writes config env world bucket request prepared →
          (request.source.content.length : Int) = request.size) ∧
        (¬ Writes config env world bucket request prepared →
          storedSize config env store prepared.encryption
              (targetDisk env world bucket request)
              (targetPath env world bucket request) =
            some request.size) := by
  by_cases writes : Writes config env world bucket request prepared
  · obtain ⟨etag, done⟩ := written_ok_iff.mpr writes
    have opened := shape.openStored_body correct seals writes.2.complete
    simp [storedSize, fileAt_written_of_ok done, opened, writes]
  · cases reply :
        (written config env world bucket request prepared).reply with
    | ok etag => exact absurd (written_ok_iff.mp ⟨etag, reply⟩) writes
    | error err =>
      simp [storedSize, fileAt_written_of_error reply, writes]

/-- A sealed put stores what was declared if and only if it was delivered. -/
theorem storesDeclared_iff :
    StoresDeclared config env world request ↔
      DeliversDeclared config env world request := by
  constructor
  · intro stores bucketRec stored prepared seals admitted inPlace commits
    obtain ⟨_, shape, _⟩ := admitted.outcome
    rw [← storedSize_written correct shape seals]
    have kept := stores bucketRec
    have outcome := admitted.put_outcome
    generalize putObject config env world request = result at outcome kept
    cases outcome with
    | failed err why => exact absurd ⟨inPlace, commits⟩ why
    | committed info committed record inPlace commits stat formed put =>
      subst formed
      obtain ⟨encryption, same, size⟩ :=
        kept _ _ admitted.bucket seals rfl
      cases same
      exact size
  · intro delivers bucketRec after record bucket seals done
    rcases putObject_cases config env world request with
      ⟨stored, err, _, refused⟩ | ⟨otherRec, stored, prepared, admitted⟩
    · rw [refused] at done
      cases done
    · have same := admitted.bucket
      rw [bucket] at same
      cases same
      obtain ⟨_, shape, _⟩ := admitted.outcome
      have outcome := admitted.put_outcome
      rw [done] at outcome
      cases outcome with
      | committed info committed record inPlace commits stat formed put =>
        subst formed
        exact ⟨_, rfl, (storedSize_written correct shape seals).mpr
          (delivers bucketRec stored prepared seals admitted inPlace
            commits)⟩

end Put

/--
Reading a sealed body to the end reports the error of its source if and only
if that is not an unexpected end of file, and a sealed put that succeeds has
stored a plaintext of the declared size if and only if so much was delivered.
-/
theorem sealed_upload_whole_iff
    (config : Config) (correct : config.aead.Correct) (env : Env)
    (world : World) (request : PutRequest) :
    (∀ nonces dek source chunk reader,
        encryptReader config.aead nonces dek source chunk = .ok reader →
        source.ending ≠ .eof →
          (reader.Fails ↔ source.ending ≠ .unexpectedEOF)) ∧
      (StoresDeclared config env world request ↔
        DeliversDeclared config env world request) :=
  ⟨fun _ _ _ _ _ made broken => encryptReader_fails_iff made broken,
    storesDeclared_iff correct⟩

/-! ## An upload that breaks off -/

/-- A node with a master key. -/
def sealingConfig : Config where
  aead := Aead.tagging
  md5 := fun _ => ""
  localKey := some ⟨fun _ => List.replicate 32 0,
    fun _ => List.length_replicate⟩
  keyAllowed := fun _ => true
  defaultKeyID := fun _ _ => "default"

/-- A call that asks for encryption under the key of the node. -/
def sealingEnv : Env :=
  { callEnv 2 with spec := { algorithm := sseAlgorithmAES256 } }

/-- The node with one bucket. -/
def sealingWorld : World :=
  run sealingConfig [.createBucket (callEnv 1) "b" "b" "" ""]

/-- A sealed upload that breaks off is stored as far as it came. -/
theorem truncated_put_succeeds :
    brokenPut.source.ending ≠ .eof ∧ (∃ reader,
        encryptReader sealingConfig.aead sealingEnv.nonces sealingEnv.dek
            brokenPut.source defaultChunk = .ok reader ∧
          ¬ reader.Fails) ∧
      ¬ StoresDeclared sealingConfig sealingEnv sealingWorld brokenPut := by
  have broken : brokenPut.source.ending ≠ .eof := by decide
  refine ⟨broken, ⟨_, rfl, fun fails => ?_⟩, fun stores => ?_⟩
  · have noticed := (encryptReader_fails_iff
      (show encryptReader sealingConfig.aead sealingEnv.nonces
        sealingEnv.dek brokenPut.source defaultChunk = .ok _ from rfl)
      broken).mp fails
    exact noticed rfl
  · have seals : ∀ bucketRec, Encrypts sealingEnv bucketRec :=
      fun _ => .inr (show sseAlgorithmAES256 ≠ "" by decide)
    have present : (sealingWorld.store.getBucketByKey
        (normalizeBucketKey sealingWorld.store
          brokenPut.bucket)).isSome = true := by
      decide
    have stored :
        ((putObject sealingConfig sealingEnv sealingWorld
          brokenPut).2.toOption.bind (fun record =>
            record.encryption.bind (fun encryption =>
              storedSize sealingConfig sealingEnv sealingWorld.store
                encryption
                (putObject sealingConfig sealingEnv sealingWorld
                  brokenPut).1.disk
                (dataPath (normalizeBucketKey sealingWorld.store
                  brokenPut.bucket) brokenPut.key record.versionID)))) =
          some 1 := by
      decide
    obtain ⟨bucketRec, bucket⟩ := Option.isSome_iff_exists.mp present
    have kept := stores bucketRec
    generalize putObject sealingConfig sealingEnv sealingWorld brokenPut =
      result at kept stored
    obtain ⟨after, reply⟩ := result
    cases reply with
    | error err => cases stored
    | ok record =>
      obtain ⟨encryption, same, size⟩ := kept _ _ bucket (seals _) rfl
      simp only [Except.toOption, Option.bind_some, same, size] at stored
      cases stored

/-- A sealed upload that is delivered whole is stored whole. -/
theorem sealed_upload_whole_iff_small :
    sealingConfig.aead.Correct ∧
      DeliversDeclared sealingConfig sealingEnv sealingWorld (smallPut "k") ∧
      StoresDeclared sealingConfig sealingEnv sealingWorld
        (smallPut "k") := by
  have delivers : DeliversDeclared sealingConfig sealingEnv sealingWorld
      (smallPut "k") := by
    intro bucketRec stored prepared seals admitted inPlace commits
    refine ⟨fun _ => rfl, fun unwritten => ?_⟩
    obtain ⟨added, _⟩ := admitted.outcome
    rcases inPlace with writes | ⟨swallowed, _⟩
    · exact absurd writes unwritten
    · have heard : (targetOf sealingEnv sealingWorld
          (normalizeBucketKey sealingWorld.store (smallPut "k").bucket)
          (smallPut "k")).swallows = false := by
        decide
      rw [added.targetOf_eq] at swallowed
      cases swallowed
  exact ⟨Aead.tagging_correct, delivers,
    (sealed_upload_whole_iff sealingConfig Aead.tagging_correct sealingEnv
      sealingWorld (smallPut "k")).2.mpr delivers⟩

end DataSafe.S3
