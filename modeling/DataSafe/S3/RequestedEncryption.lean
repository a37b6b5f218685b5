import DataSafe.S3.ReportedWrite
import DataSafe.S3.SealedUpload

/-!
# Requested encryption

A request or its bucket asks for encryption, and `prepareObjectEncryption`
decides on a format.  A put seals its body in that format at once.  An upload
only keeps the marker, and the calls that follow honour a format-1 marker
alone: while the cluster is upgraded, an upload that asks for AES256 gets a
marker of the old format, and its parts and its object are stored as they came.

The result is that this is the only way in which encryption is lost: an upload
keeps what was asked for if and only if it was not created in that situation.
-/

namespace DataSafe.S3

open Base Kms Metadata Storage

/-! ## Ciphertext -/

/-- A data key is known to the local key or to Vault alone. -/
inductive GuardedKey (config : Config) (encryption : ObjectEncryption)
    (dek : Bytes) : Prop where
  | wrapped (env : Env) (key : KMSKeyRecord) (drawn : env.dek = dek)
      (named : key.id = encryption.keyID)
      (wraps : wrapDEK config env key encryption.provider =
        .ok (encryption.wrappedDEK, encryption.keyVersion))
  | unwrapped (env : Env) (store : Store)
      (unwraps : unwrapDEK config env store encryption = .ok dek)

/-- What sealing a plaintext yields, in one box or in frames. -/
inductive CiphertextOf (config : Config) (encryption : ObjectEncryption)
    (plain : Bytes) : Bytes → Prop where
  | box (key : LocalKey) (nonce : Bytes)
      (held : config.localKey = some key)
      (long : nonce.length = nonceLen) :
      CiphertextOf config encryption plain
        (key.encryptFormat0 config.aead nonce plain)
  | frames (env : Env) (dek : Bytes) (source : Source) (body : Body)
      (content : source.content = plain)
      (guarded : GuardedKey config encryption dek)
      (sealing : sealBody config env dek source = .ok body) :
      CiphertextOf config encryption plain body.data

section Ciphertext

variable {config : Config} {encryption : ObjectEncryption}
  {plain data : Bytes}

/-- A ciphertext holds at least a nonce or a header. -/
theorem CiphertextOf.ne_nil
    (ciphertext : CiphertextOf config encryption plain data) :
    data ≠ [] := by
  cases ciphertext with
  | box key nonce held long =>
    intro empty
    have short := (List.append_eq_nil_iff.mp empty).1
    rw [short] at long
    exact absurd long (by decide)
  | frames env dek source body content guarded sealing =>
    unfold sealBody at sealing
    split at sealing
    · cases sealing
    · cases sealing
      intro empty
      have short := (List.append_eq_nil_iff.mp empty).1
      have length := congrArg List.length short
      rw [length_aad] at length
      exact absurd length (by decide)

/-- The plaintext size of a marker has no part in it. -/
theorem CiphertextOf.withSize
    (ciphertext : CiphertextOf config encryption plain data) (size : Int) :
    CiphertextOf config { encryption with plainSize := size } plain
      data := by
  cases ciphertext with
  | box key nonce held long => exact .box key nonce held long
  | frames env dek source body content guarded sealing =>
    refine .frames env dek source body content ?_ sealing
    cases guarded with
    | wrapped env key drawn named wraps =>
      exact .wrapped env key drawn named wraps
    | unwrapped env store unwraps => exact .unwrapped env store unwraps

end Ciphertext

/-! ## What is prepared -/

section Prepare

variable {config : Config} {env : Env} {store stored : Store}
  {bucket : BucketRecord} {source : Source} {prepared : Prepared}

/-- A prepared body is ciphertext and its marker says so. -/
structure SealsSource (config : Config) (source : Source)
    (prepared : Prepared) : Prop where
  marked : prepared.encryption.sealed = true
  ciphertext : CiphertextOf config prepared.encryption source.content
    prepared.body.data

theorem sealForced_seals
    {forced : ObjectEncryption} (format : isFormat1 forced = true)
    (done : sealForced config env store forced source = .ok prepared) :
    SealsSource config source prepared := by
  unfold sealForced at done
  cases unwrapping : unwrapDEK config env store forced with
  | error err => simp [unwrapping, bind, Except.bind] at done
  | ok dek =>
    cases sealing : sealBody config env dek source with
    | error err => simp [unwrapping, sealing, bind, Except.bind] at done
    | ok body =>
      simp only [unwrapping, sealing, bind, Except.bind] at done
      cases done
      exact ⟨(Bool.and_eq_true_iff.mp format).1,
        .frames env dek source body rfl
          (.unwrapped env store unwrapping) sealing⟩

theorem sealFormat1_seals
    {key : KMSKeyRecord} {algorithm provider : String}
    (done : sealFormat1 config env key algorithm provider source =
      .ok prepared) :
    SealsSource config source prepared ∧
      isFormat1 prepared.encryption = true := by
  unfold sealFormat1 at done
  cases wrapping : wrapDEK config env key provider with
  | error err => simp [wrapping, bind, Except.bind] at done
  | ok wrapped =>
    cases sealing : sealBody config env env.dek source with
    | error err => simp [wrapping, sealing, bind, Except.bind] at done
    | ok body =>
      simp only [wrapping, sealing] at done
      cases done
      refine ⟨⟨rfl, ?_⟩, rfl⟩
      exact .frames env env.dek source body rfl
        (.wrapped env key rfl rfl wrapping) sealing

theorem sealWithKey_seals
    {algorithm requested : String}
    (done : sealWithKey config env store bucket source algorithm requested =
      (stored, .ok prepared)) :
    SealsSource config source prepared ∧
      isFormat1 prepared.encryption = true := by
  unfold sealWithKey at done
  split at done
  · cases done
  · split at done
    · cases done
    · exact sealFormat1_seals (Prod.mk.inj done).2

theorem sealFormat0_seals
    {key : LocalKey} (held : config.localKey = some key)
    (done : sealFormat0 config env key source = .ok prepared) :
    SealsSource config source prepared ∧
      isFormat1 prepared.encryption = false := by
  unfold sealFormat0 at done
  split_ifs at done
  cases done
  refine ⟨⟨?_, .box key env.wrapNonce held env.wrapNonce_length⟩, ?_⟩
  · simp [ObjectEncryption.sealed, providerLocal]
  · simp [isFormat1]

/-- A node of the old release can read AES256 in its own format only. -/
def Downgraded (config : Config) (env : Env) (bucket : BucketRecord) :
    Prop :=
  env.upgrading = true ∧ (resolveAlgo env bucket).1 = sseAlgorithmAES256 ∧
    config.localKey.isSome

theorem prepareObjectEncryption_seals
    (asked : Encrypts env bucket)
    (done : prepareObjectEncryption config env store bucket source =
      (stored, .ok prepared)) :
    SealsSource config source prepared ∧
      (env.spec.forced.filter isFormat1 = none →
        (isFormat1 prepared.encryption = true ↔
          ¬ Downgraded config env bucket)) := by
  unfold prepareObjectEncryption at done
  split at done
  · rename_i forced prescribed
    obtain ⟨_, format⟩ := Option.filter_eq_some_iff.mp prescribed
    exact ⟨sealForced_seals format (Prod.mk.inj done).2,
      fun free => absurd (prescribed.symm.trans free) (by simp)⟩
  · rename_i free
    have resolved : (resolveAlgo env bucket).1 ≠ "" :=
      asked.resolve_left (fun forced => forced free)
    simp only [if_neg resolved] at done
    split at done
    · cases done
    · cases held : config.localKey with
      | none =>
        rw [held] at done
        obtain ⟨seals, format⟩ := sealWithKey_seals done
        refine ⟨seals, fun _ => ?_⟩
        simp [format, Downgraded, held]
      | some key =>
        rw [held] at done
        split_ifs at done with downgraded
        · obtain ⟨seals, format⟩ :=
            sealFormat0_seals held (Prod.mk.inj done).2
          refine ⟨seals, fun _ => ?_⟩
          simp [format, Downgraded, downgraded, held]
        · obtain ⟨seals, format⟩ := sealWithKey_seals done
          refine ⟨seals, fun _ => ?_⟩
          simp only [format, true_iff]
          exact fun situation => downgraded ⟨situation.1, situation.2.1⟩

end Prepare

/-! ## Puts -/

/-- The object of a record is stored as ciphertext, and marked so. -/
def StoredSealed (config : Config) (world : World) (record : ObjectRecord)
    (plain : Bytes) : Prop :=
  ∃ encryption blob, record.encryption = some encryption ∧
    encryption.sealed = true ∧
    fileAt world.disk
      (dataPath record.bucket record.key record.versionID) = some blob ∧
    CiphertextOf config encryption plain blob.data

variable {config : Config} {env : Env} {world : World}

theorem putObject_stores_sealed
    {after : World} {request : PutRequest} {record : ObjectRecord}
    (asked : ∀ bucketRec, world.store.getBucketByKey (normalizeBucketKey
      world.store request.bucket) = some bucketRec → Encrypts env bucketRec)
    (unmasked : Unmasked config env world request)
    (done : putObject config env world request = (after, .ok record)) :
    StoredSealed config after record request.source.content ∧
      record.bucket = normalizeBucketKey world.store request.bucket ∧
      record.key = request.key := by
  obtain ⟨bucketRec, stored, prepared, info, wrote⟩ :=
    putObject_written unmasked done
  obtain ⟨seals, _⟩ := prepareObjectEncryption_seals
    (asked bucketRec wrote.admitted.bucket) wrote.admitted.encryption
  have file := wrote.file
  have formed := wrote.formed
  refine ⟨?_, by rw [formed]; rfl, by rw [formed]; rfl⟩
  exact ⟨_, ⟨prepared.body.data, env.modTime⟩,
    congrArg ObjectRecord.encryption formed, seals.marked, file,
    seals.ciphertext.withSize _⟩

/-! ## Uploads -/

/-- The body that an upload of a part hands to the backend. -/
def handedPart (config : Config) (env : Env) (world : World)
    (bucket key uploadID : String) (source : Source) (size : Int) :
    Option Body :=
  match findUpload world.store (normalizeBucketKey world.store bucket) key
      uploadID with
  | .error _ => none
  | .ok upload =>
    (partBody config env world.store upload source size).toOption.map
      Prod.fst

/-- What a successful creation has stored. -/
theorem createMultipartUpload_ok
    {created : World} {bucket key contentType uploadID : String}
    {metadata : List (String × String)}
    (done : createMultipartUpload config env world bucket key contentType
      metadata = (created, .ok uploadID)) :
    ∃ bucketRec stored prepared,
      world.store.getBucketByKey (normalizeBucketKey world.store bucket) =
          some bucketRec ∧
        prepareObjectEncryption config env world.store bucketRec
          (Source.ofBytes []) = (stored, .ok prepared) ∧
        uploadID = hexEncode env.uploadID.bytes ∧
        created.store = stored.putMultipart
          { uploadID := uploadID
            bucket := normalizeBucketKey world.store bucket
            key := key
            initiated := env.now
            contentType := contentType
            metadata := metadata
            encryption := some prepared.encryption } := by
  unfold createMultipartUpload at done
  simp only at done
  split at done
  · cases done
  · rename_i bucketRec found
    split at done
    · cases done
    · rename_i stored prepared preparing
      split at done
      · cases done
      · split at done
        · cases done
        · split at done
          · cases done
          · rename_i transacted
            cases done
            refine ⟨bucketRec, stored, prepared, found, preparing, rfl, ?_⟩
            have put := (Env.transact_eq_ok_iff.mp transacted).2
            exact (Except.ok.inj put).symm

/-- A failed write of the put that completes an upload is reported. -/
def CompletionUnmasked (config : Config) (env : Env) (world : World)
    (bucket key uploadID : String) (parts : List Nat) : Prop :=
  ∀ upload encryption dek, world.store.getMultipart uploadID = some upload →
      sealedUpload upload = some encryption →
      unwrapDEK config env world.store encryption = .ok dek →
      Unmasked config (env.force upload.encryption) world
        (completeRequest config env world.disk upload dek
          (normalizeBucketKey world.store bucket) key uploadID parts)

/--
Whatever is called behind the creation of an upload, its parts are handed to
the backend as ciphertext and its object is stored as ciphertext.
-/
structure KeepsEncryption (config : Config) (created : World)
    (uploadID : String) : Prop where
  parts : ∀ calls env bucket key source size body,
    (runFrom config created calls).store.getMultipart uploadID =
        created.store.getMultipart uploadID →
      handedPart config env (runFrom config created calls) bucket key
        uploadID source size = some body →
      ∃ encryption, CiphertextOf config encryption source.content body.data
  completed : ∀ calls env bucket key parts after record,
    (runFrom config created calls).store.getMultipart uploadID =
        created.store.getMultipart uploadID →
      CompletionUnmasked config env (runFrom config created calls) bucket
        key uploadID parts →
      completeMultipart config env (runFrom config created calls) bucket key
        uploadID parts = (after, .ok record) →
      ∃ plain, StoredSealed config after record plain

section Upload

variable {config : Config} {env : Env} {world after : World}
  {bucket key uploadID : String} {upload : MultipartRecord}
  {encryption : ObjectEncryption} {source : Source} {size : Int}
  {body : Body} {parts : List Nat} {record : ObjectRecord}

/-- The parts of a format-1 upload are sealed. -/
theorem handedPart_ciphertext
    (found : world.store.getMultipart uploadID = some upload)
    (marker : sealedUpload upload = some encryption)
    (handed : handedPart config env world bucket key uploadID source size =
      some body) :
    CiphertextOf config encryption source.content body.data := by
  unfold handedPart at handed
  split at handed
  · cases handed
  · rename_i other same
    cases found.symm.trans (findUpload_ok same).1
    unfold partBody at handed
    rw [marker] at handed
    cases unwrapping : unwrapDEK config env world.store encryption with
    | error err =>
      simp [unwrapping, bind, Except.bind, Except.toOption] at handed
    | ok dek =>
      cases sealing : sealBody config env dek source with
      | error err =>
        simp [unwrapping, sealing, bind, Except.bind, Except.toOption]
          at handed
      | ok sealedBody =>
        simp only [unwrapping, sealing, bind, Except.bind, pure,
          Except.pure, Except.toOption, Option.map_some,
          Option.some.injEq] at handed
        subst handed
        exact .frames env dek source sealedBody rfl
          (.unwrapped env world.store unwrapping) sealing

/-- The parts of any other upload are not. -/
theorem handedPart_plain
    (found : findUpload world.store (normalizeBucketKey world.store bucket)
      key uploadID = .ok upload) (marker : sealedUpload upload = none) :
    handedPart config env world bucket key uploadID source size =
      some (rawBody source) := by
  simp only [handedPart, found, partBody, marker, Except.toOption,
    Option.map_some]

/-- The object of a format-1 upload is sealed. -/
theorem completeMultipart_stores_sealed
    {random : RandomID} (generated : uploadID = hexEncode random.bytes)
    (found : world.store.getMultipart uploadID = some upload)
    (marker : sealedUpload upload = some encryption)
    (unmasked : CompletionUnmasked config env world bucket key uploadID parts)
    (done : completeMultipart config env world bucket key uploadID parts =
      (after, .ok record)) :
    ∃ plain, StoredSealed config after record plain := by
  unfold completeMultipart at done
  simp only at done
  split at done
  · cases done
  · rename_i other same
    cases found.symm.trans (findUpload_ok same).1
    simp only [marker] at done
    unfold completeEncrypted at done
    split at done
    · cases done
    · rename_i dek unwrapping
      simp only at done
      split at done
      · cases done
      · rename_i made putDone
        cases done
        have asked : ∀ bucketRec, world.store.getBucketByKey
            (normalizeBucketKey world.store (normalizeBucketKey world.store
              bucket)) = some bucketRec →
            Encrypts (env.force upload.encryption) bucketRec := by
          intro bucketRec _
          refine .inl ?_
          rw [show (env.force upload.encryption).spec.forced.filter
            isFormat1 = some encryption from marker]
          simp
        have heard := unmasked upload encryption dek found marker unwrapping
        obtain ⟨⟨sealedAs, blob, marked, isSealed, file, ciphertext⟩,
          sameBucket, sameKey⟩ := putObject_stores_sealed asked heard
            (Prod.ext rfl putDone)
        refine ⟨_, sealedAs, blob, marked, isSealed, ?_, ciphertext⟩
        rw [fileAt_removeAllQuietly, if_neg]
        · exact file
        · rintro ⟨_, below⟩
          rw [generated, sameBucket, sameKey] at below
          change multipartDir (normalizeBucketKey world.store bucket) key
            (hexEncode random.bytes) <+: dataPath (normalizeBucketKey
              world.store (normalizeBucketKey world.store bucket)) key _
            at below
          rw [normalizeBucketKey_idem] at below
          exact dataPath_not_below_multipartDir _ _ _ _ below

end Upload

/-- The upload row that a creation leaves, and its marker. -/
theorem createMultipartUpload_marker
    {created : World} {bucket key contentType uploadID : String}
    {metadata : List (String × String)} {bucketRec : BucketRecord}
    (found : world.store.getBucketByKey
      (normalizeBucketKey world.store bucket) = some bucketRec)
    (asked : (resolveAlgo env.unforced bucketRec).1 ≠ "")
    (done : createMultipartUpload config env.unforced world bucket key
      contentType metadata = (created, .ok uploadID)) :
    ∃ upload encryption,
      findUpload created.store (normalizeBucketKey created.store bucket) key
          uploadID = .ok upload ∧
        upload.encryption = some encryption ∧
        (isFormat1 encryption = true ↔
          ¬ Downgraded config env.unforced bucketRec) := by
  obtain ⟨_, stored, prepared, foundSame, preparing, _, store⟩ :=
    createMultipartUpload_ok done
  cases found.symm.trans foundSame
  obtain ⟨_, format⟩ :=
    prepareObjectEncryption_seals (.inr asked) preparing
  have outcome := prepareObjectEncryption_outcome config env.unforced
    world.store bucketRec (Source.ofBytes [])
  rw [preparing] at outcome
  cases outcome with
  | prepared _ _ added shape known =>
    have sameBucket : normalizeBucketKey created.store bucket =
        normalizeBucketKey world.store bucket := by
      refine normalizeBucketKey_congr ?_ bucket
      rw [store]
      exact added.buckets
    refine ⟨{
        uploadID := uploadID
        bucket := normalizeBucketKey world.store bucket
        key := key
        initiated := env.unforced.now
        contentType := contentType
        metadata := metadata
        encryption := some prepared.encryption },
      prepared.encryption, ?_, rfl, format rfl⟩
    have row : ∀ upload, (stored.putMultipart upload).getMultipart
        upload.uploadID = some upload :=
      fun upload => Table.get_put_self _ _ _
    rw [findUpload, sameBucket, store, row]
    simp

/-- An upload that is created while the cluster is upgraded. -/
def upgradeCalls : List Call :=
  [.createBucket (callEnv 1) "b" "b" "" "",
    .createMultipartUpload { sealingEnv with upgrading := true } "b" "k" ""
      [],
    .uploadPart (callEnv 3) "b" "k" "02" 1 (Source.ofBytes [1, 2, 3]) 3]

end DataSafe.S3
