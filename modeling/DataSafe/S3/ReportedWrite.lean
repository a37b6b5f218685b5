import DataSafe.S3.Calls

/-!
# Failed writes that a put reports

The branch of `putObject` for suspended versioning assigns the error of the
backend to a variable of its own, and the check behind the branches reads the
outer one.  The put then goes on with whatever file lies at the path.  Where a
file from before is still there, the put stores a new record for old bytes and
succeeds.

The result here is the exact condition under which a put whose write fails
returns an error and leaves the metadata alone.
-/

namespace DataSafe.S3

open Base Kms Metadata Storage

/-- What the backend answers to the write of a put that gets to it. -/
def backendReply (config : Config) (env : Env) (world : World)
    (request : PutRequest) : Option (Except BackendErr String) :=
  let bucket := normalizeBucketKey world.store request.bucket
  match world.store.getBucketByKey bucket with
  | none => none
  | some bucketRec =>
    match checkQuota world.store bucketRec bucket request.key
        request.size with
    | .error _ => none
    | .ok () =>
      match prepareObjectEncryption config env world.store bucketRec
          request.source with
      | (_, .error _) => none
      | (stored, .ok prepared) =>
        some (written config env { world with store := stored } bucket
          request prepared).reply

/-- The put returns an error and the metadata is as it was. -/
def Reported (config : Config) (env : Env) (world : World)
    (request : PutRequest) : Prop :=
  (∃ err, (putObject config env world request).2 = .error err) ∧
    (putObject config env world request).1.store = world.store

/-! ## When the failure is masked -/

/--
The suspended branch hides the error: a file lies at the path from before,
and neither the stat nor the commit fails.
-/
def Masked (env : Env) (world : World) (bucket : String)
    (request : PutRequest) : Prop :=
  Commits env (targetPath env world bucket request) ∧
    match targetOf env world bucket request with
    | .fresh _ => False
    | .overwrite versionID =>
      (fileAt world.disk (dataPath bucket request.key versionID)).isSome
    | .flat suspended =>
      suspended = true ∧ env.faults .purge .removeAll
          (objectPath bucket request.key) = true ∧
        (fileAt world.disk (objectPath bucket request.key)).isSome

variable {config : Config} {env : Env} {world : World} {request : PutRequest}
  {prepared : Prepared} {store stored : Store} {bucketRec : BucketRecord}

/-- A failed write is masked if a file is in place all the same. -/
theorem masked_iff
    {bucket : String}
    (failed : ¬ Writes config env world bucket request prepared) :
    Masked env world bucket request ↔
      InPlace config env world bucket request prepared ∧
        Commits env (targetPath env world bucket request) := by
  unfold Masked InPlace targetDisk targetPath
  rw [and_comm]
  refine and_congr_left fun _ => ?_
  simp only [failed]
  cases targetOf env world bucket request with
  | fresh versionID => simp [PutTarget.swallows]
  | overwrite versionID =>
    simp [PutTarget.swallows, clearedDisk, PutTarget.versionID]
  | flat suspended =>
    have null : dataPath bucket request.key .null =
      objectPath bucket request.key := rfl
    simp only [PutTarget.swallows, clearedDisk, PutTarget.versionID, null,
      fileAt_purgeObjectData_self]
    cases env.faults .purge .removeAll
      (objectPath bucket request.key) <;> simp

/-! ## When the encryption leaves the store alone -/

/-- The key whose row the encryption of a body needs. -/
def neededKey (config : Config) (env : Env) (bucketRec : BucketRecord) :
    Option String :=
  let (algorithm, requested) := resolveAlgo env bucketRec
  if (env.spec.forced.filter isFormat1).isSome then none
  else if algorithm = "" then none
  else if config.localKey.isSome ∧ env.upgrading ∧
      algorithm = sseAlgorithmAES256 then none
  else
    match chooseKey config env bucketRec algorithm requested with
    | .ok (_, keyID) => some keyID
    | .error _ => none

/-- The row of the key that the encryption needs is there already. -/
def KeyRowPresent (config : Config) (env : Env) (store : Store)
    (bucketRec : BucketRecord) : Prop :=
  ∀ keyID, neededKey config env bucketRec = some keyID →
    (store.getKMSKey keyID).isSome

theorem ensureKMSKey_same_iff
    {id tenant bucketKey provider : String} {key : KMSKeyRecord}
    (done : ensureKMSKey env store id tenant bucketKey provider =
      (stored, .ok key)) :
    stored = store ↔ (store.getKMSKey id).isSome := by
  have known := ensureKMSKey_known done
  unfold ensureKMSKey at done
  cases found : store.getKMSKey id with
  | some row =>
    simp only [found] at done
    split_ifs at done
    · cases done
    · cases done
      simp
  | none =>
    simp only [found] at done
    split at done
    · cases done
      simp only [Option.isSome_none, Bool.false_eq_true, iff_false]
      intro same
      rw [same] at known
      rw [show store.getKMSKey id = some _ from known] at found
      cases found
    · cases done

theorem sealWithKey_same_iff
    {source : Source} {algorithm requested : String}
    (done : sealWithKey config env store bucketRec source algorithm
      requested = (stored, .ok prepared)) :
    ∃ provider keyID, chooseKey config env bucketRec algorithm requested =
          .ok (provider, keyID) ∧
        (stored = store ↔ (store.getKMSKey keyID).isSome) := by
  unfold sealWithKey at done
  split at done
  · cases done
  · rename_i provider keyID chosen
    refine ⟨provider, keyID, chosen, ?_⟩
    split at done
    · cases done
    · rename_i ensured key row
      rw [(Prod.mk.inj done).1] at row
      exact ensureKMSKey_same_iff row

theorem prepare_same_iff
    {source : Source}
    (done : prepareObjectEncryption config env store bucketRec source =
      (stored, .ok prepared)) :
    stored = store ↔ KeyRowPresent config env store bucketRec := by
  have unneeded : neededKey config env bucketRec = none →
      KeyRowPresent config env store bucketRec := by
    intro none keyID needed
    rw [none] at needed
    cases needed
  have keyed : ∀ provider keyID,
      chooseKey config env bucketRec (resolveAlgo env bucketRec).1
          (resolveAlgo env bucketRec).2 = .ok (provider, keyID) →
        neededKey config env bucketRec =
            (match chooseKey config env bucketRec
                (resolveAlgo env bucketRec).1
                (resolveAlgo env bucketRec).2 with
              | .ok (_, keyID) => some keyID
              | .error _ => none) →
          (KeyRowPresent config env store bucketRec ↔
            (store.getKMSKey keyID).isSome) := by
    intro provider keyID chosen needed
    simp [KeyRowPresent, needed, chosen]
  unfold prepareObjectEncryption at done
  split at done
  · rename_i forced prescribed
    refine iff_of_true (Prod.mk.inj done).1.symm (unneeded ?_)
    simp [neededKey, prescribed]
  · rename_i free
    simp only at done
    by_cases empty : (resolveAlgo env bucketRec).1 = ""
    · rw [if_pos empty] at done
      refine iff_of_true (Prod.mk.inj done).1.symm (unneeded ?_)
      simp [neededKey, empty]
    · rw [if_neg empty] at done
      by_cases unknown :
          (resolveAlgo env bucketRec).1 ≠ sseAlgorithmAES256 ∧
            (resolveAlgo env bucketRec).1 ≠ sseAlgorithmKMS
      · rw [if_pos unknown] at done
        cases done
      · rw [if_neg unknown] at done
        by_cases upgrade : config.localKey.isSome ∧ env.upgrading ∧
            (resolveAlgo env bucketRec).1 = sseAlgorithmAES256
        · obtain ⟨key, isLocal⟩ := Option.isSome_iff_exists.mp upgrade.1
          simp only [isLocal, if_pos upgrade.2] at done
          refine iff_of_true (Prod.mk.inj done).1.symm (unneeded ?_)
          simp [neededKey, isLocal, upgrade.2]
        · have sealing : sealWithKey config env store bucketRec source
              (resolveAlgo env bucketRec).1 (resolveAlgo env bucketRec).2 =
                (stored, .ok prepared) := by
            split at done
            · rename_i key isLocal
              rw [if_neg (fun both => upgrade ⟨by simp [isLocal], both⟩)]
                at done
              exact done
            · exact done
          obtain ⟨provider, keyID, chosen, same⟩ :=
            sealWithKey_same_iff sealing
          rw [same, keyed provider keyID chosen]
          simp [neededKey, free, empty, upgrade]

/-! ## The condition -/

theorem backendReply_eq_some_iff
    {reply : Except BackendErr String} :
    backendReply config env world request = some reply ↔
      ∃ bucketRec stored prepared,
        Admitted config env world request bucketRec stored prepared ∧
          (written config env { world with store := stored }
            (normalizeBucketKey world.store request.bucket) request
            prepared).reply = reply := by
  constructor
  · intro answered
    unfold backendReply at answered
    simp only at answered
    split at answered
    · cases answered
    · rename_i bucketRec bucket
      split at answered
      · cases answered
      · rename_i quota
        split at answered
        · cases answered
        · rename_i stored prepared encryption
          exact ⟨_, _, _, ⟨bucket, quota, encryption⟩,
            Option.some.inj answered⟩
  · rintro ⟨bucketRec, stored, prepared, ⟨bucket, quota, encryption⟩, rfl⟩
    simp only [backendReply, bucket, quota, encryption]

/-! ## A put that has written -/

/-- A failed write of the put does not pass for a success. -/
def Unmasked (config : Config) (env : Env) (world : World)
    (request : PutRequest) : Prop :=
  ∀ err, backendReply config env world request = some (.error err) →
    ¬ Masked env world (normalizeBucketKey world.store request.bucket)
      request

/-- A put has written its body and committed its record. -/
structure WrittenPut (config : Config) (env : Env) (world : World)
    (request : PutRequest) (after : World) (record : ObjectRecord)
    (bucketRec : BucketRecord) (stored : Store) (prepared : Prepared)
    (info : ObjectInfo) : Prop where
  admitted : Admitted config env world request bucketRec stored prepared
  added : KeyAdded world.store stored
  writes : Writes config env { world with store := stored }
    (normalizeBucketKey world.store request.bucket) request prepared
  disk : after.disk = (written config env { world with store := stored }
    (normalizeBucketKey world.store request.bucket) request prepared).disk
  formed : record = putRecord env stored bucketRec
    (normalizeBucketKey world.store request.bucket) request prepared
    (targetOf env world (normalizeBucketKey world.store request.bucket)
      request).versionID
    ((written config env { world with store := stored }
      (normalizeBucketKey world.store request.bucket) request
      prepared).reply.toOption.getD "")
    (written config env { world with store := stored }
      (normalizeBucketKey world.store request.bucket) request
      prepared).extent info
  put : stored.putObject record
    (targetOf env world (normalizeBucketKey world.store request.bucket)
      request).versioned = .ok after.store

theorem WrittenPut.file
    {after : World} {record : ObjectRecord} {info : ObjectInfo}
    (wrote : WrittenPut config env world request after record bucketRec
      stored prepared info) :
    fileAt after.disk (dataPath record.bucket record.key
      record.versionID) = some ⟨prepared.body.data, env.modTime⟩ := by
  obtain ⟨etag, reply⟩ := written_ok_iff.mpr wrote.writes
  have file := fileAt_written_of_ok reply
  rw [wrote.added.targetPath_eq] at file
  rw [wrote.disk, wrote.formed]
  exact file

/-- A put that succeeds has written, if a failed write is not masked. -/
theorem putObject_written
    {after : World} {record : ObjectRecord}
    (unmasked : Unmasked config env world request)
    (done : putObject config env world request = (after, .ok record)) :
    ∃ bucketRec stored prepared info,
      WrittenPut config env world request after record bucketRec stored
        prepared info := by
  rcases putObject_cases config env world request with
    ⟨stored, err, added, refused⟩ | ⟨bucketRec, stored, prepared, admitted⟩
  · rw [refused] at done
    cases done
  · obtain ⟨added, _⟩ := admitted.outcome
    have outcome := admitted.put_outcome
    rw [done] at outcome
    cases outcome with
    | committed info committed record inPlace commits stat formed put =>
      rw [added.targetOf_eq] at formed put
      refine ⟨bucketRec, stored, prepared, info, admitted, added, ?_, rfl,
        formed, put⟩
      by_contra unwritten
      have hidden := (masked_iff unwritten).mpr ⟨inPlace, commits⟩
      unfold Masked at hidden
      rw [added.targetOf_eq, added.targetPath_eq] at hidden
      cases reply : (written config env { world with store := stored }
          (normalizeBucketKey world.store request.bucket) request
          prepared).reply with
      | ok etag => exact unwritten (written_ok_iff.mp ⟨etag, reply⟩)
      | error err =>
        exact unmasked err (backendReply_eq_some_iff.mpr
          ⟨bucketRec, stored, prepared, admitted, reply⟩) hidden

/-! ## When the failure is reported -/

/--
A put whose write fails returns an error and leaves the metadata alone if and
only if the suspended branch does not mask the failure and the encryption
needed no new key row.
-/
theorem failed_write_reported_iff
    (config : Config) (env : Env) (world : World) (request : PutRequest)
    (err : BackendErr)
    (failed : backendReply config env world request = some (.error err)) :
    Reported config env world request ↔
      ¬ Masked env world (normalizeBucketKey world.store request.bucket)
          request ∧
        ∀ bucketRec, world.store.getBucketByKey
            (normalizeBucketKey world.store request.bucket) =
              some bucketRec →
          KeyRowPresent config env world.store bucketRec := by
  obtain ⟨bucketRec, stored, prepared, admitted, reply⟩ :=
    backendReply_eq_some_iff.mp failed
  have unwritten : ¬ Writes config env { world with store := stored }
      (normalizeBucketKey world.store request.bucket) request prepared := by
    intro writes
    obtain ⟨etag, done⟩ := written_ok_iff.mpr writes
    rw [reply] at done
    cases done
  have maskedSame : Masked env { world with store := stored }
      (normalizeBucketKey world.store request.bucket) request ↔
        Masked env world (normalizeBucketKey world.store request.bucket)
          request := by
    obtain ⟨added, _⟩ := admitted.outcome
    unfold Masked
    rw [added.targetOf_eq, added.targetPath_eq]
  simp only [admitted.bucket, Option.some.injEq, forall_eq']
  rw [← prepare_same_iff admitted.encryption, ← maskedSame,
    masked_iff unwritten]
  unfold Reported
  have outcome := admitted.put_outcome
  generalize putObject config env world request = result at outcome ⊢
  cases outcome with
  | failed err why => simp [why]
  | committed info committed record inPlace commits stat formed put =>
    simp [inPlace, commits]

/-- A broken upload over the version of a suspended bucket succeeds. -/
theorem suspended_put_masks_failure :
    backendReply plainConfig (callEnv 5) (run plainConfig suspendedCalls)
        brokenPut = some (.error (.body .unexpectedEOF)) ∧
      ¬ Reported plainConfig (callEnv 5) (run plainConfig suspendedCalls)
        brokenPut := by
  refine ⟨by decide +kernel, ?_⟩
  rintro ⟨⟨err, reported⟩, _⟩
  have succeeds : (putObject plainConfig (callEnv 5)
      (run plainConfig suspendedCalls) brokenPut).2.toOption.isSome =
        true := by
    decide +kernel
  rw [reported] at succeeds
  cases succeeds

/-- The condition decides the broken upload. -/
theorem failed_write_reported_iff_broken :
    backendReply plainConfig (callEnv 5) (run plainConfig suspendedCalls)
        brokenPut = some (.error (.body .unexpectedEOF)) ∧
      (Reported plainConfig (callEnv 5) (run plainConfig suspendedCalls)
          brokenPut ↔
        ¬ Masked (callEnv 5) (run plainConfig suspendedCalls)
            (normalizeBucketKey (run plainConfig suspendedCalls).store
              brokenPut.bucket) brokenPut ∧
          ∀ bucketRec, (run plainConfig suspendedCalls).store.getBucketByKey
              (normalizeBucketKey (run plainConfig suspendedCalls).store
                brokenPut.bucket) = some bucketRec →
            KeyRowPresent plainConfig (callEnv 5)
              (run plainConfig suspendedCalls).store bucketRec) :=
  ⟨by decide +kernel, failed_write_reported_iff plainConfig (callEnv 5)
      (run plainConfig suspendedCalls) brokenPut (.body .unexpectedEOF)
      (by decide +kernel)⟩

end DataSafe.S3
