import DataSafe.S3.Versions

/-!
# Completing an upload

Completing a plain upload joins the parts at the path of the key and removes
them, and only then looks at the quota, moves the joined file aside as a
version and commits the record.  Completing a sealed upload puts the decrypted
parts and removes them whether the put succeeds or not.

An error is harmless if it comes before the parts are joined, or before the
put.  Behind these points an error loses the parts, so the completion is all
or nothing just when nothing behind them fails.
-/

namespace DataSafe.S3

open Base Kms Metadata Storage

/-! ## Moving the joined file aside -/

/-- No fault meets the file that is moved aside. -/
structure MovesAside (env : Env) (bucket key : String) : Prop where
  mayStat : env.faults .aside .stat (objectPath bucket key) = false
  mayOpen : env.faults .aside .openFile (objectPath bucket key) = false
  mayCopy : env.faults .aside .copy (objectPath bucket key) = false
  mayRemove : env.faults .aside .remove (objectPath bucket key) = false
  mayMake : env.faults .write .mkdirAll
    (dataPath bucket key (newVersionID env.versionID)).dropLast = false
  mayCreate : env.faults .write .create
    (tempSibling (dataPath bucket key (newVersionID env.versionID))
      env.tempName) = false
  copied : env.faults .write .copy
    (tempSibling (dataPath bucket key (newVersionID env.versionID))
      env.tempName) = false
  closed : env.faults .write .close
    (tempSibling (dataPath bucket key (newVersionID env.versionID))
      env.tempName) = false
  renamed : env.faults .write .rename
    (dataPath bucket key (newVersionID env.versionID)) = false

variable {blob : Blob} {random : RandomID}

section Aside

variable {config : Config} {env : Env} {disk : Disk} {bucket key : String}

/-- The new version lies below the path of its key. -/
theorem newVersion_path (env : Env) (bucket key : String) :
    dataPath bucket key (newVersionID env.versionID) =
      objectPath bucket key ++
        ["versions", (newVersionID env.versionID).text] := by
  have named := newVersionID_ne env.versionID
  unfold dataPath
  rw [if_neg named, versionPath_eq _ _ (VersionID.plainName named)]

theorem newVersion_temp (env : Env) (bucket key : String) :
    ∃ name, tempSibling (dataPath bucket key (newVersionID env.versionID))
        env.tempName = objectPath bucket key ++ ["versions", name] := by
  rw [newVersion_path, List.append_cons]
  exact ⟨_, by
    rw [tempSibling, List.dropLast_concat, List.append_assoc]
    rfl⟩

/-- Once a file is removed, a version can be written below its path. -/
theorem writable_below_removed
    {removed : Disk} (file : fileAt disk (objectPath bucket key) = some blob)
    (done : disk.remove (objectPath bucket key) = .ok removed)
    (mayMake : env.faults .write .mkdirAll (dataPath bucket key (newVersionID
      env.versionID)).dropLast = false)
    (mayCreate : env.faults .write .create (tempSibling (dataPath bucket key
      (newVersionID env.versionID)) env.tempName) = false) :
    Writable (env.write config .write) removed
      (dataPath bucket key (newVersionID env.versionID)) := by
  have isFile := fileAt_eq_some_iff.mp file
  have below : ∀ name rest, removed.find
      (objectPath bucket key ++ name :: rest) = none := by
    intro name rest
    rw [FileTree.find_remove done, if_neg (by simp)]
    exact disk.find_below_file isFile (List.prefix_append _ _) (by simp)
  obtain ⟨name, temp⟩ := newVersion_temp env bucket key
  have path := newVersion_path env bucket key
  refine ⟨?_, mayMake, mayCreate, ?_, ?_, ?_⟩
  · rw [path]
    simp
  · intro front under
    rw [path, List.append_cons, List.dropLast_concat] at under
    have notFile : ∀ blob, removed.find front ≠ some (.file blob) := by
      intro other
      rcases List.prefix_concat_iff.mp under with rfl | above
      · rw [below]
        simp
      · rw [FileTree.find_remove done]
        split_ifs with here
        · simp
        · by_cases same : front = objectPath bucket key
          · have root : objectPath bucket key = [] := by
              by_contra proper
              exact here ⟨same, proper⟩
            rw [root] at isFile
            cases isFile
          · obtain ⟨rest, whole⟩ := above
            rw [disk.find_append_of_isSome front rest
              (by rw [whole, isFile]; rfl)
              (by rintro rfl; exact same (by simpa using whole))]
            simp
    cases found : fileAt removed front with
    | none => rfl
    | some other => exact absurd (fileAt_eq_some_iff.mp found) (notFile _)
  · rw [path, below]
    simp
  · show removed.find (tempSibling _ env.tempName) ≠ _
    rw [temp, below]
    simp

theorem moveAside_ok_iff
    (file : fileAt disk (objectPath bucket key) = some blob) :
    (moveAside config env disk bucket key (newVersionID env.versionID)
        blob.data.length).2 = .ok () ↔ MovesAside env bucket key := by
  obtain ⟨removed, done⟩ := disk.remove_file (fileAt_eq_some_iff.mp file)
  constructor
  · intro moved
    unfold moveAside at moved
    simp only at moved
    split at moved
    · cases moved
    · rename_i data read
      obtain ⟨mayStat, mayOpen, _⟩ := readPath_ok_iff.mp read
      split_ifs at moved with faulty
      have mayCopy : env.faults .aside .copy (objectPath bucket key) =
          false := by simpa using faulty
      have mayRemove : env.faults .aside .remove (objectPath bucket key) =
          false := by
        by_contra refused
        rw [Bool.not_eq_false] at refused
        simp [deletePath, refused] at moved
      simp only [deletePath, mayRemove, Bool.false_eq_true, if_false, done]
        at moved
      unfold moveAside.again at moved
      simp only at moved
      split at moved
      · cases moved
      · rename_i etag reply
        obtain ⟨writable, copies⟩ := writable_of_reply_ok reply
        exact ⟨mayStat, mayOpen, mayCopy, mayRemove, writable.mayMake,
          writable.mayCreate, copies.copied, copies.closed,
          copies.renamed⟩
  · rintro ⟨mayStat, mayOpen, mayCopy, mayRemove, mayMake, mayCreate,
      copied, closed, renamed⟩
    have read : readPath config.md5 (env.faults .aside) disk
        (objectPath bucket key) = .ok blob.data :=
      readPath_ok_iff.mpr ⟨mayStat, mayOpen, blob, file, rfl⟩
    have writable : Writable (env.write config .write) removed
        (dataPath bucket key (newVersionID env.versionID)) :=
      writable_below_removed file done mayMake mayCreate
    have copies : Copies (env.write config .write)
        (dataPath bucket key (newVersionID env.versionID))
        ⟨blob.data, .eof⟩ blob.data.length :=
      ⟨copied, rfl, closed, fun _ => rfl, renamed⟩
    unfold moveAside
    simp only [read, mayCopy, Bool.false_eq_true, if_false, deletePath,
      mayRemove, done, moveAside.again, putPath,
      writeFile_reply_ok writable copies]

/-- Moving aside changes no file but the joined one and the new version. -/
theorem fileAt_moveAside_of_ne
    {size : Int} {other : Path} (flat : other ≠ objectPath bucket key)
    (version : other ≠ dataPath bucket key (newVersionID env.versionID))
    (temp : other ≠ tempSibling
      (dataPath bucket key (newVersionID env.versionID)) env.tempName) :
    fileAt (moveAside config env disk bucket key
        (newVersionID env.versionID) size).1 other =
      fileAt disk other := by
  have again : ∀ disk data, fileAt (moveAside.again config env bucket key
      (newVersionID env.versionID) size disk data).1 other =
        fileAt disk other := by
    intro disk data
    unfold moveAside.again
    simp only
    split <;> exact fileAt_writeFile_of_ne version temp
  unfold moveAside
  simp only
  split
  · rfl
  · split_ifs
    · rfl
    · split
      · exact again _ _
      · rfl
      · rename_i deleted done
        rw [again]
        exact fileAt_deletePath_of_ne done flat

end Aside

/-! ## Completing a plain upload -/

/-- What the parts of an upload hold together. -/
def joinedBody (env : Env) (world : World) (bucket key uploadID : String)
    (parts : List Nat) : Body :=
  partsBody (env.faults .complete) world.disk bucket key uploadID parts

/-- The parts are all there and can be joined at the path of the key. -/
def Joins (config : Config) (env : Env) (world : World)
    (bucket key uploadID : String) (parts : List Nat) : Prop :=
  Writable (env.write config .complete) world.disk (objectPath bucket key) ∧
    Copies (env.write config .complete) (objectPath bucket key)
      (joinedBody env world bucket key uploadID parts) (-1)

/-- Nothing fails behind the join: stat, quota, move and commit. -/
structure Settles (env : Env) (world : World) (bucket key : String)
    (size : Int) (bucketRec : BucketRecord) : Prop where
  mayStat : env.faults .stat .stat (objectPath bucket key) = false
  mayOpen : env.faults .stat .openFile (objectPath bucket key) = false
  found : world.store.getBucketByKey bucket = some bucketRec
  quota : checkQuota world.store bucketRec bucket key size = .ok ()
  aside : BucketVersioned bucketRec = true → MovesAside env bucket key
  mayPut : env.transactionFails .putObject = false

section Plain

variable {config : Config} {env : Env} {world : World}
  {bucket key uploadID : String} {parts : List Nat}

/-- The write that joins the parts. -/
def joinParts (config : Config) (env : Env) (world : World)
    (bucket key uploadID : String) (parts : List Nat) : Written :=
  writeFile (env.write config .complete) world.disk (objectPath bucket key)
    (joinedBody env world bucket key uploadID parts) (-1) .partSizeMismatch

/-- The disk once the parts are joined and removed. -/
def joinedDisk (config : Config) (env : Env) (world : World)
    (bucket key uploadID : String) (parts : List Nat) : Disk :=
  removeAllQuietly (env.faults .complete)
    (joinParts config env world bucket key uploadID parts).disk
    (multipartDir bucket key uploadID)

theorem joinParts_ok_iff :
    (∃ etag, (joinParts config env world bucket key uploadID parts).reply =
        .ok etag) ↔
      Joins config env world bucket key uploadID parts :=
  writeFile_ok_iff

theorem concatParts_of_joins
    (joins : Joins config env world bucket key uploadID parts) :
    (concatParts (env.write config .complete) world.disk bucket key
        uploadID parts).disk =
      joinedDisk config env world bucket key uploadID parts ∧
    ∃ etag, (concatParts (env.write config .complete) world.disk bucket key
      uploadID parts).reply = .ok etag := by
  obtain ⟨etag, reply⟩ := joinParts_ok_iff.mpr joins
  unfold concatParts joinedDisk joinParts joinedBody
  simp only
  split
  · rename_i err failed
    exact absurd (failed.symm.trans reply) (by simp)
  · rename_i other done
    exact ⟨rfl, other, done⟩

section

variable (apart : ¬ Joins config env world bucket key uploadID parts)
  (joins : Joins config env world bucket key (hexEncode random.bytes) parts)
  (upload : MultipartRecord)

include apart joins

omit joins in
theorem concatParts_of_not_joins :
    ∃ err, concatParts (env.write config .complete) world.disk bucket key
        uploadID parts =
      joinParts config env world bucket key uploadID parts ∧
    (joinParts config env world bucket key uploadID parts).reply =
      .error err := by
  cases reply :
      (joinParts config env world bucket key uploadID parts).reply with
  | ok etag => exact absurd (joinParts_ok_iff.mp ⟨etag, reply⟩) apart
  | error err =>
    refine ⟨err, ?_, rfl⟩
    have failed := reply
    unfold concatParts
    simp only
    split
    · rfl
    · rename_i etag done
      exact absurd (done.symm.trans failed) (by simp)

omit apart in
/-- The joined file survives the removal of the parts. -/
theorem fileAt_joinedDisk :
    fileAt (joinedDisk config env world bucket key
        (hexEncode random.bytes) parts) (objectPath bucket key) =
      some ⟨(joinedBody env world bucket key (hexEncode random.bytes)
        parts).data, env.modTime⟩ := by
  obtain ⟨etag, reply⟩ := joinParts_ok_iff.mpr joins
  unfold joinedDisk
  rw [fileAt_removeAllQuietly, if_neg]
  · exact (fileAt_writeFile_of_ok reply).1
  · rintro ⟨_, under⟩
    exact dataPath_not_below_multipartDir bucket key random .null under

omit apart joins in
/-- The store accepts the record of a completed upload. -/
theorem putObject_completed_ok
    (store : Store) (record : ObjectRecord) (versioned : Bool)
    (named : versioned = true → record.versionID.text ≠ "") :
    ∃ stored, store.putObject record versioned = .ok stored := by
  cases versioned with
  | false => exact ⟨_, rfl⟩
  | true => exact Store.putObjectTx_versioned_ok_iff.mpr (named rfl)

omit apart joins in
/-- The commit of a joined file succeeds unless it meets a fault. -/
theorem commitCompleted_ok_iff
    {disk : Disk} {bucketRec : BucketRecord}
    (file : fileAt disk (objectPath bucket key) = some blob)
    (upload : MultipartRecord) (etag : String) :
    (∃ record, (commitCompleted config env { world with disk := disk }
        bucketRec upload bucket key uploadID etag
        blob.data.length).2 = .ok record) ↔
      (BucketVersioned bucketRec = true → MovesAside env bucket key) ∧
        env.transactionFails .putObject = false := by
  have settled : (settleParts config env disk bucket key blob.data.length
      (BucketVersioned bucketRec)).2 = .ok () ↔
        (BucketVersioned bucketRec = true → MovesAside env bucket key) := by
    cases BucketVersioned bucketRec with
    | false => simp [settleParts]
    | true => simpa [settleParts] using moveAside_ok_iff file
  rw [← settled]
  unfold commitCompleted
  simp only
  split
  · rename_i moved err failed
    simp [failed]
  · rename_i moved done
    rw [done]
    obtain ⟨stored, put⟩ := putObject_completed_ok world.store
      (completedRecord env upload bucket key etag blob.data.length
        (if BucketVersioned bucketRec then newVersionID env.versionID
          else .null)) (BucketVersioned bucketRec) (by
            intro versioned
            simp only [versioned]
            exact newVersionID_ne _)
    split
    · rename_i err failed
      have faulty : env.transactionFails .putObject = true := by
        by_contra quiet
        rw [Bool.not_eq_true] at quiet
        rw [Env.transact_eq_ok_iff.mpr ⟨quiet, put⟩] at failed
        cases failed
      simp [faulty]
    · rename_i committed passed
      simp [(Env.transact_eq_ok_iff.mp passed).1]

omit apart in
theorem completePlain_ok_iff :
    (∃ record, (completePlain config env world upload bucket key
        (hexEncode random.bytes) parts).2 = .ok record) ↔
      ∃ bucketRec, Settles env world bucket key
        (joinedBody env world bucket key (hexEncode random.bytes)
          parts).data.length bucketRec := by
  obtain ⟨disk, etag, reply⟩ := concatParts_of_joins joins
  have file := fileAt_joinedDisk joins
  unfold completePlain
  simp only [reply, disk]
  constructor
  · rintro ⟨record, done⟩
    split at done
    · cases done
    · rename_i info stat
      obtain ⟨mayStat, mayOpen, blob, found, rfl⟩ :=
        statPath_ok_iff.mp stat
      rw [file] at found
      cases found
      split at done
      · cases done
      · rename_i bucketRec lookup
        split at done
        · cases done
        · rename_i passed quota
          obtain ⟨aside, mayPut⟩ := (commitCompleted_ok_iff file upload
            etag).mp ⟨record, done⟩
          exact ⟨bucketRec, mayStat, mayOpen, lookup, quota, aside, mayPut⟩
  · rintro ⟨bucketRec, mayStat, mayOpen, lookup, quota, aside, mayPut⟩
    have stat : statPath config.md5 (env.faults .stat)
        (joinedDisk config env world bucket key (hexEncode random.bytes)
          parts) (objectPath bucket key) = .ok _ :=
      statPath_ok_iff.mpr ⟨mayStat, mayOpen, _, file, rfl⟩
    simp only [stat, lookup, quota]
    exact (commitCompleted_ok_iff file upload etag).mpr ⟨aside, mayPut⟩

omit apart joins in
/-- A part does not lie where objects are written. -/
theorem partPath_ne
    {number : Nat} {other : Path}
    (apart : ¬ multipartDir bucket key (hexEncode random.bytes) <+: other) :
    partPath bucket key (hexEncode random.bytes) number ≠ other := by
  rintro rfl
  exact apart (List.prefix_append _ _)

omit apart in
/-- Behind the join the parts are gone, whatever happens then. -/
theorem fileAt_part_of_joins
    (cleans : env.faults .complete .removeAll
      (multipartDir bucket key (hexEncode random.bytes)) = false)
    (upload : MultipartRecord) (number : Nat) :
    fileAt (completePlain config env world upload bucket key
        (hexEncode random.bytes) parts).1.disk
      (partPath bucket key (hexEncode random.bytes) number) = none := by
  obtain ⟨disk, etag, reply⟩ := concatParts_of_joins joins
  have gone : fileAt (joinedDisk config env world bucket key
      (hexEncode random.bytes) parts)
      (partPath bucket key (hexEncode random.bytes) number) = none := by
    unfold joinedDisk
    rw [fileAt_removeAllQuietly, if_pos]
    exact ⟨cleans, List.prefix_append _ _⟩
  have settled : ∀ size versioned, fileAt (settleParts config env
      (joinedDisk config env world bucket key (hexEncode random.bytes)
        parts) bucket key size versioned).1
      (partPath bucket key (hexEncode random.bytes) number) = none := by
    intro size versioned
    cases versioned with
    | false => exact gone
    | true =>
      refine (fileAt_moveAside_of_ne ?_ ?_ ?_).trans gone
      · exact partPath_ne (dataPath_not_below_multipartDir _ _ _ .null)
      · exact partPath_ne (dataPath_not_below_multipartDir _ _ _ _)
      · exact partPath_ne (temp_not_below_multipartDir _ _ _ _ _)
  unfold completePlain
  simp only [reply, disk]
  split
  · exact gone
  · split
    · exact gone
    · rename_i bucketRec lookup
      split
      · exact gone
      · rename_i info stat _ passed quota
        have after := settled info.size (BucketVersioned bucketRec)
        unfold commitCompleted
        simp only
        split
        · rename_i moved err failed
          rw [failed] at after
          exact after
        · rename_i moved done
          rw [done] at after
          split <;> exact after

omit apart joins in
/-- Parts that cannot be joined stay as they are. -/
theorem fileAt_part_of_not_joins
    (apart : ¬ Joins config env world bucket key (hexEncode random.bytes)
      parts) (upload : MultipartRecord) (number : Nat) :
    fileAt (completePlain config env world upload bucket key
        (hexEncode random.bytes) parts).1.disk
      (partPath bucket key (hexEncode random.bytes) number) =
        fileAt world.disk
          (partPath bucket key (hexEncode random.bytes) number) := by
  obtain ⟨err, same, reply⟩ := concatParts_of_not_joins apart
  unfold completePlain
  simp only [same, reply]
  apply fileAt_writeFile_of_ne
  · exact partPath_ne (dataPath_not_below_multipartDir _ _ _ .null)
  · exact partPath_ne (temp_not_below_multipartDir _ _ _ .null _)

omit joins in
/-- Nor do the objects of the key change. -/
theorem fileAt_object_of_not_joins
    (versionID : VersionID) :
    fileAt (completePlain config env world upload bucket key uploadID
        parts).1.disk (dataPath bucket key versionID) =
      fileAt world.disk (dataPath bucket key versionID) := by
  obtain ⟨err, same, reply⟩ := concatParts_of_not_joins apart
  unfold completePlain
  simp only [same, reply]
  by_cases null : versionID = .null
  · rw [null]
    exact fileAt_writeFile_of_error reply
  · apply fileAt_writeFile_of_ne
    · intro flat
      exact null (dataPath_injective (flat.trans rfl))
    · exact (tempSibling_dataPath_ne bucket key .null _ _).symm

omit joins in
theorem store_of_not_joins :
    (completePlain config env world upload bucket key uploadID
      parts).1.store = world.store := by
  obtain ⟨err, same, reply⟩ := concatParts_of_not_joins apart
  unfold completePlain
  simp only [same, reply]

end

end Plain

/-! ## All or nothing -/

/-- The row and the parts of an upload are as they were. -/
structure KeepsParts (before after : World)
    (bucket key uploadID : String) : Prop where
  row : after.store.getMultipart uploadID =
    before.store.getMultipart uploadID
  files : ∀ number, fileAt after.disk (partPath bucket key uploadID number) =
      fileAt before.disk (partPath bucket key uploadID number)

/-- A completion that fails leaves the object and the upload alone. -/
def AllOrNothing (config : Config) (env : Env) (world : World)
    (bucket key uploadID : String) (parts : List Nat) : Prop :=
  ∀ err, (completeMultipart config env world bucket key uploadID
      parts).2 = .error err →
    KeepsObject config world (completeMultipart config env world bucket key
        uploadID parts).1 bucket key ∧
      KeepsParts world (completeMultipart config env world bucket key
        uploadID parts).1 (normalizeBucketKey world.store bucket) key
        uploadID

/--
The completion fails early or not at all: before the parts are joined, or
before the put of a sealed upload.
-/
def FailsEarly (config : Config) (env : Env) (world : World)
    (bucket key uploadID : String) (parts : List Nat) : Prop :=
  ∀ upload, findUpload world.store bucket key uploadID = .ok upload →
    match sealedUpload upload with
    | none =>
      Joins config env world bucket key uploadID parts →
        ∃ bucketRec, Settles env world bucket key
          (joinedBody env world bucket key uploadID parts).data.length
          bucketRec
    | some encryption =>
      ∀ dek, unwrapDEK config env world.store encryption = .ok dek →
        PutSucceeds config (env.force upload.encryption) world
          (completeRequest config env world.disk upload dek bucket key
            uploadID parts)

/-- The directory of an upload can be removed. -/
def Cleans (env : Env) (bucket key uploadID : String) : Prop :=
  ∀ stage, env.faults stage .removeAll
    (multipartDir bucket key uploadID) = false

section Completion

variable {config : Config} {env : Env} {world : World}
  {bucket key uploadID : String} {parts : List Nat}

theorem keepsObject_of_files
    {after : World} (config : Config) (sound : Sound world.store)
    (store : after.store = world.store)
    (files : ∀ versionID, fileAt after.disk (dataPath (normalizeBucketKey
      world.store bucket) key versionID) = fileAt world.disk (dataPath
      (normalizeBucketKey world.store bucket) key versionID)) :
    KeepsObject config world after bucket key := by
  obtain ⟨_, disk⟩ := after
  cases store
  intro reader result readable
  exact ((agreeOn_keyAdded sound .same
    (fun record _ => files record.versionID)).getObject_ok_iff config
      reader result).mpr readable

/-- The two ways to complete an upload that is found. -/
theorem completeMultipart_of_found
    {upload : MultipartRecord}
    (found : findUpload world.store (normalizeBucketKey world.store bucket)
      key uploadID = .ok upload) :
    completeMultipart config env world bucket key uploadID parts =
      match sealedUpload upload with
      | some encryption =>
        completeEncrypted config env world upload encryption
          (normalizeBucketKey world.store bucket) key uploadID parts
      | none =>
        completePlain config env world upload
          (normalizeBucketKey world.store bucket) key uploadID parts := by
  cases kind : sealedUpload upload <;>
    simp only [completeMultipart, found, kind]

theorem allOrNothing_of_failsEarly
    (sound : Sound world.store)
    (early : FailsEarly config env world
      (normalizeBucketKey world.store bucket) key uploadID parts) :
    AllOrNothing config env world bucket key uploadID parts := by
  intro err failed
  cases found : findUpload world.store
      (normalizeBucketKey world.store bucket) key uploadID with
  | error refusal =>
    simp only [completeMultipart, found]
    exact ⟨fun _ _ readable => readable, rfl, fun _ => rfl⟩
  | ok upload =>
    rw [completeMultipart_of_found found] at failed ⊢
    have settled := early upload found
    have fits := sound.uploads uploadID upload (findUpload_ok found).1
    obtain ⟨random, rfl⟩ := fits.generated
    cases isSealed : sealedUpload upload with
    | some encryption =>
      simp only [isSealed] at settled failed ⊢
      cases unwrapped : unwrapDEK config env world.store encryption with
      | error refusal =>
        simp only [completeEncrypted, unwrapped]
        exact ⟨fun _ _ readable => readable, rfl, fun _ => rfl⟩
      | ok dek =>
        obtain ⟨record, done⟩ :=
          putObject_ok_iff.mpr (settled dek unwrapped)
        simp only [completeEncrypted, unwrapped, done] at failed
        cases failed
    | none =>
      simp only [isSealed] at settled failed ⊢
      by_cases joins : Joins config env world
          (normalizeBucketKey world.store bucket) key
          (hexEncode random.bytes) parts
      · obtain ⟨record, done⟩ :=
          (completePlain_ok_iff joins upload).mpr (settled joins)
        rw [done] at failed
        cases failed
      · have store := store_of_not_joins joins upload
        exact ⟨keepsObject_of_files config sound store
            (fileAt_object_of_not_joins joins upload), by rw [store],
          fileAt_part_of_not_joins joins upload⟩

theorem failsEarly_of_allOrNothing
    (sound : Sound world.store) {number : Nat}
    (stored : (fileAt world.disk (partPath (normalizeBucketKey world.store
      bucket) key uploadID number)).isSome)
    (cleans : Cleans env (normalizeBucketKey world.store bucket) key uploadID)
    (whole : AllOrNothing config env world bucket key uploadID parts) :
    FailsEarly config env world (normalizeBucketKey world.store bucket) key
      uploadID parts := by
  intro upload found
  have fits := sound.uploads uploadID upload (findUpload_ok found).1
  -- An error behind the point of no return finds the part gone.
  have kept : ∀ err, (completeMultipart config env world bucket key uploadID
      parts).2 = .error err →
        fileAt (completeMultipart config env world bucket key uploadID
          parts).1.disk (partPath (normalizeBucketKey world.store bucket)
            key uploadID number) ≠ none := by
    intro err failed gone
    rw [(whole err failed).2.files number] at gone
    rw [gone] at stored
    cases stored
  rw [completeMultipart_of_found found] at kept
  obtain ⟨random, rfl⟩ := fits.generated
  cases isSealed : sealedUpload upload with
  | some encryption =>
    simp only [isSealed] at kept ⊢
    intro dek unwrapped
    rw [← putObject_ok_iff]
    simp only [completeEncrypted, unwrapped] at kept
    cases result : (putObject config (env.force upload.encryption) world
        (completeRequest config env world.disk upload dek
          (normalizeBucketKey world.store bucket) key
          (hexEncode random.bytes) parts)).2 with
    | ok record => exact ⟨record, rfl⟩
    | error err =>
      simp only [result] at kept
      refine absurd ?_ (kept err rfl)
      rw [fileAt_removeAllQuietly, if_pos]
      exact ⟨cleans .abort, List.prefix_append _ _⟩
  | none =>
    simp only [isSealed] at kept ⊢
    intro joins
    rw [← completePlain_ok_iff joins upload]
    cases result : (completePlain config env world upload
        (normalizeBucketKey world.store bucket) key
        (hexEncode random.bytes) parts).2 with
    | ok record => exact ⟨record, rfl⟩
    | error err =>
      exact absurd (fileAt_part_of_joins joins (cleans .complete) upload
        number) (kept err result)

end Completion

/--
In every reachable world a completion that fails early or not at all is all or
nothing, and as soon as one part is stored and can be removed, no other is.
-/
theorem completion_all_or_nothing_iff
    (config : Config) (calls : List Call) (env : Env)
    (bucket key uploadID : String) (parts : List Nat) :
    (FailsEarly config env (run config calls)
        (normalizeBucketKey (run config calls).store bucket) key uploadID
        parts →
      AllOrNothing config env (run config calls) bucket key uploadID parts) ∧
    ∀ number, (fileAt (run config calls).disk (partPath
        (normalizeBucketKey (run config calls).store bucket) key uploadID
        number)).isSome →
      Cleans env (normalizeBucketKey (run config calls).store bucket) key
        uploadID →
      (AllOrNothing config env (run config calls) bucket key uploadID parts ↔
        FailsEarly config env (run config calls)
          (normalizeBucketKey (run config calls).store bucket) key uploadID
          parts) :=
  ⟨allOrNothing_of_failsEarly (sound_run config calls),
    fun _ stored cleans =>
      ⟨failsEarly_of_allOrNothing (sound_run config calls) stored cleans,
        allOrNothing_of_failsEarly (sound_run config calls)⟩⟩

/-! ## An upload over its quota -/

/--
An object of three bytes in a bucket that may hold four, and an upload of six
bytes onto its key.
-/
def uploadCalls : List Call :=
  plainCalls ++ [.updateBucket (callEnv 4)
        { storageKey := "b", name := "b", maxSizeBytes := 4 },
      .createMultipartUpload (callEnv 5) "b" "k" "" [],
      .uploadPart (callEnv 6) "b" "k" "05" 1
        (Source.ofBytes [4, 5, 6, 7, 8, 9]) 6]

/-- An upload over the quota loses the old object and its own parts. -/
theorem quota_error_loses_both :
    (completeMultipart plainConfig (callEnv 7)
        (run plainConfig uploadCalls) "b" "k" "05" [1]).2.toOption = none ∧
      (fileAt (run plainConfig uploadCalls).disk
        (objectPath "b" "k")).map Blob.data = some [1, 2, 3] ∧
      (fileAt (completeMultipart plainConfig (callEnv 7)
          (run plainConfig uploadCalls) "b" "k" "05" [1]).1.disk
        (objectPath "b" "k")).map Blob.data = some [4, 5, 6, 7, 8, 9] ∧
      ¬ AllOrNothing plainConfig (callEnv 7) (run plainConfig uploadCalls)
        "b" "k" "05" [1] := by
  refine ⟨by decide +kernel, by decide +kernel, by decide +kernel, ?_⟩
  intro whole
  have failed : (completeMultipart plainConfig (callEnv 7)
      (run plainConfig uploadCalls) "b" "k" "05" [1]).2.toOption = none := by
    decide +kernel
  cases result : (completeMultipart plainConfig (callEnv 7)
      (run plainConfig uploadCalls) "b" "k" "05" [1]).2 with
  | ok record =>
    rw [result] at failed
    cases failed
  | error err =>
    have files := (whole err result).2.files 1
    have gone : fileAt (completeMultipart plainConfig (callEnv 7)
        (run plainConfig uploadCalls) "b" "k" "05" [1]).1.disk
        (partPath (normalizeBucketKey
          (run plainConfig uploadCalls).store "b") "k" "05" 1) = none := by
      decide +kernel
    have stored : (fileAt (run plainConfig uploadCalls).disk
        (partPath (normalizeBucketKey
          (run plainConfig uploadCalls).store "b") "k" "05"
          1)).isSome := by
      decide +kernel
    rw [← files, gone] at stored
    cases stored

theorem missing_part_failsEarly :
    FailsEarly plainConfig (callEnv 7) (run plainConfig uploadCalls)
      (normalizeBucketKey (run plainConfig uploadCalls).store "b") "k" "05"
      [2] := by
  intro upload found
  have plain : (findUpload (run plainConfig uploadCalls).store
      (normalizeBucketKey (run plainConfig uploadCalls).store "b") "k"
      "05").toOption.all (fun upload => (sealedUpload upload).isNone) := by
    decide +kernel
  rw [found] at plain
  have unsealed : sealedUpload upload = none :=
    Option.isNone_iff_eq_none.mp plain
  simp only [unsealed]
  intro joins
  have incomplete : (joinedBody (callEnv 7) (run plainConfig uploadCalls)
      (normalizeBucketKey (run plainConfig uploadCalls).store "b") "k" "05"
      [2]).ending ≠ .eof := by
    decide +kernel
  exact absurd joins.2.complete incomplete

/-- A completion that names a part which is not there loses nothing. -/
theorem completion_all_or_nothing_missing :
    (completeMultipart plainConfig (callEnv 7)
        (run plainConfig uploadCalls) "b" "k" "05" [2]).2.toOption = none ∧
      AllOrNothing plainConfig (callEnv 7) (run plainConfig uploadCalls)
        "b" "k" "05" [2] :=
  ⟨by decide +kernel,
    (completion_all_or_nothing_iff plainConfig uploadCalls (callEnv 7) "b"
      "k" "05" [2]).1 missing_part_failsEarly⟩

end DataSafe.S3
