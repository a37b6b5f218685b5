import DataSafe.S3.Versions

/-!
# Overwrites and stored versions

With active versioning, as Object Lock imposes it, a write to a key adds a
version or is refused, and every version that is stored stays readable by its
id with its record and bytes, whether it is held or not.  Without versioning
a write replaces the object, and no write path asks for a legal hold or a
retention.

An object without a version id lies at the path of its key.  Its file keeps
new versions out, so puts and copies are refused there.  A completed upload is
first joined at that very path; nothing is said about it here.
-/

namespace DataSafe.S3

open Base Kms Metadata Storage

/-- A version with its file, in a bucket with active versioning. -/
structure Kept (world : World) (row : RowKey) (record : ObjectRecord) :
    Prop where
  version : IsVersion world.store row record
  active : versioningActive world.store row.bucket = true
  file : (fileAt world.disk
    (dataPath row.bucket row.key record.versionID)).isSome

/-- What a read of the version returned, it still returns. -/
def StillReads (config : Config) (before after : World) (row : RowKey) :
    Prop :=
  ∀ reader result,
    (getObject config reader before row.bucket row.key row.versionID).2 =
        .ok result →
      (getObject config reader after row.bucket row.key row.versionID).2 =
        .ok result

/-- A write to the key of the version that draws another id. -/
def WritesBeside (row : RowKey) (world : World) : Call → Prop
  | .putObject env request =>
    normalizeBucketKey world.store request.bucket = row.bucket ∧
      request.key = row.key ∧
      (newVersionID env.versionID).text ≠ row.versionID
  | .copyObject env _ _ dstBucket dstKey =>
    normalizeBucketKey world.store dstBucket = row.bucket ∧
      dstKey = row.key ∧
      (newVersionID env.versionID).text ≠ row.versionID
  | .completeMultipartUpload env bucket key _ _ =>
    normalizeBucketKey world.store bucket = row.bucket ∧ key = row.key ∧
      (newVersionID env.versionID).text ≠ row.versionID ∧
      row.versionID ≠ ""
  | _ => False

variable {bucket key : String}

section Steps

variable {config : Config} {env : Env} {world : World} {row : RowKey}
  {record : ObjectRecord}

/-- The record of a version carries the id of its row. -/
theorem IsVersion.text_eq
    {store : Store} (version : IsVersion store row record)
    (sound : Sound store) : record.versionID.text = row.versionID := by
  by_cases unnamed : row.versionID = ""
  · rw [(sound.rows row record version.stored).null unnamed, unnamed]
    rfl
  · exact (store.object_row row record version.stored).2.2 unnamed

/-- A version whose row and file are as before reads as before. -/
theorem IsVersion.stillReads
    {after : World} (version : IsVersion world.store row record)
    (sound : Sound world.store) (later : IsVersion after.store row record)
    (buckets : after.store.buckets = world.store.buckets)
    (keys : KeysGrow world.store after.store)
    (file : fileAt after.disk (dataPath row.bucket row.key record.versionID) =
      fileAt world.disk (dataPath row.bucket row.key record.versionID)) :
    StillReads config world after row := by
  have normal : normalizeBucketKey world.store row.bucket = row.bucket :=
    normalizeBucketKey_of_isSome _ version.bucket
  have agree : AgreeOn world after row.bucket row.key row.versionID :=
    { buckets := buckets
      lookup := by rw [normal, version.lookup, later.lookup]
      keys := keys
      known := fun _ encryption found marked =>
        sound.record found encryption marked
      file := by
        intro found lookup
        rw [normal, version.lookup] at lookup
        cases lookup
        rw [normal]
        exact file }
  exact fun reader result =>
    (agree.getObject_ok_iff config reader result).mpr

theorem StillReads.trans
    {first second third : World} (left : StillReads config first second row)
    (right : StillReads config second third row) :
    StillReads config first third row :=
  fun reader result readable =>
    right reader result (left reader result readable)

/-! ## Put -/

/-- With active versioning a put changes the file of no other version. -/
theorem fileAt_putObject_of_active
    (config : Config) (env : Env) (world : World) (request : PutRequest)
    {versionID : VersionID}
    (active : versioningActive world.store
      (normalizeBucketKey world.store request.bucket) = true)
    (other : versionID ≠ newVersionID env.versionID) :
    fileAt (putObject config env world request).1.disk
        (dataPath (normalizeBucketKey world.store request.bucket)
          request.key versionID) =
      fileAt world.disk
        (dataPath (normalizeBucketKey world.store request.bucket)
          request.key versionID) := by
  have untouched : ∀ stored prepared, KeyAdded world.store stored →
      fileAt (written config env { world with store := stored }
          (normalizeBucketKey world.store request.bucket) request
          prepared).disk
          (dataPath (normalizeBucketKey world.store request.bucket)
            request.key versionID) =
        fileAt world.disk
          (dataPath (normalizeBucketKey world.store request.bucket)
            request.key versionID) := by
    intro stored prepared added
    have target := targetOf_active env world request active
    have path : targetPath env world
        (normalizeBucketKey world.store request.bucket) request =
          dataPath (normalizeBucketKey world.store request.bucket)
            request.key (newVersionID env.versionID) := by
      unfold targetPath
      rw [target]
      rfl
    rw [fileAt_written_of_ne, added.targetDisk_eq]
    · unfold targetDisk
      rw [target]
      rfl
    · rw [added.targetPath_eq, path]
      exact fun same => other (dataPath_injective same)
    · exact (tempSibling_dataPath_ne _ _ _ _ _).symm
  have ends := putObject_end config env world request
  generalize putObject config env world request = result at ends ⊢
  cases ends with
  | refused stored err added => rfl
  | failed bucketRec stored prepared err admitted added why =>
    exact untouched stored prepared added
  | committed bucketRec stored prepared info committed record admitted
      added inPlace formed put =>
      exact untouched stored prepared added

theorem Kept.putObject
    (kept : Kept world row record) (sound : Sound world.store)
    (config : Config) (env : Env) (request : PutRequest)
    (sameBucket : normalizeBucketKey world.store request.bucket = row.bucket)
    (sameKey : request.key = row.key)
    (other : (newVersionID env.versionID).text ≠ row.versionID) :
    Kept (S3.putObject config env world request).1 row record ∧
      StillReads config world (S3.putObject config env world request).1
        row := by
  have text := kept.version.text_eq sound
  have null : row.versionID = "" → (fileAt world.disk
      (objectPath row.bucket row.key)).isSome := by
    intro unnamed
    have file := kept.file
    unfold dataPath at file
    rw [if_pos (text.trans unnamed)] at file
    exact file
  have later := kept.version.putObject config world
    (show PutBeside env world row request from
      fun _ _ => ⟨kept.active, null, other⟩)
  have file : fileAt (S3.putObject config env world request).1.disk
      (dataPath row.bucket row.key record.versionID) = fileAt world.disk
          (dataPath row.bucket row.key record.versionID) := by
    have distinct : record.versionID ≠ newVersionID env.versionID := by
      intro same
      rw [← same] at other
      exact other text
    have untouched := fileAt_putObject_of_active config env world request
      (by rw [sameBucket]; exact kept.active) distinct
    rw [sameBucket, sameKey] at untouched
    exact untouched
  have buckets := buckets_putObject config env world request
  refine ⟨⟨later, ?_, ?_⟩, kept.version.stillReads sound later buckets
    (keysGrow_putObject config env world request) file⟩
  · rw [versioningActive_congr buckets]
    exact kept.active
  · rw [file]
    exact kept.file

/-! ## Copy -/

/-- A read leaves the world as it is, or marks the object that it reads. -/
theorem getObject_marks
    (config : Config) (env : Env) (world : World)
    (sound : Sound world.store) (bucket key : String) :
    (getObject config env world bucket key "").1 = world ∨
      ∃ record data marker stored,
        readPath config.md5 (env.faults .read) world.disk
            (dataPath record.bucket record.key record.versionID) =
          .ok data ∧
        (openDecrypted config env world.store data record).1 = some marker ∧
        Store.Marked world.store stored
          ⟨record.bucket, record.key, record.versionID.text⟩ record
          marker ∧
        (getObject config env world bucket key "").1 =
          { world with store := stored } := by
  have normal := normalizeObjectBucket_normalizeBucketKey world.store bucket
  unfold S3.getObject
  simp only
  split_ifs
  · exact .inl rfl
  · split
    · exact .inl rfl
    · rename_i record found
      obtain ⟨sameBucket, sameKey, row⟩ := sound.row_of_lookup found
      rw [normal] at sameBucket
      split
      · exact .inl rfl
      · rename_i data read
        split
        · exact .inl rfl
        · rename_i marker result opened
          rw [← sameBucket] at normal found read
          rw [← sameKey] at found read
          rcases Store.setObjectEncryptionIfAbsent_current normal found row
            marker with same | marked
          · left
            rw [same]
          · exact .inr ⟨record, data, marker, _, read, by rw [opened],
              marked, rfl⟩

/-- A marker on the version does not change what a read of it returns. -/
theorem stillReads_of_marked
    {stored : Store} {marker : ObjectEncryption} {data : Bytes}
    (version : IsVersion world.store row record)
    (read : readPath config.md5 (env.faults .read) world.disk (dataPath
      record.bucket record.key record.versionID) = .ok data)
    (marks : (openDecrypted config env world.store data record).1 = some
      marker) (marked : Store.Marked world.store stored row record marker)
    (later : IsVersion stored row { record with encryption := some marker }) :
    StillReads config world { world with store := stored } row := by
  intro reader result readable
  have normal : normalizeBucketKey world.store row.bucket = row.bucket :=
    normalizeBucketKey_of_isSome _ version.bucket
  obtain ⟨sameBucket, sameKey, _⟩ :=
    world.store.object_row row record version.stored
  obtain ⟨alive, found, body, lookup, path, opened⟩ :=
    getObject_ok_iff.mp readable
  rw [normal] at lookup path
  rw [version.lookup] at lookup
  cases lookup
  have same : body = data := by
    rw [sameBucket, sameKey] at read
    obtain ⟨_, _, blob, file, rfl⟩ := readPath_ok_iff.mp read
    obtain ⟨_, _, other, otherFile, rfl⟩ := readPath_ok_iff.mp path
    rw [file] at otherFile
    cases otherFile
    rfl
  subst same
  have normalLater : normalizeBucketKey stored row.bucket = row.bucket :=
    normalizeBucketKey_of_isSome _ later.bucket
  have aliveLater : bucketKeyDestroyed stored row.bucket = false := by
    rw [bucketKeyDestroyed_of_keysGrow marked.rest.buckets
      (.of_eq marked.rest.kmsKeys), ← normal]
    exact alive
  rw [getObject_ok_iff]
  rw [normalLater]
  refine ⟨aliveLater, { record with encryption := some marker }, body,
    later.lookup, path, ?_⟩
  rw [openDecrypted_marked marks reader]
  exact opened

theorem Kept.getObject
    (kept : Kept world row record) (sound : Sound world.store)
    (config : Config) (env : Env) (bucket key : String) :
    ∃ later, Kept (S3.getObject config env world bucket key "").1 row later ∧
      StillReads config world
        (S3.getObject config env world bucket key "").1 row := by
  rcases getObject_marks config env world sound bucket key with
    same | ⟨found, data, marker, stored, read, marks, marked, after⟩
  · rw [same]
    exact ⟨record, kept, fun _ _ readable => readable⟩
  · rw [after]
    have bucketKept : (stored.getBucketByKey row.bucket).isSome := by
      unfold Store.getBucketByKey
      rw [marked.rest.buckets]
      exact kept.version.bucket
    have active : versioningActive stored row.bucket = true := by
      rw [versioningActive_congr marked.rest.buckets]
      exact kept.active
    by_cases here : row = ⟨found.bucket, found.key, found.versionID.text⟩
    · have sameRecord := kept.version.stored
      rw [here, marked.found] at sameRecord
      cases sameRecord
      have later : IsVersion stored row
          { record with encryption := some marker } :=
        ⟨bucketKept, by rw [marked.rows, if_pos here], fun unnamed => by
          rw [marked.latest]
          exact kept.version.flat unnamed⟩
      rw [← here] at marked
      exact ⟨_, ⟨later, active, kept.file⟩,
        stillReads_of_marked kept.version read marks marked later⟩
    · have later : IsVersion stored row record :=
        kept.version.mono bucketKept (by rw [marked.rows, if_neg here])
          (fun _ => by rw [marked.latest])
      exact ⟨record, ⟨later, active, kept.file⟩,
        kept.version.stillReads sound later marked.rest.buckets
          (.of_eq marked.rest.kmsKeys) rfl⟩

/-- With active versioning a put that succeeds has made a new version. -/
theorem row_of_putObject
    {request : PutRequest} {new : ObjectRecord}
    (active : versioningActive world.store
      (normalizeBucketKey world.store request.bucket) = true)
    (done : (putObject config env world request).2 = .ok new) :
    new.versionID = newVersionID env.versionID ∧
      ((putObject config env world request).1.store.objects.get
        ⟨normalizeBucketKey world.store request.bucket, request.key,
          (newVersionID env.versionID).text⟩).isSome := by
  have ends := putObject_end config env world request
  generalize putObject config env world request = result at ends done ⊢
  cases ends with
  | refused stored err added => cases done
  | failed bucketRec stored prepared err admitted added why => cases done
  | committed bucketRec stored prepared info committed record admitted
      added inPlace formed put =>
      cases done
      have target : targetOf env { world with store := stored }
          (normalizeBucketKey world.store request.bucket) request =
            .fresh (newVersionID env.versionID) := by
        rw [added.targetOf_eq]
        exact targetOf_active env world request active
      rw [target] at put formed
      have versionID : new.versionID = newVersionID env.versionID := by
        rw [formed]
        rfl
      refine ⟨versionID, ?_⟩
      have row : (⟨normalizeBucketKey world.store request.bucket,
          request.key, (newVersionID env.versionID).text⟩ : RowKey) =
          ⟨(stored.filed new).bucket, (stored.filed new).key,
            (stored.filed new).versionID.text⟩ := by
        have bucket : stored.normalizeObjectBucket
            (normalizeBucketKey world.store request.bucket) =
              normalizeBucketKey world.store request.bucket := by
          rw [Store.normalizeObjectBucket_congr added.buckets]
          exact normalizeObjectBucket_normalizeBucketKey _ _
        rw [formed]
        simp only [Store.filed, putRecord, bucket]
        rfl
      rw [row, Store.get_putObjectTx_versioned put, if_pos rfl]
      rfl

theorem Kept.tagCopy
    (kept : Kept world row record) (sound : Sound world.store)
    {copy : ObjectRecord}
    (normal : world.store.normalizeObjectBucket bucket = bucket)
    (made : (world.store.objects.get ⟨bucket, key,
      copy.versionID.text⟩).isSome) (named : copy.versionID.text ≠ "")
    (other : copy.versionID.text ≠ row.versionID)
    (tags : List (String × String)) :
    Kept ⟨S3.tagCopy env world.store bucket key copy tags, world.disk⟩ row
        record ∧
      StillReads config world
        ⟨S3.tagCopy env world.store bucket key copy tags, world.disk⟩
        row := by
  have unchanged : Kept world row record ∧
      StillReads config world world row :=
    ⟨kept, fun _ _ readable => readable⟩
  unfold S3.tagCopy
  split_ifs
  · exact unchanged
  · split
    · rename_i tagged done
      have rewrite := (Env.transact_eq_ok_iff.mp done).2
      obtain ⟨found, lookup, put⟩ := Store.rewriteObject_ok rewrite
      have rest := Store.putObjectTx_sameRest put
      rcases kept.version.rewriteObject sound normal rewrite
        ⟨fun _ => rfl, fun _ => rfl, fun _ => rfl, fun _ => rfl⟩ with
        later | ⟨_, _, hit, _⟩
      · refine ⟨⟨later, ?_, kept.file⟩, kept.version.stillReads sound later
          rest.buckets (.of_eq rest.kmsKeys) rfl⟩
        rw [versioningActive_congr rest.buckets]
        exact kept.active
      · exfalso
        obtain ⟨new, newRow⟩ := Option.isSome_iff_exists.mp made
        have mine : world.store.getObjectVersion bucket key
            copy.versionID.text = some new :=
          Store.getObjectVersion_of_row named (by rw [normal]; exact newRow)
        rw [hit] at mine
        cases mine
        have text := (world.store.object_row _ record newRow).2.2 named
        exact other (text.symm.trans (kept.version.text_eq sound))
    · exact unchanged

theorem Kept.copyObject
    (kept : Kept world row record) (sound : Sound world.store)
    (config : Config) (env : Env) (unforced : env.spec.forced = none)
    (srcBucket srcKey : String) {dstBucket dstKey : String}
    (sameBucket : normalizeBucketKey world.store dstBucket = row.bucket)
    (sameKey : dstKey = row.key)
    (other : (newVersionID env.versionID).text ≠ row.versionID) :
    ∃ later, Kept (S3.copyObject config env world srcBucket srcKey dstBucket
        dstKey).1 row later ∧
      StillReads config world (S3.copyObject config env world srcBucket
        srcKey dstBucket dstKey).1 row := by
  obtain ⟨later, keptRead, reads⟩ :=
    kept.getObject sound config env srcBucket srcKey
  have readSound : Sound (S3.getObject config env world srcBucket srcKey
      "").1.store := sound_getObject sound srcBucket srcKey ""
  have buckets : (S3.getObject config env world srcBucket srcKey
      "").1.store.buckets = world.store.buckets := by
    rcases getObject_marks config env world sound srcBucket srcKey with
      same | ⟨_, _, _, stored, _, _, marked, after⟩
    · rw [same]
    · rw [after]
      exact marked.rest.buckets
  unfold S3.copyObject
  split
  · rename_i read err got
    rw [got] at keptRead reads
    exact ⟨later, keptRead, reads⟩
  · rename_i read body source got
    rw [got] at keptRead reads readSound buckets
    have bucketHere : normalizeBucketKey read.store dstBucket =
        row.bucket := by
      rw [normalizeBucketKey_congr buckets]
      exact sameBucket
    obtain ⟨keptPut, putReads⟩ := keptRead.putObject readSound config env
      (copyRequest dstBucket dstKey body source) bucketHere sameKey other
    have putSound : Sound (S3.putObject config env read
        (copyRequest dstBucket dstKey body source)).1.store :=
      sound_putObject readSound _ (by
        rw [unforced]
        rintro encryption ⟨⟩)
    have putBuckets := buckets_putObject config env read
      (copyRequest dstBucket dstKey body source)
    split
    · rename_i copied err put
      rw [put] at keptPut putReads
      exact ⟨later, keptPut, reads.trans putReads⟩
    · rename_i copied new put
      have made := row_of_putObject (by
        rw [show normalizeBucketKey read.store (copyRequest dstBucket dstKey
          body source).bucket = row.bucket from bucketHere]
        exact keptRead.active) (congrArg Prod.snd put)
      rw [put] at keptPut putReads putSound putBuckets made
      obtain ⟨newID, present⟩ := made
      have normal : copied.store.normalizeObjectBucket
          (normalizeBucketKey read.store dstBucket) =
            normalizeBucketKey read.store dstBucket := by
        rw [Store.normalizeObjectBucket_congr putBuckets]
        exact normalizeObjectBucket_normalizeBucketKey _ _
      obtain ⟨keptTag, tagReads⟩ := keptPut.tagCopy putSound normal
        (by rw [newID]; exact present)
        (by rw [newID]; exact newVersionID_ne _)
        (by rw [newID]; exact other) source.tags
      exact ⟨later, keptTag, (reads.trans putReads).trans tagReads⟩

/-! ## Completing an upload -/

/-- Changes to uploads and to other files leave the version alone. -/
private theorem Kept.of_same
    (kept : Kept world row record) (sound : Sound world.store)
    (config : Config) (after : World)
    (objects : after.store.objects = world.store.objects)
    (latest : after.store.latest = world.store.latest)
    (buckets : after.store.buckets = world.store.buckets)
    (kmsKeys : after.store.kmsKeys = world.store.kmsKeys)
    (file : fileAt after.disk (dataPath row.bucket row.key record.versionID) =
      fileAt world.disk (dataPath row.bucket row.key record.versionID)) :
    Kept after row record ∧ StillReads config world after row := by
  have bucketKept : (after.store.getBucketByKey row.bucket).isSome := by
    unfold Store.getBucketByKey
    rw [buckets]
    exact kept.version.bucket
  have later : IsVersion after.store row record :=
    kept.version.mono bucketKept (by rw [objects]) (fun _ => by rw [latest])
  refine ⟨⟨later, ?_, ?_⟩, kept.version.stillReads sound later buckets
    (.of_eq kmsKeys) file⟩
  · rw [versioningActive_congr buckets]
    exact kept.active
  · rw [file]
    exact kept.file

/-- Parts cannot be joined at the path of a key that has versions. -/
theorem concatParts_refused
    (writeEnv : WriteEnv) {disk : Disk} (uploadID : String) (parts : List Nat)
    {versionID : VersionID} (named : versionID.text ≠ "")
    (file : (fileAt disk (dataPath bucket key versionID)).isSome) :
    ∃ err, concatParts writeEnv disk bucket key uploadID parts =
        writeFile writeEnv disk (objectPath bucket key)
          (partsBody writeEnv.faults disk bucket key uploadID parts) (-1)
          .partSizeMismatch ∧
      (concatParts writeEnv disk bucket key uploadID parts).reply =
        .error err := by
  have directory : disk.find (objectPath bucket key) = some .directory := by
    obtain ⟨blob, found⟩ := Option.isSome_iff_exists.mp file
    unfold dataPath at found
    rw [if_neg named,
      versionPath_eq _ _ (VersionID.plainName named)] at found
    exact disk.find_append_of_isSome _ ["versions", versionID.text]
      (by rw [fileAt_eq_some_iff.mp found]; rfl) (List.cons_ne_nil _ _)
  cases reply : (writeFile writeEnv disk (objectPath bucket key)
      (partsBody writeEnv.faults disk bucket key uploadID parts) (-1)
      .partSizeMismatch).reply with
  | error err =>
    refine ⟨err, ?_, ?_⟩
    · simp only [concatParts, reply]
    · simp only [concatParts, reply]
  | ok etag =>
    exact absurd directory (writable_of_reply_ok reply).1.free

theorem Kept.completePlain
    (kept : Kept world row record) (sound : Sound world.store)
    (config : Config) (env : Env) (named : row.versionID ≠ "")
    (upload : MultipartRecord) (uploadID : String) (parts : List Nat) :
    Kept (S3.completePlain config env world upload row.bucket row.key
        uploadID parts).1 row record ∧
      StillReads config world (S3.completePlain config env world upload
        row.bucket row.key uploadID parts).1 row := by
  have text := kept.version.text_eq sound
  obtain ⟨err, same, reply⟩ := concatParts_refused
    (env.write config .complete) uploadID parts
    (by rw [text]; exact named) kept.file
  unfold S3.completePlain
  simp only [reply]
  refine kept.of_same sound config _ rfl rfl rfl rfl ?_
  rw [same]
  apply fileAt_writeFile_of_ne
  · intro flat
    have null : record.versionID = .null :=
      dataPath_injective (flat.trans (by rfl))
    rw [← text, null] at named
    exact named rfl
  · exact (tempSibling_dataPath_ne row.bucket row.key .null _ _).symm

theorem Kept.completeEncrypted
    (kept : Kept world row record) (sound : Sound world.store)
    (config : Config) (env : Env)
    (other : (newVersionID env.versionID).text ≠ row.versionID)
    (upload : MultipartRecord)
    (known : MarkerKnown world.store upload.encryption)
    (encryption : ObjectEncryption) (random : RandomID) (parts : List Nat) :
    Kept (S3.completeEncrypted config env world upload encryption
        row.bucket row.key (hexEncode random.bytes) parts).1 row record ∧
      StillReads config world (S3.completeEncrypted config env world upload
        encryption row.bucket row.key (hexEncode random.bytes) parts).1
        row := by
  unfold S3.completeEncrypted
  split
  · exact ⟨kept, fun _ _ readable => readable⟩
  · rename_i dek unwrapped
    have normal : normalizeBucketKey world.store row.bucket = row.bucket :=
      normalizeBucketKey_of_isSome _ kept.version.bucket
    obtain ⟨keptPut, putReads⟩ := kept.putObject sound config
      (env.force upload.encryption) (completeRequest config env world.disk
        upload dek row.bucket row.key (hexEncode random.bytes) parts)
      normal rfl other
    have putSound : Sound (S3.putObject config
        (env.force upload.encryption) world (completeRequest config env
          world.disk upload dek row.bucket row.key
          (hexEncode random.bytes) parts)).1.store :=
      sound_putObject sound _ known
    generalize S3.putObject config (env.force upload.encryption) world
      (completeRequest config env world.disk upload dek row.bucket row.key
        (hexEncode random.bytes) parts) = put at keptPut putReads putSound ⊢
    have file : fileAt (removeAllQuietly (env.faults .abort) put.1.disk
        (multipartDir row.bucket row.key (hexEncode random.bytes)))
        (dataPath row.bucket row.key record.versionID) = fileAt put.1.disk
            (dataPath row.bucket row.key record.versionID) := by
      rw [fileAt_removeAllQuietly, if_neg]
      rintro ⟨_, below⟩
      exact dataPath_not_below_multipartDir _ _ _ _ below
    dsimp only
    split
    · obtain ⟨keptAbort, abortReads⟩ := keptPut.of_same putSound config
        ⟨put.1.store, removeAllQuietly (env.faults .abort) put.1.disk
          (multipartDir row.bucket row.key (hexEncode random.bytes))⟩
        rfl rfl rfl rfl file
      exact ⟨keptAbort, putReads.trans abortReads⟩
    · obtain ⟨objects, latest, buckets, kmsKeys⟩ :=
        forgetUpload_same env put.1.store (hexEncode random.bytes)
      obtain ⟨keptDone, doneReads⟩ := keptPut.of_same putSound config
        ⟨forgetUpload env put.1.store (hexEncode random.bytes),
          removeAllQuietly (env.faults .abort) put.1.disk (multipartDir
            row.bucket row.key (hexEncode random.bytes))⟩
        objects latest buckets kmsKeys file
      exact ⟨keptDone, putReads.trans doneReads⟩

theorem Kept.completeMultipart
    (kept : Kept world row record) (sound : Sound world.store)
    (config : Config) (env : Env)
    (sameBucket : normalizeBucketKey world.store bucket = row.bucket)
    (sameKey : key = row.key)
    (other : (newVersionID env.versionID).text ≠ row.versionID)
    (named : row.versionID ≠ "") (uploadID : String) (parts : List Nat) :
    Kept (S3.completeMultipart config env world bucket key uploadID
        parts).1 row record ∧
      StillReads config world (S3.completeMultipart config env world bucket
        key uploadID parts).1 row := by
  unfold S3.completeMultipart
  rw [sameBucket, sameKey]
  dsimp only
  split
  · exact ⟨kept, fun _ _ readable => readable⟩
  · rename_i upload found
    have fits := sound.uploads uploadID upload (findUpload_ok found).1
    split
    · obtain ⟨random, rfl⟩ := fits.generated
      exact kept.completeEncrypted sound config env other upload fits.known
        _ random parts
    · exact kept.completePlain sound config env named upload uploadID parts

end Steps

/-- One write beside the version. -/
theorem kept_step
    (config : Config) {row : RowKey} {record : ObjectRecord} (world : World)
    (sound : Sound world.store) (kept : Kept world row record) {call : Call}
    (beside : WritesBeside row world call) :
    ∃ later, Kept (step config world call) row later ∧
      StillReads config world (step config world call) row := by
  cases call with
  | putObject env request =>
    obtain ⟨sameBucket, sameKey, other⟩ := beside
    exact ⟨record, kept.putObject sound config env.unforced request
      sameBucket sameKey other⟩
  | copyObject env srcBucket srcKey dstBucket dstKey =>
    obtain ⟨sameBucket, sameKey, other⟩ := beside
    exact kept.copyObject sound config env.unforced rfl srcBucket srcKey
      sameBucket sameKey other
  | completeMultipartUpload env bucket key uploadID parts =>
    obtain ⟨sameBucket, sameKey, other, named⟩ := beside
    exact ⟨record, kept.completeMultipart sound config env sameBucket
      sameKey other named uploadID parts⟩
  | _ => exact beside.elim

theorem kept_run
    (config : Config) {row : RowKey} (before : List Call)
    {record : ObjectRecord} (kept : Kept (run config before) row record)
    (calls : List Call)
    (beside : ∀ front call, front ++ [call] <+: calls →
      WritesBeside row (run config (before ++ front)) call) :
    ∃ later, Kept (run config (before ++ calls)) row later ∧
      StillReads config (run config before) (run config (before ++ calls))
        row := by
  induction calls using List.reverseRecOn with
  | nil =>
    rw [List.append_nil]
    exact ⟨record, kept, fun _ _ readable => readable⟩
  | append_singleton calls call induction =>
    obtain ⟨middle, keptMiddle, reads⟩ := induction fun front other made =>
      beside front other (made.trans (List.prefix_append _ _))
    obtain ⟨later, keptLater, stepReads⟩ := kept_step config _
      (sound_run config _) keptMiddle
      (beside calls call (List.prefix_refl _))
    rw [← List.append_assoc, run_concat]
    exact ⟨later, keptLater, reads.trans stepReads⟩

/--
With active versioning a stored version, held or not, is read by its id with
the same record and bytes after any puts, copies and completed uploads onto
its key.
-/
theorem version_outlasts_overwrites
    (config : Config) (row : RowKey) (before : List Call)
    (record : ObjectRecord)
    (version : IsVersion (run config before).store row record)
    (active : versioningActive (run config before).store row.bucket = true)
    (calls : List Call)
    (beside : ∀ front call, front ++ [call] <+: calls →
      WritesBeside row (run config (before ++ front)) call)
    (reader : Env) (result : Body × ObjectRecord)
    (readable : (getObject config reader (run config before) row.bucket
      row.key row.versionID).2 = .ok result) :
    (getObject config reader (run config (before ++ calls)) row.bucket
      row.key row.versionID).2 = .ok result := by
  have normal := normalizeBucketKey_of_isSome _ version.bucket
  obtain ⟨_, found, data, lookup, read, _⟩ := getObject_ok_iff.mp readable
  rw [normal] at lookup read
  rw [version.lookup] at lookup
  cases lookup
  obtain ⟨_, _, blob, file, _⟩ := readPath_ok_iff.mp read
  obtain ⟨_, _, reads⟩ := kept_run config before
    ⟨version, active, by rw [file]; rfl⟩ calls beside
  exact reads reader result readable

/-! ## Held objects -/

/-- A bucket without versioning and an object under legal hold in it. -/
def heldCalls : List Call :=
  plainCalls ++ [.putObjectLegalHold (callEnv 4) "b" "k" "" true]

/-- A put of one byte. -/
def bytePut : PutRequest where
  bucket := "b"
  key := "k"
  source := Source.ofBytes [7]
  size := 1

/-- Without versioning a put replaces an object under legal hold. -/
theorem plain_put_replaces_held :
    ((run plainConfig heldCalls).store.getObject "b" "k").any
        ObjectRecord.legalHold ∧
      (putObject plainConfig (callEnv 5).unforced
        (run plainConfig heldCalls) bytePut).2.toOption.isSome ∧
      (run plainConfig (heldCalls ++
          [.putObject (callEnv 5) bytePut])).store.objects.entries.all
        (fun entry => !entry.2.legalHold) ∧
      (fileAt (run plainConfig (heldCalls ++
          [.putObject (callEnv 5) bytePut])).disk
        (objectPath "b" "k")).map Blob.data = some [7] := by
  decide +kernel

/-- A version under legal hold. -/
def heldVersion : List Call :=
  versionedCalls ++ [.putObjectLegalHold (callEnv 4) "b" "k" "03" true]

/-- A put and a copy onto the key of that version. -/
def overwritingCalls : List Call :=
  [.putObject (callEnv 5) bytePut, .copyObject (callEnv 6) "b" "k" "b" "k"]

theorem overwritingCalls_beside
    (front : List Call) (call : Call)
    (made : front ++ [call] <+: overwritingCalls) :
    WritesBeside ⟨"b", "k", "03"⟩
      (run plainConfig (heldVersion ++ front)) call := by
  rcases front with _ | ⟨first, _ | ⟨second, rest⟩⟩
  · simp only [overwritingCalls, List.nil_append,
      List.cons_prefix_cons] at made
    rw [made.1]
    exact ⟨by decide +kernel, rfl, by decide⟩
  · simp only [overwritingCalls, List.cons_append, List.nil_append,
      List.cons_prefix_cons] at made
    obtain ⟨rfl, rfl, _⟩ := made
    exact ⟨by decide +kernel, rfl, by decide⟩
  · simp [overwritingCalls] at made

/-- The held version is read after a put and a copy. -/
theorem version_outlasts_overwrites_held :
    ∃ result : Body × ObjectRecord, result.2.legalHold = true ∧
      (getObject plainConfig (callEnv 7)
        (run plainConfig (heldVersion ++ overwritingCalls)) "b" "k"
        "03").2 = .ok result := by
  have held : ((getObject plainConfig (callEnv 7)
      (run plainConfig heldVersion) "b" "k" "03").2.toOption.any
        (fun result => result.2.legalHold)) := by
    decide +kernel
  have bucket : ((run plainConfig heldVersion).store.getBucketByKey
      "b").isSome := by
    decide +kernel
  have stored : ((run plainConfig heldVersion).store.objects.get
      ⟨"b", "k", "03"⟩).isSome := by
    decide +kernel
  obtain ⟨record, row⟩ := Option.isSome_iff_exists.mp stored
  cases read : (getObject plainConfig (callEnv 7)
      (run plainConfig heldVersion) "b" "k" "03").2 with
  | error err =>
    rw [read] at held
    cases held
  | ok result =>
    rw [read] at held
    exact ⟨result, held, version_outlasts_overwrites plainConfig
      ⟨"b", "k", "03"⟩ heldVersion record
      ⟨bucket, row, fun unnamed => absurd unnamed (by decide)⟩
      (by decide +kernel) overwritingCalls overwritingCalls_beside
      (callEnv 7) result read⟩

end DataSafe.S3
