import DataSafe.S3.Calls
import DataSafe.S3.DeleteOutcome

/-!
# What every run keeps

A row fits its store if it is flat only for an object without a version id,
and if the key that sealed the object has a row.  An upload fits if its id was
generated and its key has a row.  A key with versions points to one of them.
Every call keeps these, so they hold in every reachable world.
-/

namespace DataSafe.S3

open Base Kms Metadata Storage

/-- The key of a marker, if there is a marker, has a row. -/
def MarkerKnown (store : Store) (marker : Option ObjectEncryption) : Prop :=
  ∀ encryption, marker = some encryption → KeyKnown store encryption

structure RowFits (store : Store) (row : RowKey) (record : ObjectRecord) :
    Prop where
  null : row.versionID = "" → record.versionID = .null
  known : MarkerKnown store record.encryption

structure UploadFits (store : Store) (uploadID : String)
    (upload : MultipartRecord) : Prop where
  generated : ∃ random : RandomID, uploadID = hexEncode random.bytes
  known : MarkerKnown store upload.encryption

structure Sound (store : Store) : Prop where
  rows : ∀ row record, store.objects.get row = some record →
    RowFits store row record
  uploads : ∀ uploadID upload, store.multipart.get uploadID = some upload →
      UploadFits store uploadID upload
  pointed : store.Pointed

/-! ## Changes of the store -/

/-- Key rows are not lost. -/
def KeysKept (store stored : Store) : Prop :=
  ∀ id, (store.getKMSKey id).isSome → (stored.getKMSKey id).isSome

variable {store stored : Store} {bucket key versionID : String}
  {marker : ObjectEncryption}

theorem KeysKept.of_eq
    (same : stored.kmsKeys = store.kmsKeys) :
    KeysKept store stored := by
  intro id known
  unfold Store.getKMSKey at known ⊢
  rw [same]
  exact known

theorem KeysGrow.keysKept
    (grow : KeysGrow store stored) :
    KeysKept store stored := by
  intro id known
  rw [grow.kept id known]
  exact known

theorem MarkerKnown.mono
    {marker : Option ObjectEncryption}
    (known : MarkerKnown store marker) (kept : KeysKept store stored) :
    MarkerKnown stored marker :=
  fun encryption marked vault => kept _ (known encryption marked vault)

namespace Sound

variable {store stored : Store}

section

variable (sound : Sound store)

include sound

/-- It is enough to look at the rows that a call has changed. -/
theorem of_changes
    (kept : KeysKept store stored)
    (rows : ∀ row record, stored.objects.get row = some record →
      store.objects.get row = some record ∨ RowFits stored row record)
    (uploads : ∀ uploadID upload, stored.multipart.get uploadID = some upload
      → store.multipart.get uploadID = some upload ∨ UploadFits stored
      uploadID upload) (pointed : stored.Pointed) : Sound stored where
  rows := by
    intro row record found
    rcases rows row record found with old | fits
    · have before := sound.rows row record old
      exact ⟨before.null, before.known.mono kept⟩
    · exact fits
  uploads := by
    intro uploadID upload found
    rcases uploads uploadID upload found with old | fits
    · have before := sound.uploads uploadID upload old
      exact ⟨before.generated, before.known.mono kept⟩
    · exact fits
  pointed := pointed

omit sound in
theorem empty : Sound Store.empty where
  rows := by
    intro row record found
    simp [Store.empty] at found
  uploads := by
    intro uploadID upload found
    simp [Store.empty] at found
  pointed := by
    intro row present
    simp [Store.empty] at present

theorem keyAdded
    (added : KeyAdded store stored) : Sound stored := by
  refine sound.of_changes added.keysGrow.keysKept ?_ ?_
    (sound.pointed.of_same (fun row => by rw [added.objects]) added.latest)
  · intro row record found
    rw [added.objects] at found
    exact .inl found
  · intro uploadID upload found
    rw [added.multipart] at found
    exact .inl found

theorem sameObjects
    (same : Store.SameObjects stored store) :
    Sound stored := by
  refine sound.of_changes (.of_eq same.kmsKeys) ?_ ?_
    (sound.pointed.of_same (fun row => by rw [same.objects]) same.latest)
  · intro row record found
    rw [same.objects] at found
    exact .inl found
  · intro uploadID upload found
    rw [same.multipart] at found
    exact .inl found

theorem putObject
    {record : ObjectRecord} {versioned : Bool}
    (done : store.putObject record versioned = .ok stored)
    (null : versioned = false → record.versionID = .null)
    (known : MarkerKnown store record.encryption) : Sound stored := by
  have rest := Store.putObjectTx_sameRest done
  have kept : KeysKept store stored := .of_eq rest.kmsKeys
  refine sound.of_changes kept ?_ ?_ (sound.pointed.putObjectTx done)
  · intro row other found
    cases versioned with
    | true =>
      rw [Store.get_putObjectTx_versioned done] at found
      split_ifs at found with here
      · cases found
        refine .inr ⟨fun flat => ?_, known.mono kept⟩
        have named := Store.putObjectTx_versioned_ok_iff.mp ⟨stored, done⟩
        rw [here] at flat
        exact absurd flat named
      · exact .inl found
    | false =>
      rw [Store.get_putObjectTx_flat done] at found
      split_ifs at found with here
      · cases found
        exact .inr ⟨fun _ => null rfl, known.mono kept⟩
      · exact .inl found
  · intro uploadID upload found
    rw [rest.multipart] at found
    exact .inl found

theorem deleteObjectVersion
    {versioning : Bool}
    (done : store.deleteObjectVersion bucket key versionID versioning =
      .ok stored) : Sound stored := by
  have rest := Store.deleteObjectVersion_sameRest done
  refine sound.of_changes (.of_eq rest.kmsKeys) ?_ ?_
    (sound.pointed.deleteObjectVersion done)
  · intro row record found
    exact .inl (Store.get_of_deleteObjectVersion done found)
  · intro uploadID upload found
    rw [rest.multipart] at found
    exact .inl found

theorem record
    {record : ObjectRecord}
    (found : store.getObjectVersion bucket key versionID = some record) :
    MarkerKnown store record.encryption := by
  obtain ⟨rowID, row, _⟩ := Store.getObjectVersion_row found
  exact (sound.rows _ record row).known

/-- A rewrite that keeps the version id and the marker. -/
theorem rewriteObject
    {change : ObjectRecord → ObjectRecord}
    (done : store.rewriteObject bucket key versionID change = .ok stored)
    (sameID : ∀ record, (change record).versionID = record.versionID)
    (sameMarker : ∀ record, (change record).encryption = record.encryption) :
    Sound stored := by
  obtain ⟨record, found, put⟩ := Store.rewriteObject_ok done
  refine sound.putObject put ?_ ?_
  · intro flat
    rw [sameID]
    have unnamed : record.versionID.text = "" := by
      simp only [Bool.or_eq_false_iff, decide_eq_false_iff_not,
        not_not] at flat
      exact flat.2
    exact VersionID.eq_of_text unnamed
  · rw [sameMarker]
    exact sound.record found

theorem setObjectTags
    {tags : List (String × String)}
    (done : store.setObjectTags bucket key versionID tags = .ok stored) :
    Sound stored := by
  exact sound.rewriteObject done (fun _ => rfl) (fun _ => rfl)

theorem setObjectLegalHold
    {hold : Bool}
    (done : store.setObjectLegalHold bucket key versionID hold =
      .ok stored) : Sound stored := by
  exact sound.rewriteObject done (fun _ => rfl) (fun _ => rfl)

theorem setObjectRetention
    {mode : String} {date : Time}
    (done : store.setObjectRetention bucket key versionID date mode = .ok
      stored) : Sound stored := by
  exact sound.rewriteObject done (fun _ => rfl) (fun _ => rfl)

theorem marked
    {row : RowKey} {record : ObjectRecord}
    (marked : Store.Marked store stored row record marker)
    (known : KeyKnown store marker) : Sound stored := by
  have kept : KeysKept store stored := .of_eq marked.rest.kmsKeys
  have present : ∀ other, (stored.objects.get other).isSome =
      (store.objects.get other).isSome := by
    intro other
    rw [marked.rows]
    split_ifs with here
    · simp [here, marked.found]
    · rfl
  refine sound.of_changes kept ?_ ?_
    (sound.pointed.of_same present marked.latest)
  · intro other found here
    rw [marked.rows] at here
    split_ifs at here with same
    · cases here
      refine .inr ⟨fun flat => ?_, ?_⟩
      · exact (sound.rows row record marked.found).null (same ▸ flat)
      · rintro encryption ⟨⟩ vault
        exact kept _ (known vault)
    · exact .inl here
  · intro uploadID upload found
    rw [marked.rest.multipart] at found
    exact .inl found

theorem setObjectEncryptionIfAbsent
    (bucket key versionID : String) (known : KeyKnown store marker) :
    Sound (store.setObjectEncryptionIfAbsent bucket key versionID
      marker) := by
  rcases store.setObjectEncryptionIfAbsent_cases bucket key versionID
    marker with same | ⟨row, record, marked⟩
  · rw [same]
    exact sound
  · exact sound.marked marked known

theorem putMultipart
    {upload : MultipartRecord}
    (fits : UploadFits store upload.uploadID upload) :
    Sound (store.putMultipart upload) := by
  refine sound.of_changes (fun _ known => known) ?_ ?_ sound.pointed
  · intro row record found
    exact .inl found
  · intro uploadID other found
    simp only [Store.putMultipart, Table.get_put] at found
    split_ifs at found with here
    · cases found
      rw [here]
      exact .inr ⟨fits.generated, fits.known⟩
    · exact .inl found

theorem deleteMultipart
    {uploadID : String} (done : store.deleteMultipart uploadID = .ok stored) :
    Sound stored := by
  unfold Store.deleteMultipart at done
  split_ifs at done
  cases done
  refine sound.of_changes (fun _ known => known) ?_ ?_ sound.pointed
  · intro row record found
    exact .inl found
  · intro other upload found
    simp only [Table.delete, Table.get_restrict] at found
    split_ifs at found
    exact .inl found

theorem putKMSKey
    (key : KMSKeyRecord) :
    Sound (store.putKMSKey key) := by
  refine sound.of_changes ?_ (fun _ _ found => .inl found)
    (fun _ _ found => .inl found) sound.pointed
  intro id known
  unfold Store.getKMSKey Store.putKMSKey
  rw [Table.get_put]
  split_ifs
  · rfl
  · exact known

end

end Sound

/-! ## Calls -/

section Calls

variable {config : Config} {env : Env} {world : World}

/-- The marker of a put names the key of the prepared body. -/
theorem markerKnown_putRecord
    {prepared : Prepared} (bucketRec : BucketRecord)
    (bucket : String) (request : PutRequest) (versionID : VersionID)
    (etag : String) (extent : Extent) (info : ObjectInfo)
    (known : KeyKnown store prepared.encryption) :
    MarkerKnown store (putRecord env store bucketRec bucket request prepared
      versionID etag extent info).encryption := by
  rintro encryption ⟨⟩ vault
  exact known vault

theorem sound_putObject
    (sound : Sound world.store) (request : PutRequest)
    (forced : MarkerKnown world.store env.spec.forced) :
    Sound (putObject config env world request).1.store := by
  rcases putObject_cases config env world request with
    ⟨stored, err, added, refused⟩ | ⟨bucketRec, stored, prepared, admitted⟩
  · rw [refused]
    exact sound.keyAdded added
  · obtain ⟨added, _, known⟩ := admitted.outcome
    have storedSound := sound.keyAdded added
    have knownKey : KeyKnown stored prepared.encryption := by
      rcases known with prescribed | known
      · exact forced.mono added.keysGrow.keysKept _ prescribed
      · exact known
    have outcome := admitted.put_outcome
    generalize putObject config env world request = result at outcome ⊢
    cases outcome with
    | failed err why => exact storedSound
    | committed info committed record inPlace commits stat formed put =>
      subst formed
      exact storedSound.putObject put
        (fun flat => PutTarget.versionID_of_not_versioned flat)
        (markerKnown_putRecord _ _ _ _ _ _ _ knownKey)

theorem sound_keep
    (sound : Sound world.store) {result : Except Err Store}
    (kept : ∀ stored, result = .ok stored → Sound stored) :
    Sound (world.keep result).store := by
  cases result with
  | error err => exact sound
  | ok stored => exact kept stored rfl

/-- A read marks an object as plain or as sealed by the local key. -/
theorem keyKnown_marker
    {data : Bytes} {record : ObjectRecord}
    {result : Except Err (Body × ObjectRecord)}
    (opened : openDecrypted config env store data record =
      (some marker, result)) :
    KeyKnown store marker := by
  have notVault : marker.provider ≠ providerVault → KeyKnown store marker :=
    fun other vault => absurd vault other
  have unmarked : ∀ result, openUnmarked config data record =
      (some marker, result) → KeyKnown store marker := by
    intro result opened
    apply notVault
    unfold openUnmarked at opened
    split at opened
    · cases opened
    · split_ifs at opened
      · cases opened
        decide
      · have localKey : providerLocal ≠ providerVault := by decide
        split at opened
        · cases opened
        · cases opened
          decide
        · cases opened
          exact localKey
  unfold openDecrypted at opened
  split at opened
  · exact unmarked _ opened
  · split_ifs at opened
    · cases opened
    · cases opened
    · exact unmarked _ opened

theorem sound_getObject
    (sound : Sound world.store) (bucket key versionID : String) :
    Sound (getObject config env world bucket key versionID).1.store := by
  unfold getObject
  simp only
  split_ifs
  · exact sound
  · split
    · exact sound
    · split
      · exact sound
      · split
        · exact sound
        · rename_i marker result opened
          exact sound.setObjectEncryptionIfAbsent _ _ _
            (keyKnown_marker opened)

theorem sound_tagCopy
    (sound : Sound store) (bucket key : String)
    (copy : ObjectRecord) (tags : List (String × String)) :
    Sound (tagCopy env store bucket key copy tags) := by
  unfold tagCopy
  split_ifs
  · exact sound
  · split
    · rename_i tagged done
      exact sound.setObjectTags (Env.transact_eq_ok_iff.mp done).2
    · exact sound

/-- A request that prescribes no marker. -/
theorem markerKnown_unforced (store : Store) (env : Env) :
    MarkerKnown store env.unforced.spec.forced := by
  rintro encryption ⟨⟩

theorem sound_copyObject
    (sound : Sound world.store) (srcBucket srcKey dstBucket dstKey : String) :
    Sound (copyObject config env.unforced world srcBucket srcKey dstBucket
      dstKey).1.store := by
  have readSound : Sound (getObject config env.unforced world srcBucket
      srcKey "").1.store := sound_getObject sound srcBucket srcKey ""
  unfold copyObject
  split
  · rename_i read err got
    rw [got] at readSound
    exact readSound
  · rename_i read body source got
    rw [got] at readSound
    have putSound : Sound (putObject config env.unforced read
        (copyRequest dstBucket dstKey body source)).1.store :=
      sound_putObject readSound _ (markerKnown_unforced read.store env)
    split
    · rename_i copied err put
      rw [put] at putSound
      exact putSound
    · rename_i copied record put
      rw [put] at putSound
      exact sound_tagCopy putSound _ _ _ _

theorem sound_deleteObject
    (sound : Sound world.store) (bucket key versionID : String)
    (bypassGovernance : Bool) :
    Sound (deleteObject env world bucket key versionID
      bypassGovernance).1.store := by
  have outcome := deleteObject_outcome env world bucket key versionID
    bypassGovernance
  generalize deleteObject env world bucket key versionID bypassGovernance =
    result at outcome ⊢
  cases outcome with
  | refused info err => exact sound
  | marked info stored active unnamed put =>
    refine sound.putObject put (fun flat => by cases flat) ?_
    rintro encryption ⟨⟩
  | removed info record deleted allowed named found done =>
    exact sound.deleteObjectVersion done

theorem sound_createMultipartUpload
    (sound : Sound world.store) (bucket key contentType : String)
    (metadata : List (String × String)) :
    Sound (createMultipartUpload config env.unforced world bucket key
      contentType metadata).1.store := by
  unfold createMultipartUpload
  simp only
  split
  · exact sound
  · rename_i bucketRec found
    have outcome := prepareObjectEncryption_outcome config env.unforced
      world.store bucketRec (Source.ofBytes [])
    split
    · rename_i stored err prepare
      rw [prepare] at outcome
      cases outcome with
      | refused stored err added => exact sound.keyAdded added
    · rename_i stored prepared prepare
      rw [prepare] at outcome
      cases outcome with
      | prepared stored prepared added shape known =>
        have storedSound := sound.keyAdded added
        split_ifs
        · exact storedSound
        · split
          · exact storedSound
          · split
            · exact storedSound
            · rename_i put done
              obtain ⟨_, same⟩ := Env.transact_eq_ok_iff.mp done
              cases same
              refine storedSound.putMultipart ⟨⟨_, rfl⟩, ?_⟩
              rintro encryption ⟨⟩
              rcases known with prescribed | known
              · cases prescribed
              · exact known

theorem sound_forgetUpload
    (sound : Sound store) (uploadID : String) :
    Sound (forgetUpload env store uploadID) := by
  unfold forgetUpload
  split
  · rename_i forgotten done
    exact sound.deleteMultipart (Env.transact_eq_ok_iff.mp done).2
  · exact sound

theorem sound_commitCompleted
    (world : World) (sound : Sound world.store) (bucketRec : BucketRecord)
    (upload : MultipartRecord) (bucket key uploadID etag : String)
    (size : Int) :
    Sound (commitCompleted config env world bucketRec upload bucket key
      uploadID etag size).1.store := by
  unfold commitCompleted
  simp only
  split
  · exact sound
  · split
    · exact sound
    · rename_i stored done
      refine sound_forgetUpload (sound.putObject
        (Env.transact_eq_ok_iff.mp done).2 ?_ ?_) uploadID
      · intro flat
        simp [completedRecord, flat]
      · rintro encryption ⟨⟩

theorem sound_completePlain
    (sound : Sound world.store) (upload : MultipartRecord)
    (bucket key uploadID : String) (parts : List Nat) :
    Sound (completePlain config env world upload bucket key uploadID
      parts).1.store := by
  unfold completePlain
  simp only
  split
  · exact sound
  · split
    · exact sound
    · split
      · exact sound
      · split
        · exact sound
        · refine sound_commitCompleted _ ?_ _ _ _ _ _ _ _
          exact sound

theorem sound_completeMultipart
    (sound : Sound world.store) (bucket key uploadID : String)
    (parts : List Nat) :
    Sound (completeMultipart config env world bucket key uploadID
      parts).1.store := by
  unfold completeMultipart
  simp only
  split
  · exact sound
  · rename_i upload found
    have known := (sound.uploads uploadID upload (findUpload_ok found).1).known
    split
    · unfold completeEncrypted
      split
      · exact sound
      · have putSound : ∀ request, Sound (putObject config
            (env.force upload.encryption) world request).1.store :=
          fun request => sound_putObject sound request known
        simp only
        split
        · exact putSound _
        · exact sound_forgetUpload (putSound _) uploadID
    · exact sound_completePlain sound _ _ _ _ _

theorem sound_uploadPart
    (sound : Sound world.store) (bucket key uploadID : String)
    (number : Nat) (source : Source) (size : Int) :
    Sound (uploadPart config env world bucket key uploadID number source
      size).1.store := by
  unfold uploadPart
  simp only
  split
  · exact sound
  · split
    · exact sound
    · split <;> exact sound

theorem sound_abortMultipartUpload
    (sound : Sound world.store) (bucket key uploadID : String) :
    Sound (abortMultipartUpload env world bucket key uploadID).1.store := by
  unfold abortMultipartUpload
  simp only
  split
  · exact sound
  · split_ifs
    · exact sound
    · split
      · exact sound
      · split
        · exact sound
        · rename_i stored done
          exact sound.deleteMultipart (Env.transact_eq_ok_iff.mp done).2

theorem sound_createBucket
    (sound : Sound world.store) (storageKey name owner tenantID : String) :
    Sound (world.createBucket env storageKey name owner tenantID).store := by
  unfold World.createBucket
  simp only
  split
  · rename_i disk stored made put
    exact sound.sameObjects (Store.putBucket_sameObjects
      (Env.transact_eq_ok_iff.mp put).2)
  · rename_i stored made put
    exact sound.sameObjects (Store.putBucket_sameObjects
      (Env.transact_eq_ok_iff.mp put).2)
  · exact sound

theorem sound_putObjectRetention
    (sound : Sound world.store) {mode : String} {date : RetainDate}
    (done : putObjectRetention env world.store bucket key versionID mode date
      = .ok stored) : Sound stored := by
  unfold putObjectRetention at done
  cases date with
  | absent => cases done
  | malformed => cases done
  | on date =>
    simp only [bind, Except.bind] at done
    split at done
    · cases done
    · rename_i retained put
      have retainedSound := sound.setObjectRetention
        (Env.transact_eq_ok_iff.mp put).2
      split at done
      · cases done
        exact retainedSound
      · split at done
        · rename_i locked updated
          cases done
          exact retainedSound.sameObjects (Store.updateBucket_sameObjects
            (Env.transact_eq_ok_iff.mp updated).2)
        · cases done
          exact retainedSound

end Calls

/-- Every call keeps the store sound. -/
theorem sound_step
    (config : Config) (world : World) (call : Call)
    (sound : Sound world.store) : Sound (step config world call).store := by
  have updated : ∀ {env : Env} {record : BucketRecord} {stored : Store},
      env.transact .updateBucket (world.store.updateBucket record) =
        .ok stored → Sound stored := fun done =>
    sound.sameObjects (Store.updateBucket_sameObjects
      (Env.transact_eq_ok_iff.mp done).2)
  cases call with
  | createBucket env storageKey name owner tenantID =>
    exact sound_createBucket sound _ _ _ _
  | updateBucket env record => exact sound_keep sound fun _ => updated
  | putUser record => exact sound.sameObjects ⟨rfl, rfl, rfl, rfl⟩
  | putKMSKey record => exact sound.putKMSKey record
  | setBucketVersioning env bucket status =>
    refine sound_keep sound fun stored done => ?_
    unfold setBucketVersioning at done
    split at done
    · cases done
    · split_ifs at done
      exact updated done
  | putObjectLockConfiguration env bucket lock =>
    refine sound_keep sound fun stored done => ?_
    unfold putObjectLockConfiguration at done
    split at done
    · cases done
    · exact updated done
  | putObjectRetention env bucket key versionID mode date =>
    exact sound_keep sound fun _ => sound_putObjectRetention sound
  | putObjectLegalHold env bucket key versionID hold =>
    exact sound_keep sound fun _ done =>
      sound.setObjectLegalHold (Env.transact_eq_ok_iff.mp done).2
  | setObjectTags env bucket key versionID tags =>
    exact sound_keep sound fun _ done =>
      sound.setObjectTags (Env.transact_eq_ok_iff.mp done).2
  | putObject env request =>
    exact sound_putObject sound request (markerKnown_unforced _ env)
  | getObject env bucket key versionID =>
    exact sound_getObject sound bucket key versionID
  | copyObject env srcBucket srcKey dstBucket dstKey =>
    exact sound_copyObject sound srcBucket srcKey dstBucket dstKey
  | deleteObject env bucket key versionID bypassGovernance =>
    exact sound_deleteObject sound bucket key versionID bypassGovernance
  | createMultipartUpload env bucket key contentType metadata =>
    exact sound_createMultipartUpload sound bucket key contentType metadata
  | uploadPart env bucket key uploadID number source size =>
    exact sound_uploadPart sound bucket key uploadID number source size
  | completeMultipartUpload env bucket key uploadID parts =>
    exact sound_completeMultipart sound bucket key uploadID parts
  | abortMultipartUpload env bucket key uploadID =>
    exact sound_abortMultipartUpload sound bucket key uploadID

theorem sound_run (config : Config) (calls : List Call) :
    Sound (run config calls).store :=
  run_induction Sound.empty (sound_step config) calls

/-- A new key and changes to other files do not disturb a read. -/
theorem agreeOn_keyAdded
    {world : World} {disk : Disk} (sound : Sound world.store)
    (added : KeyAdded world.store stored)
    (file : ∀ record, world.store.getObjectVersion (normalizeBucketKey
      world.store bucket) key versionID = some record → fileAt disk (dataPath
      (normalizeBucketKey world.store bucket) key record.versionID) = fileAt
      world.disk (dataPath (normalizeBucketKey world.store bucket) key
      record.versionID)) :
    AgreeOn world ⟨stored, disk⟩ bucket key versionID where
  buckets := added.buckets
  lookup := by cases added <;> rfl
  keys := added.keysGrow
  known := fun _ encryption found marked =>
    sound.record found encryption marked
  file := file

end DataSafe.S3
