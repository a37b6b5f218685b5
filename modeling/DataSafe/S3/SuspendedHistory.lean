import DataSafe.Base.Machine
import DataSafe.S3.Versions

/-!
# Versions under suspended versioning

While versioning is suspended a put writes over the latest version of its key,
under the id of this version; if the latest one is a delete marker or there is
none, it purges everything that is stored for the key and replaces all its
rows by a flat one.  A delete removes the key with all its versions.

A version is kept by runs whose suspended puts find another version as the
latest, and whose deletes come while versioning is active.  A version without
its bytes is left behind only by a put that purges and then fails.
-/

namespace DataSafe.S3

open Base Metadata Storage

/-- The record and the bytes of a version. -/
structure Holding (world : World) (row : RowKey) (record : ObjectRecord)
    (blob : Blob) : Prop where
  stored : world.store.objects.get row = some record
  file : fileAt world.disk
    (dataPath row.bucket row.key record.versionID) = some blob

/-- Every version of the key but the delete markers has its bytes. -/
def Intact (world : World) (bucket key : String) : Prop :=
  ∀ versionID record, versionID ≠ "" →
    world.store.objects.get ⟨bucket, key, versionID⟩ = some record →
    record.isDeleteMarker = false →
      (fileAt world.disk (dataPath bucket key record.versionID)).isSome

/-! ## Calls on one key -/

/-- The calls on one key, each with what is asked of it. -/
def OnKey (bucket key : String) (put : Env → PutRequest → World → Prop)
    (delete : Env → World → Prop) (world : World) : Call → Prop
  | .setBucketVersioning _ _ _ => True
  | .putObject env request =>
    normalizeBucketKey world.store request.bucket = bucket ∧
      request.key = key ∧ put env request world
  | .deleteObject env name object versionID _ =>
    normalizeBucketKey world.store name = bucket ∧ object = key ∧
      versionID = "" ∧ delete env world
  | _ => False

/-- A new version does not take the place of another. -/
def Unused (env : Env) (world : World) (bucket key : String) : Prop :=
  world.store.objects.get
    ⟨bucket, key, (newVersionID env.versionID).text⟩ = none

/-- The put writes a new version, or over another one than this. -/
def WritesOther (row : RowKey) (env : Env) (world : World) : Prop :=
  match putTarget world.store row.bucket row.key
    (newVersionID env.versionID) with
  | .fresh _ => Unused env world row.bucket row.key
  | .overwrite versionID => versionID.text ≠ row.versionID
  | .flat _ => False

/-- The calls that spare a version. -/
def Spares (row : RowKey) : World → Call → Prop :=
  OnKey row.bucket row.key (fun env _ world => WritesOther row env world)
    (fun env world => versioningActive world.store row.bucket = true ∧
      Unused env world row.bucket row.key)

/-- A put that purges goes through once it is admitted. -/
def PurgesSafely (config : Config) (bucket key : String) (env : Env)
    (request : PutRequest) (world : World) : Prop :=
  (putTarget world.store bucket key
      (newVersionID env.versionID)).versioned = false →
    ∀ bucketRec stored prepared,
      Admitted config env world request bucketRec stored prepared →
        Writes config env world bucket request prepared ∧
          Commits env (objectPath bucket key)

/-- The calls that leave no version without its bytes. -/
def Completes (config : Config) (bucket key : String) :
    World → Call → Prop :=
  OnKey bucket key (fun env request world =>
      PurgesSafely config bucket key env.unforced request world)
    (fun _ _ => True)

/-! ## Puts -/

variable {record : ObjectRecord} {row : RowKey} {blob : Blob}

section Put

variable {config : Config} {env : Env} {world : World} {bucket : String}
  {request : PutRequest} {prepared : Prepared}

section

variable (versioned : (targetOf env world bucket request).versioned = true)
  {versionID : VersionID}

include versioned

/-- A put that commits a version leaves the files of the others alone. -/
theorem fileAt_written_of_version
    (other : versionID ≠ (targetOf env world bucket request).versionID) :
    fileAt (written config env world bucket request prepared).disk
        (dataPath bucket request.key versionID) =
      fileAt world.disk (dataPath bucket request.key versionID) := by
  rw [fileAt_written_of_ne, targetDisk_of_versioned versioned]
  · exact fun same => other (dataPath_injective same)
  · exact (tempSibling_dataPath_ne bucket request.key _ _ _).symm

/-- Nor does it remove the file at its own path. -/
theorem fileAt_written_of_present
    (present : (fileAt world.disk
      (dataPath bucket request.key versionID)).isSome) :
    (fileAt (written config env world bucket request prepared).disk
      (dataPath bucket request.key versionID)).isSome := by
  by_cases own : versionID = (targetOf env world bucket request).versionID
  · subst own
    change (fileAt _ (targetPath env world bucket request)).isSome
    cases reply :
        (written config env world bucket request prepared).reply with
    | ok etag =>
      rw [fileAt_written_of_ok reply]
      rfl
    | error err =>
      rw [fileAt_written_of_error reply, targetDisk_of_versioned versioned]
      exact present
  · rw [fileAt_written_of_version versioned own]
    exact present

end

/-- What is committed lies in the row of its target. -/
theorem committed_row
    {bucketRec : BucketRecord} {stored : Store} {etag : String}
    {extent : Extent} {info : ObjectInfo}
    (added : KeyAdded world.store stored)
    (formed : record = putRecord env stored bucketRec (normalizeBucketKey
      world.store request.bucket) request prepared (targetOf env { world with
      store := stored } (normalizeBucketKey world.store request.bucket)
      request).versionID etag extent info) :
    stored.filed record = record ∧
      record.bucket = normalizeBucketKey world.store request.bucket ∧
      record.key = request.key ∧ record.isDeleteMarker = false ∧
      record.versionID = (targetOf env world
        (normalizeBucketKey world.store request.bucket)
        request).versionID := by
  rw [added.targetOf_eq] at formed
  subst formed
  refine ⟨?_, rfl, rfl, rfl, rfl⟩
  unfold Store.filed putRecord
  rw [Store.normalizeObjectBucket_congr added.buckets,
    normalizeObjectBucket_normalizeBucketKey]

/-- A put beside a version commits another version. -/
theorem WritesOther.target
    (beside : WritesOther row env world)
    (holding : Holding world row record blob) (request : PutRequest)
    (sameKey : request.key = row.key) :
    (targetOf env world row.bucket request).versioned = true ∧
      (targetOf env world row.bucket request).versionID.text ≠
        row.versionID := by
  unfold WritesOther at beside
  unfold targetOf
  rw [sameKey]
  split at beside
  · rename_i versionID fresh
    rw [fresh]
    refine ⟨rfl, fun same => ?_⟩
    have drawn : (newVersionID env.versionID).text = row.versionID := by
      rw [← putTarget_eq_fresh fresh]
      exact same
    unfold Unused at beside
    rw [drawn] at beside
    exact absurd (holding.stored.symm.trans beside) (by simp)
  · rename_i versionID overwritten
    rw [overwritten]
    exact ⟨rfl, beside⟩
  · exact beside.elim

/-- A put beside a version keeps its record and its bytes. -/
theorem Holding.putObject
    (holding : Holding world row record blob) (named : row.versionID ≠ "")
    (sameBucket : normalizeBucketKey world.store request.bucket = row.bucket)
    (sameKey : request.key = row.key) (beside : WritesOther row env world)
    (config : Config) :
    Holding (putObject config env world request).1 row record blob := by
  have text := (world.store.object_row row record holding.stored).2.2 named
  obtain ⟨versioned, other⟩ := beside.target holding request sameKey
  rw [← sameBucket] at versioned other
  have apart : record.versionID ≠ (targetOf env world
      (normalizeBucketKey world.store request.bucket)
      request).versionID := by
    intro same
    rw [← same, text] at other
    exact other rfl
  -- Whatever becomes of the put, the file of the version stays.
  have file : ∀ stored prepared, KeyAdded world.store stored →
      fileAt (written config env { world with store := stored }
          (normalizeBucketKey world.store request.bucket) request
          prepared).disk (dataPath row.bucket row.key record.versionID) =
        some blob := by
    intro stored prepared added
    rw [← holding.file, ← sameBucket, ← sameKey]
    exact fileAt_written_of_version (by rw [added.targetOf_eq]; exact
      versioned) (by rw [added.targetOf_eq]; exact apart)
  have ends := putObject_end config env world request
  generalize S3.putObject config env world request = result at ends ⊢
  cases ends with
  | refused stored err added =>
    exact ⟨by rw [added.objects]; exact holding.stored, holding.file⟩
  | failed bucketRec stored prepared err admitted added why =>
    exact ⟨by rw [added.objects]; exact holding.stored, file _ _ added⟩
  | committed bucketRec stored prepared info committed new admitted added
      inPlace formed put =>
      obtain ⟨filed, newBucket, newKey, _, newID⟩ :=
        committed_row added formed
      refine ⟨?_, file _ _ added⟩
      unfold Store.putObject at put
      rw [filed, added.targetOf_eq, versioned] at put
      rw [Store.get_putObjectTx_versioned put, if_neg, added.objects]
      · exact holding.stored
      · intro same
        rw [newID] at same
        exact other (congrArg RowKey.versionID same).symm

/-- A put that does not purge safely is the only one to break a key. -/
theorem Intact.putObject
    (intact : Intact world bucket request.key)
    (sameBucket : normalizeBucketKey world.store request.bucket = bucket)
    (safely : PurgesSafely config bucket request.key env request world) :
    Intact (putObject config env world request).1 bucket request.key := by
  subst sameBucket
  cases versioned : (targetOf env world
      (normalizeBucketKey world.store request.bucket)
      request).versioned with
  | true =>
    have present : ∀ stored prepared versionID, KeyAdded world.store stored →
        (fileAt world.disk (dataPath
          (normalizeBucketKey world.store request.bucket) request.key
          versionID)).isSome →
        (fileAt (written config env { world with store := stored }
          (normalizeBucketKey world.store request.bucket) request
          prepared).disk (dataPath
            (normalizeBucketKey world.store request.bucket) request.key
            versionID)).isSome := by
      intro stored prepared versionID added found
      exact fileAt_written_of_present
        (by rw [added.targetOf_eq]; exact versioned) found
    have ends := putObject_end config env world request
    generalize S3.putObject config env world request = result at ends ⊢
    cases ends with
    | refused stored err added =>
      intro versionID record named found visible
      rw [added.objects] at found
      exact intact versionID record named found visible
    | failed bucketRec stored prepared err admitted added why =>
      intro versionID record named found visible
      rw [added.objects] at found
      exact present _ _ _ added (intact versionID record named found visible)
    | committed bucketRec stored prepared info committed new admitted
        added inPlace formed put =>
        obtain ⟨filed, newBucket, newKey, _, newID⟩ :=
          committed_row added formed
        unfold Store.putObject at put
        rw [filed, added.targetOf_eq, versioned] at put
        intro versionID record named found visible
        rw [Store.get_putObjectTx_versioned put] at found
        split_ifs at found with here
        · cases found
          have file := fileAt_written_of_inPlace inPlace
          rw [added.targetPath_eq] at file
          rw [newID]
          exact file
        · rw [added.objects] at found
          exact present _ _ _ added
            (intact versionID record named found visible)
  | false =>
    have ends := putObject_end config env world request
    generalize S3.putObject config env world request = result at ends ⊢
    cases ends with
    | refused stored err added =>
      intro versionID record named found visible
      rw [added.objects] at found
      exact intact versionID record named found visible
    | failed bucketRec stored prepared err admitted added why =>
      obtain ⟨writes, commits⟩ := safely versioned _ _ _ admitted
      refine absurd ⟨.inl ?_, ?_⟩ why
      · unfold Writes at writes ⊢
        rw [added.targetDisk_eq, added.targetPath_eq]
        exact writes
      · rw [added.targetPath_eq, targetPath,
          PutTarget.versionID_of_not_versioned versioned]
        exact commits
    | committed bucketRec stored prepared info committed new admitted
        added inPlace formed put =>
        obtain ⟨filed, newBucket, newKey, _, newID⟩ :=
          committed_row added formed
        unfold Store.putObject at put
        rw [filed, added.targetOf_eq, versioned] at put
        intro versionID record named found visible
        rw [Store.get_putObjectTx_flat put, newBucket, newKey, if_neg
          (fun same => named (congrArg RowKey.versionID same)),
          if_pos ⟨rfl, rfl⟩] at found
        cases found

end Put

/-! ## Deletes -/

section Delete

variable {env : Env} {world : World} {bucket key : String}

/-- A delete with active versioning adds a marker beside a version. -/
theorem Holding.deleteObject
    (holding : Holding world row record blob)
    (sameBucket : normalizeBucketKey world.store bucket = row.bucket)
    (sameKey : key = row.key)
    (active : versioningActive world.store row.bucket = true)
    (unused : Unused env world row.bucket row.key) (bypassGovernance : Bool) :
    Holding (deleteObject env world bucket key "" bypassGovernance).1 row
      record blob := by
  subst sameKey
  have outcome := deleteObject_outcome env world bucket row.key ""
    bypassGovernance
  rw [sameBucket] at outcome
  generalize S3.deleteObject env world bucket row.key "" bypassGovernance =
    result at outcome ⊢
  cases outcome with
  | refused info err => exact holding
  | marked info stored _ unnamed put =>
    refine ⟨?_, holding.file⟩
    have normal : world.store.normalizeObjectBucket row.bucket =
        row.bucket := by
      rw [← sameBucket]
      exact normalizeObjectBucket_normalizeBucketKey _ _
    rw [Store.get_putObjectTx_versioned put, if_neg]
    · exact holding.stored
    · intro same
      unfold Unused at unused
      have here : row = ⟨row.bucket, row.key,
          (newVersionID env.versionID).text⟩ := by
        rw [same]
        simp only [Store.filed, deleteMarker]
      rw [← here, holding.stored] at unused
      cases unused
  | removed info found deleted allowed named lookup done =>
    exact absurd rfl (named active)

/-- A delete without a version id leaves no version without its bytes. -/
theorem Intact.deleteObject
    (intact : Intact world bucket key) {name : String}
    (sameBucket : normalizeBucketKey world.store name = bucket)
    (bypassGovernance : Bool) :
    Intact (deleteObject env world name key "" bypassGovernance).1 bucket
      key := by
  have outcome := deleteObject_outcome env world name key "" bypassGovernance
  rw [sameBucket] at outcome
  have normal : world.store.normalizeObjectBucket bucket = bucket := by
    rw [← sameBucket]
    exact normalizeObjectBucket_normalizeBucketKey _ _
  generalize S3.deleteObject env world name key "" bypassGovernance =
    result at outcome ⊢
  cases outcome with
  | refused info err => exact intact
  | marked info stored active unnamed put =>
    intro versionID record named found visible
    rw [Store.get_putObjectTx_versioned put] at found
    split_ifs at found
    · cases found
      cases visible
    · exact intact versionID record named found visible
  | removed info record deleted allowed named lookup done =>
    cases active : versioningActive world.store bucket with
    | true => exact absurd rfl (named active)
    | false =>
      rw [active] at done
      intro versionID other proper found visible
      rw [Store.deleteObjectVersion_unversioned done, normal,
        Store.get_deleteAllVersions, if_pos ⟨rfl, rfl⟩] at found
      cases found

end Delete

/-! ## Runs -/

theorem setBucketVersioning_objects
    {env : Env} {store stored : Store} {bucket status : String}
    (done : setBucketVersioning env store bucket status = .ok stored) :
    stored.objects = store.objects := by
  unfold setBucketVersioning at done
  split at done
  · cases done
  · split_ifs at done
    exact (Store.updateBucket_sameObjects
      (Env.transact_eq_ok_iff.mp done).2).objects

theorem objects_setBucketVersioning
    (config : Config) (env : Env) (world : World) (bucket status : String) :
    (step config world (.setBucketVersioning env bucket
        status)).store.objects = world.store.objects ∧
      (step config world (.setBucketVersioning env bucket status)).disk =
        world.disk := by
  rw [step]
  cases done : setBucketVersioning env world.store bucket status with
  | ok stored => exact ⟨setBucketVersioning_objects done, rfl⟩
  | error err => exact ⟨rfl, rfl⟩

theorem Holding.step
    {world : World} {call : Call} (holding : Holding world row record blob)
    (named : row.versionID ≠ "") (spares : Spares row world call)
    (config : Config) :
    Holding (S3.step config world call) row record blob := by
  cases call with
  | setBucketVersioning env bucket status =>
    obtain ⟨objects, disk⟩ :=
      objects_setBucketVersioning config env world bucket status
    exact ⟨by rw [objects]; exact holding.stored,
      by rw [disk]; exact holding.file⟩
  | putObject env request =>
    obtain ⟨sameBucket, sameKey, beside⟩ := spares
    have unforced : WritesOther row env.unforced world := beside
    exact holding.putObject named sameBucket sameKey unforced config
  | deleteObject env bucket key versionID bypassGovernance =>
    obtain ⟨sameBucket, sameKey, rfl, active, unused⟩ := spares
    exact holding.deleteObject sameBucket sameKey active unused _
  | _ => exact spares.elim

theorem Intact.step
    {config : Config} {world : World} {bucket key : String} {call : Call}
    (intact : Intact world bucket key)
    (completes : Completes config bucket key world call) :
    Intact (S3.step config world call) bucket key := by
  cases call with
  | setBucketVersioning env name status =>
    obtain ⟨objects, disk⟩ :=
      objects_setBucketVersioning config env world name status
    intro versionID record named found visible
    rw [objects] at found
    rw [disk]
    exact intact versionID record named found visible
  | putObject env request =>
    obtain ⟨sameBucket, rfl, safely⟩ := completes
    exact intact.putObject sameBucket safely
  | deleteObject env name object versionID bypassGovernance =>
    obtain ⟨sameBucket, rfl, rfl, _⟩ := completes
    exact intact.deleteObject sameBucket _
  | _ => exact completes.elim

/--
A version keeps its record and its bytes along every run that spares it, and
along every run whose purging puts go through each version of the key has its
bytes in the end if it had them at the start.
-/
theorem history_kept
    (config : Config) (start : World) (calls : List Call) (row : RowKey)
    (named : row.versionID ≠ "") :
    (Guarded (step config) (Spares row) start calls →
      ∀ record blob, Holding start row record blob →
        Holding (runAll (step config) start calls) row record blob) ∧
    (Guarded (step config) (Completes config row.bucket row.key) start
        calls →
      Intact start row.bucket row.key →
        Intact (runAll (step config) start calls) row.bucket row.key) := by
  constructor
  · intro spared record blob holding
    exact spared.invariant
      (motive := fun world => Holding world row record blob) holding
      (fun world call held spares => held.step named spares config)
  · intro completed intact
    exact completed.invariant
      (motive := fun world => Intact world row.bucket row.key) intact
      (fun world call held completes => held.step completes)

/-- A put of one byte. -/
def otherPut : PutRequest where
  bucket := "b"
  key := "k"
  source := Source.ofBytes [9]
  size := 1

/--
A put under suspended versioning replaces the record and the bytes of the
version that was written before.
-/
theorem suspended_put_replaces_version :
    ((run plainConfig suspendedCalls).store.objects.get
        ⟨"b", "k", "03"⟩).map ObjectRecord.size = some 3 ∧
      (fileAt (run plainConfig suspendedCalls).disk
        (versionPath "b" "k" "03")).map Blob.data = some [1, 2, 3] ∧
      ((run plainConfig (suspendedCalls ++
          [.putObject (callEnv 5) otherPut])).store.objects.get
        ⟨"b", "k", "03"⟩).map ObjectRecord.size = some 1 ∧
      (fileAt (run plainConfig (suspendedCalls ++
          [.putObject (callEnv 5) otherPut])).disk
        (versionPath "b" "k" "03")).map Blob.data = some [9] := by
  decide +kernel

/-- Two versions of an object, in a bucket with suspended versioning. -/
def twoVersionsCalls : List Call :=
  versionedCalls ++ [.putObject (callEnv 4) (smallPut "k"),
      .setBucketVersioning (callEnv 5) "b" "Suspended"]

/-- The earlier of two versions survives a put under suspended versioning. -/
theorem earlier_version_kept :
    ∃ record blob,
      Holding (run plainConfig twoVersionsCalls) ⟨"b", "k", "03"⟩ record
          blob ∧
        Holding (runAll (step plainConfig) (run plainConfig twoVersionsCalls)
          [.putObject (callEnv 6) otherPut]) ⟨"b", "k", "03"⟩ record
          blob := by
  have spares : Guarded (step plainConfig) (Spares ⟨"b", "k", "03"⟩)
      (run plainConfig twoVersionsCalls)
      [.putObject (callEnv 6) otherPut] := by
    rw [guarded_cons_iff]
    refine ⟨⟨by decide, rfl, ?_⟩, guarded_nil⟩
    have target : putTarget (run plainConfig twoVersionsCalls).store "b" "k"
        (newVersionID (callEnv 6).versionID) =
          .overwrite (newVersionID (callEnv 4).versionID) := by
      decide
    show WritesOther _ _ _
    simp only [WritesOther, target]
    decide
  obtain ⟨record, stored⟩ := Option.isSome_iff_exists.mp
    (show ((run plainConfig twoVersionsCalls).store.objects.get
      ⟨"b", "k", "03"⟩).isSome by decide)
  have version : record.versionID = newVersionID (callEnv 3).versionID :=
    VersionID.eq_of_text (((run plainConfig
      twoVersionsCalls).store.object_row _ _ stored).2.2 (by decide))
  obtain ⟨blob, file⟩ := Option.isSome_iff_exists.mp
    (show (fileAt (run plainConfig twoVersionsCalls).disk (dataPath "b" "k"
      (newVersionID (callEnv 3).versionID))).isSome by decide)
  rw [← version] at file
  have holding : Holding (run plainConfig twoVersionsCalls)
      ⟨"b", "k", "03"⟩ record blob := ⟨stored, file⟩
  exact ⟨record, blob, holding, (history_kept plainConfig _ _
    ⟨"b", "k", "03"⟩ (by decide)).1 spares record blob holding⟩

end DataSafe.S3
