import DataSafe.S3.ObjectLock
import DataSafe.S3.Reads

/-!
# What a delete does

A delete is refused, adds a delete marker, or removes a record and its bytes.
With versioning the bytes of other versions stay; without it everything at or
below the path of the key goes.
-/

namespace DataSafe.S3

open Base Metadata Storage

section Data

variable {env : Env} {disk : Disk} {bucket key : String} {other : Path}

theorem fileAt_sweep
    (versioning : Bool)
    (kept : versioning = true ∨ ¬ objectPath bucket key <+: other) :
    fileAt (sweep env disk bucket key versioning) other =
      fileAt disk other := by
  unfold sweep
  split_ifs with active
  · rfl
  · rw [fileAt_removeAllQuietly, if_neg]
    rintro ⟨_, below⟩
    rcases kept with active | outside
    · contradiction
    · exact outside below

theorem fileAt_deleteRecordData
    (record : ObjectRecord) (versioning : Bool)
    (apart : other ≠ dataPath bucket key record.versionID)
    (kept : versioning = true ∨ ¬ objectPath bucket key <+: other) :
    fileAt (deleteRecordData env disk bucket key record versioning).1
        other = fileAt disk other := by
  unfold deleteRecordData deleteData
  split_ifs
  · rfl
  · split
    · exact fileAt_sweep versioning kept
    · rfl
    · rename_i deleted done
      exact (fileAt_sweep versioning kept).trans
        (fileAt_deletePath_of_ne done apart)

end Data

/-- What a delete ends with, for a normalized bucket key. -/
inductive DeleteOutcome (env : Env) (world : World)
    (bucket key versionID : String) (bypassGovernance : Bool) :
    World × DeleteInfo × Option Err → Prop where
  | refused (info : DeleteInfo) (err : Err) :
      DeleteOutcome env world bucket key versionID bypassGovernance
        (world, info, some err)
  | marked (info : DeleteInfo) (stored : Store)
      (active : versioningActive world.store bucket = true)
      (unnamed : versionID = "")
      (put : world.store.putObject (deleteMarker env bucket key) true =
        .ok stored) :
      DeleteOutcome env world bucket key versionID bypassGovernance
        ({ world with store := stored }, info, none)
  | removed (info : DeleteInfo) (record : ObjectRecord) (deleted : Store)
      (allowed : checkDeleteAllowed env.now world.store bucket key
        versionID bypassGovernance = .ok ())
      (named : versioningActive world.store bucket = true → versionID ≠ "")
      (found : world.store.getObjectVersion bucket key versionID =
        some record)
      (done : world.store.deleteObjectVersion bucket key versionID
        (versioningActive world.store bucket) = .ok deleted) :
      DeleteOutcome env world bucket key versionID bypassGovernance
        (⟨deleted, (deleteRecordData env world.disk bucket key record
          (versioningActive world.store bucket)).1⟩, info,
          (deleteRecordData env world.disk bucket key record
            (versioningActive world.store bucket)).2)

section Delete

variable (env : Env) (world : World) (bucket key versionID : String)
  (bypassGovernance : Bool)

theorem addMarker_outcome
    (active : versioningActive world.store bucket = true)
    (unnamed : versionID = "") :
    DeleteOutcome env world bucket key versionID bypassGovernance
      (addMarker env world bucket key) := by
  unfold addMarker
  split
  · exact .refused _ _
  · rename_i stored done
    exact .marked _ stored active unnamed (Env.transact_eq_ok_iff.mp done).2

theorem removeVersion_outcome
    (allowed : checkDeleteAllowed env.now world.store bucket key versionID
      bypassGovernance = .ok ())
    (named : versioningActive world.store bucket = true → versionID ≠ "") :
    DeleteOutcome env world bucket key versionID bypassGovernance
      (removeVersion env world bucket key versionID
        (versioningActive world.store bucket)) := by
  unfold removeVersion
  split
  · exact .refused _ _
  · rename_i record found
    split
    · exact .refused _ _
    · rename_i deleted done
      exact .removed _ record deleted allowed named found
        (Env.transact_eq_ok_iff.mp done).2

theorem deleteObject_outcome :
    DeleteOutcome env world (normalizeBucketKey world.store bucket) key
      versionID bypassGovernance
      (deleteObject env world bucket key versionID bypassGovernance) := by
  unfold deleteObject
  simp only
  split
  · split_ifs with missing
    · exact addMarker_outcome _ _ _ _ _ _ missing.2.1 missing.2.2
    · exact .refused _ _
  · rename_i allowed
    split_ifs with marks
    · exact addMarker_outcome _ _ _ _ _ _ marks.1 marks.2
    · exact removeVersion_outcome _ _ _ _ _ _ allowed
        (fun active unnamed => marks ⟨active, unnamed⟩)

end Delete

end DataSafe.S3
