import DataSafe.S3.Sound

/-!
# What a delete leaves alone

The lock check of a delete looks at one version.  With versioning the delete
removes that version and no other.  Without it, which includes suspended
versioning, the store drops every version of the key and the backend removes
everything below its path, whatever version the request names.

The result is about runs: if every delete of a run meets `DeletesOne`, each of
them leaves the record and the bytes of the other versions of its key alone.
-/

namespace DataSafe.S3

open Base Kms Metadata Storage

/-- The row id of the version that a request addresses. -/
def addressedID (store : Store) (bucket key versionID : String) : String :=
  let wanted := store.wantedID bucket key versionID
  if (store.versionRow bucket key wanted).isSome then wanted else ""

/-- A version that must not be deleted: a hold or unexpired retention. -/
def Protected (now : Time) (store : Store) (bucket : String)
    (record : ObjectRecord) : Prop :=
  checkRecord now (store.getBucketByKey bucket) record false ≠ .ok ()

/-- Another version of the key that a delete has to leave alone. -/
structure OtherVersion (now : Time) (store : Store)
    (bucket key versionID rowID : String) (record : ObjectRecord) :
    Prop where
  stored : store.objects.get ⟨bucket, key, rowID⟩ = some record
  other : rowID ≠ addressedID store bucket key versionID
  due : versionID ≠ "" ∨ Protected now store bucket record

/-- The record and the bytes of the other versions are as they were. -/
def LeavesOthers (now : Time) (before after : World)
    (bucket key versionID : String) : Prop :=
  ∀ rowID record,
    OtherVersion now before.store bucket key versionID rowID record →
      after.store.objects.get ⟨bucket, key, rowID⟩ = some record ∧
        fileAt after.disk (dataPath bucket key record.versionID) =
          fileAt before.disk (dataPath bucket key record.versionID)

/--
The condition on a delete.  With versioning, the random id of a new delete
marker is unused.  Without it, no other version is stored that the delete has
to leave alone.
-/
def DeletesOne (env : Env) (world : World)
    (bucket key versionID : String) (bypassGovernance : Bool) : Prop :=
  let bucket := normalizeBucketKey world.store bucket
  if versioningActive world.store bucket then
    versionID = "" → world.store.objects.get
      ⟨bucket, key, (newVersionID env.versionID).text⟩ = none
  else
    checkDeleteAllowed env.now world.store bucket key versionID
        bypassGovernance = .ok () →
      ∀ rowID record, ¬ OtherVersion env.now world.store bucket key
        versionID rowID record

section Delete

variable {env : Env} {world : World} {bucket key versionID : String}

/-- Rows of a key with different ids hold different versions. -/
theorem versionID_ne_of_rows
    {store : Store} (sound : Sound store) {leftID rightID : String}
    {left right : ObjectRecord}
    (leftRow : store.objects.get ⟨bucket, key, leftID⟩ = some left)
    (rightRow : store.objects.get ⟨bucket, key, rightID⟩ = some right)
    (apart : leftID ≠ rightID) : left.versionID ≠ right.versionID := by
  have rowText : ∀ {rowID : String} {record : ObjectRecord},
      store.objects.get ⟨bucket, key, rowID⟩ = some record →
        record.versionID.text = rowID := by
    intro rowID record row
    by_cases flat : rowID = ""
    · rw [(sound.rows _ record row).null flat, flat]
      rfl
    · exact (store.object_row _ record row).2.2 flat
  intro same
  apply apart
  rw [← rowText leftRow, ← rowText rightRow, same]

/-- A delete that meets the condition leaves other versions alone. -/
theorem leavesOthers_of_deletesOne
    (sound : Sound world.store) {bypassGovernance : Bool}
    (one : DeletesOne env world bucket key versionID bypassGovernance) :
    LeavesOthers env.now world
      (deleteObject env world bucket key versionID bypassGovernance).1
      (normalizeBucketKey world.store bucket) key versionID := by
  have outcome := deleteObject_outcome env world bucket key versionID
    bypassGovernance
  have normal := normalizeObjectBucket_normalizeBucketKey world.store bucket
  unfold DeletesOne at one
  generalize normalizeBucketKey world.store bucket = storageKey
    at one outcome normal ⊢
  generalize deleteObject env world bucket key versionID bypassGovernance =
    result at outcome ⊢
  intro rowID record ⟨row, other, due⟩
  cases outcome with
  | refused info err => exact ⟨row, rfl⟩
  | marked info stored active unnamed put =>
    refine ⟨?_, rfl⟩
    simp only [active] at one
    have unused := one unnamed
    rw [Store.get_putObjectTx_versioned put, if_neg]
    · exact row
    · intro here
      have id : rowID = (newVersionID env.versionID).text :=
        congrArg RowKey.versionID here
      rw [id, unused] at row
      cases row
  | removed info found deleted allowed named lookup done =>
    cases active : versioningActive world.store storageKey with
    | false =>
      simp only [active] at one
      exact absurd ⟨row, other, due⟩ (one allowed rowID record)
    | true =>
      rw [active] at done
      obtain ⟨gone, goneRow⟩ :=
        Store.row_of_deleteObjectVersion done (named active)
      have same := Store.getObjectVersion_of_row (named active) goneRow
      rw [lookup] at same
      cases same
      rw [normal] at goneRow
      have addressed : addressedID world.store storageKey key
          versionID = versionID := by
        simp [addressedID, Store.wantedID, Store.versionRow,
          named active, goneRow]
      rw [addressed] at other
      constructor
      · rw [Store.get_deleteObjectVersion_versioned done
          (named active), normal, if_neg]
        · exact row
        · rintro ⟨⟩
          exact other rfl
      · refine fileAt_deleteRecordData found true ?_ (.inl rfl)
        intro samePath
        exact versionID_ne_of_rows sound row goneRow other
          (dataPath_injective samePath)

end Delete

/--
In a run whose deletes all meet the condition, a delete leaves the record and
the bytes of every other version of its key as they were: of the protected
ones always, and of all of them when it names a version.
-/
theorem delete_leaves_other_versions
    (config : Config) (calls : List Call)
    (one : ∀ before env bucket key versionID bypassGovernance, before ++
      [.deleteObject env bucket key versionID bypassGovernance] <+: calls →
      DeletesOne env (run config before) bucket key versionID
      bypassGovernance) (before : List Call) (env : Env)
    (bucket key versionID : String) (bypassGovernance : Bool)
    (made : before ++ [.deleteObject env bucket key versionID
      bypassGovernance] <+: calls) :
    LeavesOthers env.now (run config before)
      (run config (before ++ [.deleteObject env bucket key versionID
        bypassGovernance]))
      (normalizeBucketKey (run config before).store bucket) key
      versionID := by
  rw [run_concat]
  exact leavesOthers_of_deletesOne (sound_run config before)
    (one before env bucket key versionID bypassGovernance made)

/-! ## A delete that removes a held version -/

/-- Two versions of an object, the older one under a legal hold. -/
def heldVersionCalls : List Call :=
  versionedCalls ++ [.putObject (callEnv 4) (smallPut "k"),
      .putObjectLegalHold (callEnv 5) "b" "k" "03" true]

/-- The delete of the newer version after versioning was suspended. -/
def heldDeleteCalls : List Call :=
  heldVersionCalls ++ [.setBucketVersioning (callEnv 6) "b" "Suspended"]

/-- Deleting one version of a suspended bucket removes a held one. -/
theorem suspended_delete_removes_held :
    (deleteObject (callEnv 7) (run plainConfig heldDeleteCalls) "b" "k" "04"
        false).2.2 = none ∧
      ¬ LeavesOthers (callEnv 7).now (run plainConfig heldDeleteCalls)
        (run plainConfig (heldDeleteCalls ++
          [.deleteObject (callEnv 7) "b" "k" "04" false])) "b" "k" "04" := by
  refine ⟨by decide +kernel, fun leaves => ?_⟩
  have before : ((run plainConfig heldDeleteCalls).store.objects.get
      ⟨"b", "k", "03"⟩).any ObjectRecord.legalHold = true := by
    decide +kernel
  have after : (run plainConfig (heldDeleteCalls ++
      [.deleteObject (callEnv 7) "b" "k" "04" false])).store.objects.get
        ⟨"b", "k", "03"⟩ = none := by
    decide +kernel
  cases row : (run plainConfig heldDeleteCalls).store.objects.get
      ⟨"b", "k", "03"⟩ with
  | none =>
    rw [row] at before
    cases before
  | some record =>
    have kept := (leaves "03" record ⟨row, by decide,
      .inl (by decide)⟩).1
    rw [after] at kept
    cases kept

/-- With versioning the same delete meets the condition. -/
theorem delete_leaves_other_versions_held :
    LeavesOthers (callEnv 7).now (run plainConfig heldVersionCalls)
      (run plainConfig (heldVersionCalls ++
        [.deleteObject (callEnv 7) "b" "k" "04" false]))
      (normalizeBucketKey (run plainConfig heldVersionCalls).store "b") "k"
      "04" := by
  refine delete_leaves_other_versions plainConfig (heldVersionCalls ++
    [.deleteObject (callEnv 7) "b" "k" "04" false]) ?_ heldVersionCalls
    (callEnv 7) "b" "k" "04" false (List.prefix_refl _)
  intro before env bucket key versionID bypassGovernance made
  rcases List.prefix_concat_iff.mp made with last | earlier
  · obtain ⟨rfl, same⟩ := List.append_inj' last rfl
    cases same
    unfold DeletesOne
    rw [if_pos (by decide +kernel)]
    intro unnamed
    exact absurd unnamed (by decide)
  · have member := earlier.subset
      (List.mem_append_right before List.mem_cons_self)
    simp [heldVersionCalls, versionedCalls] at member

end DataSafe.S3
