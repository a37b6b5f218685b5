import DataSafe.S3.Sound

/-!
# Overwrites that fail

A put replaces the object that `GetObject` returns.  With versioning the new
bytes go to a path of their own, so a put that fails leaves the object alone.
Without versioning the old bytes are purged before the new body is read, and a
body that ends early takes the object with it.

`FailsSafely` is the condition on a put, and the result is about runs: if
every put of a run meets it, every put that fails leaves its object readable.
-/

namespace DataSafe.S3

open Base Kms Metadata Storage

/--
A put cannot destroy the current object `record` by failing.  A new version
goes to unused paths.  A version that is replaced in place is followed by no
fault.  A put that purges the key does not fail at all, unless the purge was
itself prevented and nothing was written.
-/
def SafeTarget (config : Config) (env : Env) (world : World)
    (bucket : String) (request : PutRequest) (prepared : Prepared)
    (record : ObjectRecord) : Prop :=
  let path := targetPath env world bucket request
  match targetOf env world bucket request with
  | .fresh _ =>
    dataPath bucket request.key record.versionID ≠ path ∧
      dataPath bucket request.key record.versionID ≠
        tempSibling path env.tempName
  | .overwrite _ =>
    Writes config env world bucket request prepared → Commits env path
  | .flat _ =>
    Writes config env world bucket request prepared ∧ Commits env path ∨
      ¬ Writes config env world bucket request prepared ∧
        record.versionID = .null ∧
        env.faults .purge .removeAll (objectPath bucket request.key) = true

/-- The condition on a put: it is refused, replaces nothing, or is safe. -/
def FailsSafely (config : Config) (env : Env) (world : World)
    (request : PutRequest) : Prop :=
  let bucket := normalizeBucketKey world.store request.bucket
  ∀ bucketRec stored prepared record,
    Admitted config env world request bucketRec stored prepared →
    world.store.getObject bucket request.key = some record →
    (fileAt world.disk
      (dataPath bucket request.key record.versionID)).isSome →
      SafeTarget config env { world with store := stored } bucket request
        prepared record

section Put

variable {config : Config} {env : Env} {world : World} {bucket : String}
  {request : PutRequest} {prepared : Prepared} {record : ObjectRecord}

/-- The target of an overwrite is the current version. -/
theorem overwrite_current
    {versionID : VersionID}
    (target : targetOf env world bucket request = .overwrite versionID)
    (current : world.store.getObject bucket request.key = some record) :
    record.versionID = versionID := by
  unfold targetOf putTarget at target
  split_ifs at target
  · rw [current] at target
    simp only at target
    split_ifs at target
    cases target
    rfl

/-- A safe put that fails keeps the file of the current object. -/
theorem fileAt_written_of_safeTarget
    (current : world.store.getObject bucket request.key = some record)
    (safe : SafeTarget config env world bucket request prepared record)
    (why : ¬ (InPlace config env world bucket request prepared ∧
      Commits env (targetPath env world bucket request))) :
    fileAt (written config env world bucket request prepared).disk
        (dataPath bucket request.key record.versionID) =
      fileAt world.disk (dataPath bucket request.key record.versionID) := by
  unfold SafeTarget at safe
  cases target : targetOf env world bucket request with
  | fresh versionID =>
    simp only [target] at safe
    rw [fileAt_written_of_ne safe.1 safe.2]
    simp [targetDisk, target, clearedDisk]
  | overwrite versionID =>
    simp only [target] at safe
    have here : dataPath bucket request.key record.versionID =
        targetPath env world bucket request := by
      simp [targetPath, target, PutTarget.versionID,
        overwrite_current target current]
    have same : targetDisk env world bucket request = world.disk := by
      simp [targetDisk, target, clearedDisk]
    rw [here]
    have unwritten :
        ¬ Writes config env world bucket request prepared := by
      intro writes
      exact why ⟨.inl writes, safe writes⟩
    rw [fileAt_written_of_not_writes unwritten, same]
  | flat suspended =>
    simp only [target] at safe
    rcases safe with ⟨writes, commits⟩ | ⟨unwritten, null, prevented⟩
    · exact absurd ⟨.inl writes, commits⟩ why
    · have here : dataPath bucket request.key record.versionID =
          targetPath env world bucket request := by
        simp [targetPath, target, PutTarget.versionID, null]
      have flat : targetPath env world bucket request =
          objectPath bucket request.key := by
        simp only [targetPath, target]
        rfl
      rw [here, fileAt_written_of_not_writes unwritten, flat]
      simp only [targetDisk, target, clearedDisk]
      rw [fileAt_purgeObjectData_self, if_neg (by simp [prevented])]

end Put

variable {config : Config} {env : Env} {world : World} {request : PutRequest}

/-- A put that meets the condition keeps the object when it fails. -/
theorem keepsObject_of_failsSafely
    (sound : Sound world.store)
    (safe : FailsSafely config env world request) {err : Err}
    (failed : (putObject config env world request).2 = .error err) :
    KeepsObject config world (putObject config env world request).1
      request.bucket request.key := by
  intro reader result readable
  rcases putObject_cases config env world request with
    ⟨stored, refusal, added, refused⟩ |
      ⟨bucketRec, stored, prepared, admitted⟩
  · rw [refused]
    exact ((agreeOn_keyAdded sound added
      (fun _ _ => rfl)).getObject_ok_iff config reader result).mpr readable
  · obtain ⟨added, _⟩ := admitted.outcome
    have outcome := admitted.put_outcome
    generalize putObject config env world request = put at outcome failed ⊢
    cases outcome with
    | committed info committed record inPlace commits stat formed put =>
      cases failed
    | failed failure why =>
      refine ((agreeOn_keyAdded sound added ?_).getObject_ok_iff config
        reader result).mpr readable
      intro record found
      obtain ⟨_, other, data, lookup, read, _⟩ :=
        getObject_ok_iff.mp readable
      rw [found] at lookup
      cases lookup
      obtain ⟨_, _, blob, file, _⟩ := readPath_ok_iff.mp read
      have current : stored.getObject
          (normalizeBucketKey world.store request.bucket) request.key =
            some record := by
        cases added <;> exact found
      exact fileAt_written_of_safeTarget current
        (safe bucketRec stored prepared record admitted found
          (by simp [file])) why

/--
In a run whose puts all meet the condition, the object that was readable
before a put that fails is readable after it, with its bytes and record.
-/
theorem failed_put_keeps_object
    (config : Config) (calls : List Call)
    (safe : ∀ before env request, before ++ [.putObject env request] <+: calls
      → FailsSafely config env.unforced (run config before) request)
    (before : List Call) (env : Env) (request : PutRequest) (err : Err)
    (made : before ++ [.putObject env request] <+: calls)
    (failed : (putObject config env.unforced (run config before) request).2 =
      .error err) :
    KeepsObject config (run config before)
      (run config (before ++ [.putObject env request])) request.bucket
      request.key := by
  rw [run_concat]
  exact keepsObject_of_failsSafely (sound_run config before)
    (safe before env request made) failed

/-! ## Puts that meet the condition and one that does not -/

theorem failsSafely_of_absent
    (absent : world.store.getObject
      (normalizeBucketKey world.store request.bucket) request.key = none) :
    FailsSafely config env world request := by
  intro bucketRec stored prepared record _ current
  rw [absent] at current
  cases current

/-- With versioning it is enough that the new version id is unused. -/
theorem failsSafely_of_active
    {versionID : VersionID}
    (target : targetOf env world (normalizeBucketKey world.store
      request.bucket) request = .fresh versionID)
    (unused : ∀ record, world.store.getObject (normalizeBucketKey world.store
      request.bucket) request.key = some record → dataPath (normalizeBucketKey
      world.store request.bucket) request.key record.versionID ≠ targetPath
      env world (normalizeBucketKey world.store request.bucket) request ∧
      dataPath (normalizeBucketKey world.store request.bucket) request.key
      record.versionID ≠ tempSibling (targetPath env world (normalizeBucketKey
      world.store request.bucket) request) env.tempName) :
    FailsSafely config env world request := by
  intro bucketRec stored prepared record admitted current _
  obtain ⟨added, _⟩ := admitted.outcome
  simp only [SafeTarget, added.targetOf_eq, added.targetPath_eq, target]
  exact unused record current

/-- A broken upload without versioning destroys the object. -/
theorem broken_put_destroys_object :
    (putObject plainConfig (callEnv 4).unforced
        (run plainConfig plainCalls) brokenPut).2 =
          .error (.backend (.body .unexpectedEOF)) ∧
      ¬ KeepsObject plainConfig (run plainConfig plainCalls)
        (run plainConfig (plainCalls ++
          [.putObject (callEnv 4) brokenPut])) "b" "k" := by
  refine ⟨by decide +kernel, fun keeps => ?_⟩
  have before : ((getObject plainConfig (callEnv 5)
      (run plainConfig plainCalls) "b" "k" "").2.toOption).isSome = true := by
    decide +kernel
  have after : ((getObject plainConfig (callEnv 5)
      (run plainConfig (plainCalls ++ [.putObject (callEnv 4) brokenPut]))
      "b" "k" "").2.toOption).isSome = false := by
    decide +kernel
  cases read : (getObject plainConfig (callEnv 5)
      (run plainConfig plainCalls) "b" "k" "").2 with
  | error err =>
    rw [read] at before
    cases before
  | ok result =>
    rw [keeps (callEnv 5) result read] at after
    cases after

/-- Two puts with versioning, the second of them broken. -/
def brokenVersionCalls : List Call :=
  versionedCalls ++ [.putObject (callEnv 4) brokenPut]

theorem brokenVersionCalls_safe
    (before : List Call) (env : Env) (request : PutRequest)
    (made : before ++ [.putObject env request] <+: brokenVersionCalls) :
    FailsSafely plainConfig env.unforced (run plainConfig before)
      request := by
  obtain ⟨rest, split⟩ := made
  rcases before with _ | ⟨first, _ | ⟨second, _ | ⟨third, later⟩⟩⟩
  · simp [brokenVersionCalls, versionedCalls] at split
  · simp [brokenVersionCalls, versionedCalls] at split
  · obtain ⟨rfl, rfl, ⟨rfl, rfl⟩, _⟩ := split
    exact failsSafely_of_absent (by decide +kernel)
  · simp only [brokenVersionCalls, versionedCalls, List.cons_append,
      List.cons.injEq] at split
    obtain ⟨rfl, rfl, rfl, split⟩ := split
    rcases later with _ | ⟨fourth, later⟩
    · cases split
      have target : targetOf (callEnv 4).unforced
          (run plainConfig versionedCalls) "b" brokenPut =
            .fresh (newVersionID (callEnv 4).versionID) := by
        decide
      refine failsSafely_of_active target ?_
      intro record current
      have id : ((run plainConfig versionedCalls).store.getObject "b"
          "k").map ObjectRecord.versionID =
            some (newVersionID (callEnv 3).versionID) := by
        decide
      have lookup : (run plainConfig versionedCalls).store.getObject "b" "k" =
        some record := current
      rw [lookup] at id
      rw [Option.some.inj id]
      decide
    · simp at split

/-- The condition holds of a run in which a broken put fails. -/
theorem failed_put_keeps_object_versioned :
    (putObject plainConfig (callEnv 4).unforced
        (run plainConfig versionedCalls) brokenPut).2 =
          .error (.backend (.body .unexpectedEOF)) ∧
      KeepsObject plainConfig (run plainConfig versionedCalls)
        (run plainConfig brokenVersionCalls) "b" "k" :=
  ⟨by decide +kernel, failed_put_keeps_object plainConfig brokenVersionCalls
      brokenVersionCalls_safe versionedCalls (callEnv 4) brokenPut
      (.backend (.body .unexpectedEOF)) (List.prefix_refl _)
      (by decide +kernel)⟩

end DataSafe.S3
