import DataSafe.S3.Sound

/-!
# Keys that do not disturb each other

Keys are paths below the directory of their bucket, and the versions of a key
lie below its own path.  An overwrite or a delete without versioning removes
everything at or below the path of its key, and with it the objects of keys
that extend it.

The result is about runs: a put or a delete leaves the object of another key
alone if the paths that it clears and writes are apart from the path of that
object.
-/

namespace DataSafe.S3

open Base Kms Metadata Storage

/-- The bytes that a read of a key returns, if it finds the object. -/
def observed (config : Config) (reader : Env) (world : World)
    (bucket key : String) : Option Body :=
  match (getObject config reader world bucket key "").2 with
  | .ok (body, _) => some body
  | .error _ => none

/-- The current object of a key does not lie at one of some paths. -/
def ObjectApart (store : Store) (bucket key : String)
    (touched : Path → Prop) : Prop :=
  ∀ record, store.getObject bucket key = some record →
    ¬ touched (dataPath bucket key record.versionID)

/-- The paths that a put clears or writes. -/
def PutTouches (env : Env) (world : World) (bucket : String)
    (request : PutRequest) (path : Path) : Prop :=
  path = targetPath env world bucket request ∨
    path = tempSibling (targetPath env world bucket request) env.tempName ∨
    (targetOf env world bucket request).versioned = false ∧
      objectPath bucket request.key <+: path

/-- The paths that a delete removes. -/
def DeleteTouches (world : World) (bucket key versionID : String)
    (path : Path) : Prop :=
  (∃ record, world.store.getObjectVersion bucket key versionID =
      some record ∧ path = dataPath bucket key record.versionID) ∨
    versioningActive world.store bucket = false ∧
      objectPath bucket key <+: path

variable {bucket other : String}

theorem AgreeOn.observed_eq
    {before after : World} {key : String}
    (agree : AgreeOn before after bucket key "") (config : Config)
    (reader : Env) :
    observed config reader after bucket key =
      observed config reader before bucket key := by
  have same := agree.getObject_ok_iff config reader
  unfold observed
  cases left : (getObject config reader before bucket key "").2 with
  | ok result => rw [(same result).mpr left]
  | error err =>
    cases right : (getObject config reader after bucket key "").2 with
    | error err => rfl
    | ok result =>
      have := (same result).mp right
      rw [left] at this
      cases this

section Calls

variable {config : Config} {env : Env} {world : World}

/-- A change of another key's rows does not change a lookup. -/
theorem lookup_of_other
    {store stored changed : Store} (added : KeyAdded store stored)
    (rest : Store.SameRest changed stored)
    (same : Store.SameKey changed stored (normalizeBucketKey store bucket)
      other) :
    changed.getObjectVersion (normalizeBucketKey store bucket) other "" =
      store.getObjectVersion (normalizeBucketKey store bucket) other "" := by
  have normal : stored.normalizeObjectBucket
      (normalizeBucketKey store bucket) =
        normalizeBucketKey store bucket := by
    rw [Store.normalizeObjectBucket_congr added.buckets]
    exact normalizeObjectBucket_normalizeBucketKey store bucket
  rw [Store.getObjectVersion_congr rest.buckets (by rw [normal]; exact same)]
  cases added <;> rfl

/-- A put changes no file that it does not touch. -/
theorem fileAt_written_of_untouched
    {request : PutRequest} {prepared : Prepared}
    {path : Path} (untouched : ¬ PutTouches env world bucket request path) :
    fileAt (written config env world bucket request prepared).disk path =
      fileAt world.disk path := by
  unfold PutTouches at untouched
  rw [not_or, not_or] at untouched
  obtain ⟨notTarget, notTemp, notBelow⟩ := untouched
  rw [fileAt_written_of_ne notTarget notTemp]
  unfold targetDisk
  cases target : targetOf env world bucket request with
  | fresh versionID => rfl
  | overwrite versionID => rfl
  | flat suspended =>
    apply fileAt_purgeObjectData_of_not_below
    intro below
    exact notBelow ⟨by rw [target]; rfl, below⟩

theorem agreeOn_putObject
    (sound : Sound world.store) {request : PutRequest}
    (distinct : request.key ≠ other)
    (apart : ObjectApart world.store (normalizeBucketKey world.store
      request.bucket) other (PutTouches env world (normalizeBucketKey
      world.store request.bucket) request)) :
    AgreeOn world (putObject config env world request).1 request.bucket
      other "" := by
  rcases putObject_cases config env world request with
    ⟨stored, err, added, refused⟩ | ⟨bucketRec, stored, prepared, admitted⟩
  · rw [refused]
    exact agreeOn_keyAdded sound added (fun _ _ => rfl)
  · obtain ⟨added, _⟩ := admitted.outcome
    have file : ∀ record, world.store.getObjectVersion
        (normalizeBucketKey world.store request.bucket) other "" =
          some record →
        fileAt (written config env { world with store := stored }
            (normalizeBucketKey world.store request.bucket) request
            prepared).disk
            (dataPath (normalizeBucketKey world.store request.bucket) other
              record.versionID) =
          fileAt world.disk
            (dataPath (normalizeBucketKey world.store request.bucket) other
              record.versionID) := by
      intro record found
      refine fileAt_written_of_untouched ?_
      unfold PutTouches
      rw [added.targetOf_eq, added.targetPath_eq]
      exact apart record found
    have outcome := admitted.put_outcome
    generalize putObject config env world request = result at outcome ⊢
    cases outcome with
    | failed err why => exact agreeOn_keyAdded sound added file
    | committed info committed record inPlace commits stat formed put =>
      have rest := Store.putObjectTx_sameRest put
      have keyed : (stored.filed record).key = request.key := by
        rw [formed]
        rfl
      have sameKey : Store.SameKey committed stored
          (normalizeBucketKey world.store request.bucket) other :=
        Store.putObjectTx_sameKey put
          (fun same => distinct (keyed ▸ same.2.symm))
      exact
        { buckets := rest.buckets.trans added.buckets
          lookup := lookup_of_other added rest sameKey
          keys := added.keysGrow.trans (.of_eq rest.kmsKeys)
          known := fun _ encryption found marked =>
            sound.record found encryption marked
          file := file }

theorem agreeOn_deleteObject
    (sound : Sound world.store) {key versionID : String}
    {bypassGovernance : Bool} (distinct : key ≠ other)
    (apart : ObjectApart world.store (normalizeBucketKey world.store bucket)
      other (DeleteTouches world (normalizeBucketKey world.store bucket) key
      versionID)) :
    AgreeOn world
      (deleteObject env world bucket key versionID bypassGovernance).1
      bucket other "" := by
  have outcome := deleteObject_outcome env world bucket key versionID
    bypassGovernance
  generalize deleteObject env world bucket key versionID bypassGovernance =
    result at outcome ⊢
  cases outcome with
  | refused info err => exact agreeOn_keyAdded sound .same (fun _ _ => rfl)
  | marked info stored active unnamed put =>
    have rest := Store.putObjectTx_sameRest put
    exact
      { buckets := rest.buckets
        lookup := lookup_of_other .same rest
          (Store.putObjectTx_sameKey put (fun same => distinct same.2.symm))
        keys := .of_eq rest.kmsKeys
        known := fun _ encryption found marked =>
          sound.record found encryption marked
        file := fun _ _ => rfl }
  | removed info found deleted allowed named lookup done =>
    have rest := Store.deleteObjectVersion_sameRest done
    exact
      { buckets := rest.buckets
        lookup := lookup_of_other .same rest
          (Store.deleteObjectVersion_sameKey done
            (fun same => distinct same.2.symm))
        keys := .of_eq rest.kmsKeys
        known := fun _ encryption found marked =>
          sound.record found encryption marked
        file := by
          intro record current
          have untouched := apart record current
          unfold DeleteTouches at untouched
          rw [not_or] at untouched
          apply fileAt_deleteRecordData
          · intro same
            exact untouched.1 ⟨found, lookup, same⟩
          · by_contra neither
            rw [not_or, not_not] at neither
            exact untouched.2 ⟨by simpa using neither.1, neither.2⟩ }

end Calls

/-- The condition on the puts and deletes of a run, for one other key. -/
structure CallsApart (config : Config) (calls : List Call)
    (other : String) : Prop where
  put : ∀ before env request, before ++ [.putObject env request] <+: calls →
      request.key ≠ other → ObjectApart (run config before).store
          (normalizeBucketKey (run config before).store request.bucket)
          other
          (PutTouches env.unforced (run config before)
            (normalizeBucketKey (run config before).store request.bucket)
            request)
  delete : ∀ before env bucket key versionID bypassGovernance,
    before ++ [.deleteObject env bucket key versionID
        bypassGovernance] <+: calls →
      key ≠ other → ObjectApart (run config before).store
          (normalizeBucketKey (run config before).store bucket) other
          (DeleteTouches (run config before)
            (normalizeBucketKey (run config before).store bucket) key
            versionID)

/--
In a run whose puts and deletes touch no path of the current object of a key,
each put and each delete of another key leaves what a read of the key finds
as it was.
-/
theorem other_key_unchanged
    (config : Config) (calls : List Call) (other : String)
    (apart : CallsApart config calls other) :
    (∀ before env request reader,
      before ++ [.putObject env request] <+: calls → request.key ≠ other →
          observed config reader
              (run config (before ++ [.putObject env request]))
              request.bucket other =
            observed config reader (run config before) request.bucket
              other) ∧
      ∀ before env bucket key versionID bypassGovernance reader,
        before ++ [.deleteObject env bucket key versionID
            bypassGovernance] <+: calls →
          key ≠ other → observed config reader
                (run config (before ++ [.deleteObject env bucket key
                  versionID bypassGovernance])) bucket other =
              observed config reader (run config before) bucket other := by
  constructor
  · intro before env request reader made distinct
    rw [run_concat]
    exact (agreeOn_putObject (sound_run config before) distinct
      (apart.put before env request made distinct)).observed_eq config reader
  · intro before env bucket key versionID bypassGovernance reader made
      distinct
    rw [run_concat]
    exact (agreeOn_deleteObject (sound_run config before) distinct
      (apart.delete before env bucket key versionID bypassGovernance made
        distinct)).observed_eq config reader

/-! ## Nested and separate keys -/

/-- A bucket without versioning and the object `a/b` in it. -/
def childCalls : List Call :=
  [.createBucket (callEnv 1) "b" "b" "" "",
    .putObject (callEnv 2) (smallPut "a/b")]

/-- The put of a key removes the objects of keys that extend it. -/
theorem put_of_parent_removes_child :
    validateObjectKey "a" = .ok () ∧ validateObjectKey "a/b" = .ok () ∧
      (putObject plainConfig (callEnv 3).unforced
        (run plainConfig childCalls) (smallPut "a")).2.toOption.isSome ∧
      observed plainConfig (callEnv 4) (run plainConfig (childCalls ++
          [.putObject (callEnv 3) (smallPut "a")])) "b" "a/b" ≠
        observed plainConfig (callEnv 4) (run plainConfig childCalls) "b"
          "a/b" := by
  decide +kernel

/-- Two objects whose keys do not extend each other. -/
def siblingCalls : List Call :=
  plainCalls ++ [.putObject (callEnv 4) (smallPut "j")]

theorem siblingCalls_apart :
    CallsApart plainConfig siblingCalls "k" where
  put := by
    intro before env request made distinct
    rcases List.prefix_concat_iff.mp made with last | earlier
    · obtain ⟨rfl, same⟩ := List.append_inj' last rfl
      cases same
      intro record current
      have id : ((run plainConfig plainCalls).store.getObject "b" "k").map
          ObjectRecord.versionID = some .null := by
        decide
      have lookup : (run plainConfig plainCalls).store.getObject "b" "k" =
        some record := current
      rw [lookup] at id
      rw [Option.some.inj id]
      unfold PutTouches
      decide
    · have member := earlier.subset
        (List.mem_append_right before List.mem_cons_self)
      simp only [plainCalls, List.mem_cons, reduceCtorEq,
        Call.putObject.injEq, List.not_mem_nil, or_false, false_or] at member
      rw [member.2] at distinct
      exact absurd rfl distinct
  delete := by
    intro before env bucket key versionID bypassGovernance made
    have member := made.subset
      (List.mem_append_right before List.mem_cons_self)
    simp [siblingCalls, plainCalls] at member

/-- The condition holds of a run with two separate keys. -/
theorem other_key_unchanged_sibling :
    observed plainConfig (callEnv 5) (run plainConfig siblingCalls) "b" "k" =
      observed plainConfig (callEnv 5) (run plainConfig plainCalls) "b"
        "k" :=
  (other_key_unchanged plainConfig siblingCalls "k" siblingCalls_apart).1
    plainCalls (callEnv 4) (smallPut "j") (callEnv 5) (List.prefix_refl _)
    (by decide)

end DataSafe.S3
