import DataSafe.S3.PutOutcome

/-!
# What a read depends on

`GetObject` reads the bucket row, the record that the lookup finds, the file
at the path of that record, and the row of the key that sealed it.  Two worlds
that agree on these give the same object.  A new key row changes nothing,
because the key of every sealed record has a row already.

The first read of an object without a marker stores one.  A later read then
takes another branch and returns the same object.
-/

namespace DataSafe.S3

open Base Kms Metadata Storage

/-! ## Bucket keys -/

variable {left right : Store} {bucket : String}

theorem normalizeBucketKey_congr
    (same : left.buckets = right.buckets) (bucket : String) :
    normalizeBucketKey left bucket = normalizeBucketKey right bucket := by
  simp only [normalizeBucketKey, Store.getBucketByKey, Store.listBuckets,
    same]

theorem versioningActive_congr
    (same : left.buckets = right.buckets) (bucket : String) :
    versioningActive left bucket = versioningActive right bucket := by
  unfold versioningActive Store.getBucketByKey
  rw [normalizeBucketKey_congr same, same]

variable (store : Store) (config : Config) (env : Env)
  {encryption : ObjectEncryption} {record : ObjectRecord}

/-- A normalized key names a bucket, or no bucket has this key or name. -/
theorem normalizeBucketKey_cases (bucket : String) :
    (store.getBucketByKey (normalizeBucketKey store bucket)).isSome ∨
      normalizeBucketKey store bucket = bucket ∧
        store.getBucketByKey bucket = none ∧
        ∀ record ∈ store.listBuckets, record.name ≠ bucket := by
  unfold normalizeBucketKey
  cases byKey : store.getBucketByKey bucket with
  | some record =>
    left
    simp only
    rw [store.bucket_key bucket record byKey, byKey]
    rfl
  | none =>
    cases byName : store.listBuckets.find?
        (fun record => record.name = bucket) with
    | some record =>
      left
      rw [Store.getBucketByKey_of_mem_listBuckets
        (List.mem_of_find?_eq_some byName)]
      rfl
    | none =>
      right
      refine ⟨rfl, rfl, fun record listed => ?_⟩
      simpa using List.find?_eq_none.mp byName record listed

/-- The store does not normalize a normalized key further. -/
@[simp]
theorem normalizeObjectBucket_normalizeBucketKey
    (bucket : String) :
    store.normalizeObjectBucket (normalizeBucketKey store bucket) =
      normalizeBucketKey store bucket := by
  rcases normalizeBucketKey_cases store bucket with
    present | ⟨same, byKey, byName⟩
  · exact store.normalizeObjectBucket_of_isSome present
  · have unnamed : store.listBuckets.filter
        (fun record => record.name = bucket) = [] := by
      rw [List.filter_eq_nil_iff]
      intro record listed
      simpa using byName record listed
    rw [same]
    simp only [Store.normalizeObjectBucket, Store.getBucket, byKey, unnamed]

@[simp]
theorem normalizeBucketKey_idem (bucket : String) :
    normalizeBucketKey store (normalizeBucketKey store bucket) =
      normalizeBucketKey store bucket := by
  rcases normalizeBucketKey_cases store bucket with
    present | ⟨same, _, _⟩
  · obtain ⟨record, found⟩ := Option.isSome_iff_exists.mp present
    nth_rewrite 1 [normalizeBucketKey]
    simp only [found]
    exact store.bucket_key _ record found
  · rw [same, same]

theorem normalizeBucketKey_of_isSome
    (present : (store.getBucketByKey bucket).isSome) :
    normalizeBucketKey store bucket = bucket := by
  obtain ⟨record, found⟩ := Option.isSome_iff_exists.mp present
  simp only [normalizeBucketKey, found]
  exact store.bucket_key bucket record found

/-! ## Keys -/

/-- Key rows are kept, and new ones are active. -/
structure KeysGrow (left right : Store) : Prop where
  kept : ∀ id, (left.getKMSKey id).isSome →
    right.getKMSKey id = left.getKMSKey id
  active : ∀ id key, left.getKMSKey id = none →
    right.getKMSKey id = some key → key.status = "active"

theorem KeysGrow.of_eq
    (same : right.kmsKeys = left.kmsKeys) :
    KeysGrow left right := by
  have rows : ∀ id, right.getKMSKey id = left.getKMSKey id := by
    intro id
    unfold Store.getKMSKey
    rw [same]
  refine ⟨fun id _ => rows id, ?_⟩
  intro id key unknown found
  rw [rows, unknown] at found
  cases found

theorem KeyAdded.keysGrow
    {store stored : Store} (added : KeyAdded store stored) :
    KeysGrow store stored where
  kept := fun _ known => added.getKMSKey_of_isSome known
  active := fun _ _ unknown found => (added.status_of_new unknown found).2

theorem KeysGrow.trans
    {first second third : Store} (left : KeysGrow first second)
    (right : KeysGrow second third) : KeysGrow first third where
  kept := by
    intro id known
    have kept := left.kept id known
    rw [← kept] at known
    rw [right.kept id known, kept]
  active := by
    intro id key unknown found
    cases middle : second.getKMSKey id with
    | none => exact right.active id key middle found
    | some between =>
      have kept := right.kept id (by simp [middle])
      rw [kept, middle] at found
      cases found
      exact left.active id key unknown middle

theorem bucketKeyDestroyed_of_keysGrow
    (same : right.buckets = left.buckets)
    (grow : KeysGrow left right) (bucket : String) :
    bucketKeyDestroyed right bucket = bucketKeyDestroyed left bucket := by
  unfold bucketKeyDestroyed Store.getBucketByKey
  rw [same]
  split
  · rfl
  · rename_i record found
    split_ifs
    · rfl
    · rfl
    · cases known : left.getKMSKey record.kmsMasterKeyID with
      | some key =>
        rw [grow.kept _ (by simp [known]), known]
      | none =>
        cases added : right.getKMSKey record.kmsMasterKeyID with
        | none => rfl
        | some key =>
          simp [grow.active _ _ known added]

/-- A data key is unwrapped the same way with new key rows. -/
theorem unwrapDEK_of_keysGrow
    (grow : KeysGrow left right) (known : KeyKnown left encryption) :
    unwrapDEK config env right encryption =
      unwrapDEK config env left encryption := by
  unfold unwrapDEK
  split_ifs with vault
  · rw [grow.kept _ (known vault)]
  · rfl

theorem openSealed_of_keysGrow
    (grow : KeysGrow left right) (known : KeyKnown left encryption)
    (data : Bytes) (record : ObjectRecord) :
    openSealed config env right encryption data record =
      openSealed config env left encryption data record := by
  unfold openSealed
  rw [unwrapDEK_of_keysGrow config env grow known]
  cases row : left.getKMSKey encryption.keyID with
  | some key => rw [grow.kept _ (by simp [row]), row]
  | none =>
    cases added : right.getKMSKey encryption.keyID with
    | none => rfl
    | some key =>
      simp [grow.active _ _ row added]

theorem openDecrypted_of_keysGrow
    (grow : KeysGrow left right) (data : Bytes)
    (known : ∀ encryption, record.encryption = some encryption →
      KeyKnown left encryption) :
    openDecrypted config env right data record =
      openDecrypted config env left data record := by
  unfold openDecrypted
  cases marked : record.encryption with
  | none => rfl
  | some encryption =>
    simp only
    rw [openSealed_of_keysGrow config env grow (known _ marked)]

/-! ## Markers -/

/-- A marker that a read has stored leads to the same result. -/
theorem openDecrypted_marked
    {config : Config} {env : Env} {store : Store} {data : Bytes}
    {marker : ObjectEncryption}
    (marks : (openDecrypted config env store data record).1 = some marker)
    (reader : Env) (later : Store) :
    (openDecrypted config reader later data
        { record with encryption := some marker }).2 =
      (openDecrypted config reader store data record).2 := by
  have unmarked : ∀ any : Env, openDecrypted config any store data record =
      openUnmarked config data record := by
    intro any
    unfold openDecrypted at marks ⊢
    split
    · rfl
    · rename_i encryption present
      simp only [present] at marks
      split_ifs at marks ⊢ with isSealed isPlain
      rfl
  have plain : (openDecrypted config reader later data
      { record with encryption := some plaintextMarker }).2 =
        .ok (⟨data, .eof⟩,
          { record with encryption := some plaintextMarker }) := rfl
  have format0 : ∀ size, (openDecrypted config reader later data
      { record with encryption := some (format0Marker size) }).2 =
        openFormat0 config data
          { record with encryption := some (format0Marker size) } := by
    intro size
    have isSealed : (format0Marker size).sealed = true := rfl
    have unkeyed : (format0Marker size).keyID = "" := rfl
    have formatted : (format0Marker size).provider ≠ providerVault ∧
        ((format0Marker size).formatVersion = 0 ∨
          (format0Marker size).wrappedDEK = []) :=
      ⟨show providerLocal ≠ providerVault by decide, .inl rfl⟩
    simp only [openDecrypted, isSealed, openSealed]
    rw [if_pos formatted]
    cases later.getKMSKey (format0Marker size).keyID with
    | none => rfl
    | some key => simp [unkeyed]
  rw [unmarked] at marks
  rw [unmarked]
  unfold openUnmarked at marks ⊢
  cases localKey : config.localKey with
  | none => simp only [localKey] at marks; cases marks
  | some key =>
    simp only [localKey] at marks ⊢
    split_ifs at marks ⊢ with short
    · cases marks
      exact plain
    · cases authentic : key.authenticateFormat0 config.aead data with
      | error err =>
        simp only [authentic] at marks
        cases marks
      | ok isSealed =>
        cases isSealed with
        | false =>
          simp only [authentic] at marks ⊢
          cases marks
          exact plain
        | true =>
          simp only [authentic] at marks ⊢
          cases marks
          exact format0 _

/-! ## Reads -/

theorem getObject_ok_iff
    {config : Config} {reader : Env} {world : World}
    {key versionID : String} {result : Body × ObjectRecord} :
    (getObject config reader world bucket key versionID).2 = .ok result ↔
      bucketKeyDestroyed world.store
          (normalizeBucketKey world.store bucket) = false ∧
        ∃ record data, world.store.getObjectVersion
              (normalizeBucketKey world.store bucket) key versionID =
            some record ∧
          readPath config.md5 (reader.faults .read) world.disk
              (dataPath (normalizeBucketKey world.store bucket) key
                record.versionID) = .ok data ∧
          (openDecrypted config reader world.store data record).2 =
            .ok result := by
  constructor
  · intro done
    by_cases destroyed : bucketKeyDestroyed world.store
        (normalizeBucketKey world.store bucket) = true
    · simp [getObject, destroyed] at done
    · cases found : world.store.getObjectVersion
          (normalizeBucketKey world.store bucket) key versionID with
      | none => simp [getObject, destroyed, found] at done
      | some record =>
        cases read : readPath config.md5 (reader.faults .read) world.disk
            (dataPath (normalizeBucketKey world.store bucket) key
              record.versionID) with
        | error err => simp [getObject, destroyed, found, read] at done
        | ok data =>
          refine ⟨by simpa using destroyed, record, data, rfl, read, ?_⟩
          simp only [getObject, destroyed, Bool.false_eq_true, if_false,
            found, read] at done
          split at done <;> rename_i opened <;> rw [opened] <;>
            exact done
  · rintro ⟨alive, record, data, found, read, opened⟩
    simp only [getObject, alive, Bool.false_eq_true, if_false, found, read]
    split <;> rename_i marked <;> rw [marked] at opened <;> exact opened

/-- Two worlds that agree on what a read depends on. -/
structure AgreeOn (left right : World) (bucket key versionID : String) :
    Prop where
  buckets : right.store.buckets = left.store.buckets
  lookup : right.store.getObjectVersion
      (normalizeBucketKey left.store bucket) key versionID =
    left.store.getObjectVersion
      (normalizeBucketKey left.store bucket) key versionID
  keys : KeysGrow left.store right.store
  known : ∀ record encryption,
    left.store.getObjectVersion (normalizeBucketKey left.store bucket) key
        versionID = some record →
      record.encryption = some encryption → KeyKnown left.store encryption
  file : ∀ record,
    left.store.getObjectVersion (normalizeBucketKey left.store bucket) key
        versionID = some record →
      fileAt right.disk (dataPath (normalizeBucketKey left.store bucket) key
            record.versionID) =
        fileAt left.disk (dataPath (normalizeBucketKey left.store bucket) key
            record.versionID)

/-- A read returns the same object in worlds that agree. -/
theorem AgreeOn.getObject_ok_iff
    {left right : World} {key versionID : String}
    (agree : AgreeOn left right bucket key versionID)
    (config : Config) (reader : Env) (result : Body × ObjectRecord) :
    (getObject config reader right bucket key versionID).2 = .ok result ↔
      (getObject config reader left bucket key versionID).2 =
        .ok result := by
  rw [S3.getObject_ok_iff, S3.getObject_ok_iff,
    normalizeBucketKey_congr agree.buckets,
    bucketKeyDestroyed_of_keysGrow agree.buckets agree.keys, agree.lookup]
  refine and_congr_right fun _ => exists_congr fun record =>
    exists_congr fun data => and_congr_right fun found => ?_
  rw [readPath_ok_iff, readPath_ok_iff, agree.file record found,
    openDecrypted_of_keysGrow config reader agree.keys data
      (fun encryption marked => agree.known record encryption found marked)]

/-- What a read of a key returns in one world it returns in the other. -/
def KeepsObject (config : Config) (before after : World)
    (bucket key : String) : Prop :=
  ∀ reader result,
    (getObject config reader before bucket key "").2 = .ok result →
      (getObject config reader after bucket key "").2 = .ok result

end DataSafe.S3
