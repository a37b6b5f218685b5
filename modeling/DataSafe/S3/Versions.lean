import DataSafe.S3.Sound

/-!
# A version across calls

A version is a row of the objects table: one with an id, or the flat row of a
key without versions.  Calls that rewrite a record keep its row, and a put
keeps the rows of the versions it does not replace.  A put with active
versioning is refused below the flat file of an object.
-/

namespace DataSafe.S3

open Base Kms Metadata Storage

/-- The row of a version, of a bucket that exists. -/
structure IsVersion (store : Store) (row : RowKey) (record : ObjectRecord) :
    Prop where
  bucket : (store.getBucketByKey row.bucket).isSome
  stored : store.objects.get row = some record
  flat : row.versionID = "" → store.latest.get ⟨row.bucket, row.key⟩ = none ∧
      record.isDeleteMarker = false

/-- A change of a record that leaves it the same version. -/
structure SameVersion (change : ObjectRecord → ObjectRecord) : Prop where
  bucket : ∀ record, (change record).bucket = record.bucket
  key : ∀ record, (change record).key = record.key
  versionID : ∀ record, (change record).versionID = record.versionID
  isDeleteMarker : ∀ record,
    (change record).isDeleteMarker = record.isDeleteMarker

namespace IsVersion

variable {store stored : Store} {row : RowKey} {record : ObjectRecord}

section

variable (version : IsVersion store row record)

include version

theorem normal :
    store.normalizeObjectBucket row.bucket = row.bucket :=
  store.normalizeObjectBucket_of_isSome version.bucket

/-- A lookup by its own id finds the version. -/
theorem lookup :
    store.getObjectVersion row.bucket row.key row.versionID =
      some record := by
  by_cases named : row.versionID = ""
  · obtain ⟨unpointed, visible⟩ := version.flat named
    have here : store.objects.get ⟨row.bucket, row.key, ""⟩ =
        some record := by
      rw [← named]
      exact version.stored
    simp [Store.getObjectVersion, version.normal, Store.wantedID, named,
      unpointed, Store.versionRow, here, visible]
  · exact Store.getObjectVersion_of_row named
      (by rw [version.normal]; exact version.stored)

theorem mono
    (bucket : (stored.getBucketByKey row.bucket).isSome)
    (rows : stored.objects.get row = store.objects.get row)
    (latest : row.versionID = "" → stored.latest.get ⟨row.bucket, row.key⟩ =
      store.latest.get ⟨row.bucket, row.key⟩) :
    IsVersion stored row record where
  bucket := bucket
  stored := rows.trans version.stored
  flat := fun unnamed =>
    ⟨(latest unnamed).trans (version.flat unnamed).1,
      (version.flat unnamed).2⟩

theorem keyAdded
    (added : KeyAdded store stored) : IsVersion stored row record := by
  refine version.mono ?_ (by rw [added.objects]) (fun _ => by
    rw [added.latest])
  unfold Store.getBucketByKey
  rw [added.buckets]
  exact version.bucket

theorem sameKey
    (rest : Store.SameRest stored store)
    (same : Store.SameKey stored store row.bucket row.key) :
    IsVersion stored row record := by
  refine version.mono ?_ (same.rows row.versionID) (fun _ => same.latest)
  unfold Store.getBucketByKey
  rw [rest.buckets]
  exact version.bucket

/-- A versioned put into another row leaves a version with an id alone. -/
theorem putVersioned
    {other : ObjectRecord} (done : store.putObjectTx other true = .ok stored)
    (apart : row ≠ ⟨other.bucket, other.key, other.versionID.text⟩)
    (known : row.versionID = "" → (store.objects.get ⟨other.bucket, other.key,
      other.versionID.text⟩).isSome) :
    IsVersion stored row record := by
  refine version.mono ?_ ?_ ?_
  · unfold Store.getBucketByKey
    rw [(Store.putObjectTx_sameRest done).buckets]
    exact version.bucket
  · rw [Store.get_putObjectTx_versioned done, if_neg apart]
  · intro unnamed
    rw [Store.latest_putObjectTx_versioned done, if_neg]
    rintro ⟨absent, _⟩
    rw [Option.isSome_iff_ne_none] at known
    exact known unnamed absent

end

end IsVersion

/-! ## Rewriting a record -/

section Rewrite

variable {store stored : Store} {row : RowKey} {record : ObjectRecord}
  {bucket key versionID : String} {change : ObjectRecord → ObjectRecord}

/-- What a lookup returns lies in the row of its version id. -/
theorem Sound.row_of_lookup
    (sound : Sound store)
    (found : store.getObjectVersion bucket key versionID = some record) :
    record.bucket = store.normalizeObjectBucket bucket ∧ record.key = key ∧
      store.objects.get ⟨record.bucket, record.key, record.versionID.text⟩ =
        some record := by
  obtain ⟨rowID, present, _⟩ := Store.getObjectVersion_row found
  obtain ⟨sameBucket, sameKey, sameID⟩ := store.object_row _ _ present
  have text : record.versionID.text = rowID := by
    by_cases unnamed : rowID = ""
    · rw [(sound.rows _ record present).null unnamed, unnamed]
      rfl
    · exact sameID unnamed
  rw [sameBucket, sameKey, text]
  exact ⟨rfl, rfl, present⟩

/-- The current object of a key is flat only if the key has no versions. -/
theorem unnamed_of_flat
    (sound : Sound store)
    (found : store.getObjectVersion bucket key "" = some record)
    (null : record.versionID.text = "") {other : RowKey}
    (present : (store.objects.get other).isSome)
    (sameBucket : other.bucket = store.normalizeObjectBucket bucket)
    (sameKey : other.key = key) : other.versionID = "" := by
  by_contra named
  obtain ⟨current, points, target⟩ := sound.pointed other present named
  obtain ⟨newest, newestRow⟩ := Option.isSome_iff_exists.mp target
  have proper := store.latest_ne _ current points
  rw [sameBucket, sameKey] at points newestRow
  have lookup : store.getObjectVersion bucket key "" = some newest := by
    simp [Store.getObjectVersion, Store.wantedID, points, Store.versionRow,
      proper, newestRow]
  rw [found] at lookup
  cases lookup
  exact proper (((store.object_row _ _ newestRow).2.2 proper).symm.trans
    null)

/--
A rewrite changes the version that its lookup finds and leaves every other
version as it is.
-/
theorem IsVersion.rewriteObject
    (version : IsVersion store row record) (sound : Sound store)
    (normal : store.normalizeObjectBucket bucket = bucket)
    (done : store.rewriteObject bucket key versionID change = .ok stored)
    (same : SameVersion change) :
    IsVersion stored row record ∨ bucket = row.bucket ∧ key = row.key ∧
        store.getObjectVersion bucket key versionID = some record ∧
        IsVersion stored row (change record) := by
  obtain ⟨found, lookup, put⟩ := Store.rewriteObject_ok done
  obtain ⟨foundBucket, foundKey, foundRow⟩ := sound.row_of_lookup lookup
  rw [normal] at foundBucket
  have filed : store.filed (change found) = change found := by
    unfold Store.filed
    rw [same.bucket, foundBucket, normal, ← foundBucket, ← same.bucket]
  have bucketKept : (stored.getBucketByKey row.bucket).isSome := by
    unfold Store.getBucketByKey
    rw [(Store.putObjectTx_sameRest put).buckets]
    exact version.bucket
  unfold Store.putObject at put
  rw [filed] at put
  have target : (⟨(change found).bucket, (change found).key,
      (change found).versionID.text⟩ : RowKey) =
        ⟨found.bucket, found.key, found.versionID.text⟩ := by
    rw [same.bucket, same.key, same.versionID]
  cases versioned : (decide (versionID ≠ "") ||
      decide (found.versionID.text ≠ "")) with
  | true =>
    rw [versioned] at put
    by_cases here : row = ⟨found.bucket, found.key, found.versionID.text⟩
    · right
      have sameRecord := version.stored
      rw [here, foundRow] at sameRecord
      cases sameRecord
      have named : row.versionID ≠ "" := by
        have proper := Store.putObjectTx_versioned_ok_iff.mp ⟨_, put⟩
        rw [same.versionID] at proper
        rw [here]
        exact proper
      refine ⟨by rw [here, foundBucket], by rw [here, foundKey], lookup,
        bucketKept, ?_, fun unnamed => absurd unnamed named⟩
      rw [Store.get_putObjectTx_versioned put, target, if_pos here]
    · left
      refine version.putVersioned put (by rw [target]; exact here) ?_
      intro _
      rw [target, foundRow]
      rfl
  | false =>
    rw [versioned] at put
    obtain ⟨unnamed, null⟩ : versionID = "" ∧ found.versionID.text = "" := by
      simpa using versioned
    subst unnamed
    by_cases here : row.bucket = found.bucket ∧ row.key = found.key
    · right
      have flat : row.versionID = "" := unnamed_of_flat sound lookup null
        (by simp [version.stored])
        (by rw [here.1, foundBucket, normal])
        (by rw [here.2, foundKey])
      have rowEq : row = ⟨found.bucket, found.key, ""⟩ := by
        rw [← here.1, ← here.2, ← flat]
      have sameRecord := version.stored
      rw [rowEq, ← null, foundRow] at sameRecord
      cases sameRecord
      refine ⟨by rw [here.1, foundBucket], by rw [here.2, foundKey],
        lookup, bucketKept, ?_, fun _ => ⟨?_, ?_⟩⟩
      · rw [Store.get_putObjectTx_flat put, same.bucket, same.key,
          if_pos rowEq]
      · rw [Store.latest_putObjectTx_flat put, same.bucket, same.key,
          here.1, here.2, if_pos rfl]
      · rw [same.isDeleteMarker]
        exact (version.flat flat).2
    · left
      refine version.sameKey (Store.putObjectTx_sameRest put)
        (Store.putObjectTx_sameKey put ?_)
      rw [same.bucket, same.key]
      exact here

end Rewrite

/-! ## Putting an object -/

section Put

variable {config : Config} {env : Env} {world : World} {bucket : String}
  {request : PutRequest}

/-- With active versioning a put adds a version. -/
theorem targetOf_active
    (env : Env) (world : World) (request : PutRequest)
    (active : versioningActive world.store bucket) :
    targetOf env world bucket request =
      .fresh (newVersionID env.versionID) := by
  unfold targetOf putTarget
  rw [if_pos active]

/-- No version can be put below the flat file of an object. -/
theorem not_inPlace_of_file
    {prepared : Prepared} (active : versioningActive world.store bucket)
    (file : (fileAt world.disk (objectPath bucket request.key)).isSome) :
    ¬ InPlace config env world bucket request prepared := by
  have target := targetOf_active env world request active
  rintro (⟨writable, _⟩ | ⟨swallows, _⟩)
  · have below : objectPath bucket request.key <+:
        (targetPath env world bucket request).dropLast := by
      have named := newVersionID_ne env.versionID
      unfold targetPath
      rw [target]
      unfold PutTarget.versionID dataPath
      rw [if_neg named, versionPath_eq _ _ (VersionID.plainName named)]
      simp
    have absent := writable.unblocked _ below
    unfold targetDisk at absent
    rw [target] at absent
    unfold clearedDisk at absent
    rw [absent] at file
    cases file
  · rw [target] at swallows
    cases swallows

end Put

/--
A put that does not replace the version: one of another object, or one that
adds a version with another id.  An object without versions needs its file,
which keeps new versions out.
-/
def PutBeside (env : Env) (world : World) (row : RowKey)
    (request : PutRequest) : Prop :=
  normalizeBucketKey world.store request.bucket = row.bucket →
    request.key = row.key → versioningActive world.store row.bucket = true ∧
        (row.versionID = "" →
          (fileAt world.disk (objectPath row.bucket row.key)).isSome) ∧
        (newVersionID env.versionID).text ≠ row.versionID

variable (config : Config) (env : Env) (world : World)
  (request : PutRequest)

theorem buckets_putObject :
    (putObject config env world request).1.store.buckets =
      world.store.buckets := by
  have ends := putObject_end config env world request
  generalize putObject config env world request = result at ends ⊢
  cases ends with
  | refused stored err added => exact added.buckets
  | failed bucketRec stored prepared err admitted added why =>
    exact added.buckets
  | committed bucketRec stored prepared info committed record admitted
      added inPlace formed put =>
      exact (Store.putObjectTx_sameRest put).buckets.trans added.buckets

theorem keysGrow_putObject :
    KeysGrow world.store (putObject config env world request).1.store := by
  have ends := putObject_end config env world request
  generalize putObject config env world request = result at ends ⊢
  cases ends with
  | refused stored err added => exact added.keysGrow
  | failed bucketRec stored prepared err admitted added why =>
    exact added.keysGrow
  | committed bucketRec stored prepared info committed record admitted
      added inPlace formed put =>
      exact added.keysGrow.trans
        (.of_eq (Store.putObjectTx_sameRest put).kmsKeys)

/-- A put beside a version keeps its row. -/
theorem IsVersion.putObject
    {env : Env} {request : PutRequest} {row : RowKey} {record : ObjectRecord}
    (version : IsVersion world.store row record)
    (beside : PutBeside env world row request) :
    IsVersion (putObject config env world request).1.store row record := by
  have ends := putObject_end config env world request
  generalize S3.putObject config env world request = result at ends ⊢
  cases ends with
  | refused stored err added => exact version.keyAdded added
  | failed bucketRec stored prepared err admitted added why =>
    exact version.keyAdded added
  | committed bucketRec stored prepared info committed new admitted added
      inPlace formed put =>
      have kept := version.keyAdded added
      have newBucket : (stored.filed new).bucket =
          normalizeBucketKey world.store request.bucket := by
        rw [formed]
        unfold Store.filed putRecord
        rw [Store.normalizeObjectBucket_congr added.buckets]
        exact normalizeObjectBucket_normalizeBucketKey _ _
      have newKey : (stored.filed new).key = request.key := by
        rw [formed]
        rfl
      by_cases here : row.bucket = normalizeBucketKey world.store
          request.bucket ∧ row.key = request.key
      · obtain ⟨active, file, other⟩ := beside here.1.symm here.2.symm
        rw [here.1] at active
        have activeNow : versioningActive stored
            (normalizeBucketKey world.store request.bucket) := by
          cases added <;> exact active
        by_cases unnamed : row.versionID = ""
        · have present := file unnamed
          rw [here.1, here.2] at present
          exact absurd inPlace (not_inPlace_of_file activeNow present)
        · have target := targetOf_active env
            { world with store := stored } request activeNow
          rw [target] at put formed
          refine kept.putVersioned put ?_ (absurd · unnamed)
          intro same
          apply other
          rw [same]
          simp only [formed]
          rfl
      · refine kept.sameKey (Store.putObjectTx_sameRest put)
          (Store.putObjectTx_sameKey put ?_)
        rw [newBucket, newKey]
        exact here

end DataSafe.S3
