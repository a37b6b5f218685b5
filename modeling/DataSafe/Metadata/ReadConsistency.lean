import DataSafe.Metadata.LatestPointer
import DataSafe.Metadata.Listing

/-!
# Reading the Bolt store in different ways

A key can have a flat row next to versions and a pointer to one of them, and
each reader falls back from one to the other by its own rule.  A listing and a
read of the current object agree as long as a delete marker does not meet a
flat row; a read of a version returns that version as long as its key has no
flat row to fall back to.
-/

namespace DataSafe.Metadata

open Base

variable {store : Store} {bucket key : String} {record : ObjectRecord}

namespace Store

/-! ## Listings -/

/-- A listing holds the current objects, each once. -/
structure ListsCurrent (store : Store) (bucket start : String) : Prop where
  keys : ∀ key,
    (∃ record ∈ store.listObjectsFrom bucket start 0, record.key = key) ↔
      hasStart start key = true ∧
        ∃ record, store.getObject bucket key = some record ∧
          record.isDeleteMarker = false
  once : ((store.listObjectsFrom bucket start 0).map ObjectRecord.key).Nodup
  same : ∀ record ∈ store.listObjectsFrom bucket start 0,
    store.getObject bucket record.key = some record

/-- No delete marker is or has a flat row of its key. -/
def NoMarkedFlat (store : Store) : Prop :=
  ∀ bucket key, (store.objects.get ⟨bucket, key, ""⟩).isSome →
    ∀ versionID record,
      store.objects.get ⟨bucket, key, versionID⟩ = some record →
        record.isDeleteMarker = false

/-- A put of a delete marker is versioned and meets no flat row. -/
def MarksNoFlat (store : Store) : ObjectWrite → Prop
  | .put record versioned =>
    record.isDeleteMarker = true → versioned = true ∧ store.objects.get
        ⟨store.normalizeObjectBucket record.bucket, record.key, ""⟩ = none
  | .delete _ _ _ _ => True

instance (store : Store) (write : ObjectWrite) :
    Decidable (store.MarksNoFlat write) :=
  match write with
  | .put _ _ => inferInstanceAs (Decidable (_ → _))
  | .delete _ _ _ _ => inferInstanceAs (Decidable True)

/-- The version that the pointer names is the current object. -/
theorem getObject_of_pointed
    {versionID : String}
    (points : store.latest.get
      ⟨store.normalizeObjectBucket bucket, key⟩ = some versionID)
    (row : store.objects.get
      ⟨store.normalizeObjectBucket bucket, key, versionID⟩ = some record) :
    store.getObject bucket key = some record := by
  have named := store.latest_ne _ versionID points
  simp [getObject, getObjectVersion, wantedID, versionRow, points, named, row]

section

variable (unmarked : NoMarkedFlat store)

include unmarked

/-- Without such a version the flat row is, unless it is a marker. -/
theorem NoMarkedFlat.getObject_flat
    (dangling : ∀ versionID, store.latest.get ⟨store.normalizeObjectBucket
      bucket, key⟩ = some versionID → store.objects.get
      ⟨store.normalizeObjectBucket bucket, key, versionID⟩ = none) :
    store.getObject bucket key = store.objects.get
      ⟨store.normalizeObjectBucket bucket, key, ""⟩ := by
  have noVersion : store.versionRow (store.normalizeObjectBucket bucket) key
      (store.wantedID (store.normalizeObjectBucket bucket) key "") =
        none := by
    cases points : store.latest.get
        ⟨store.normalizeObjectBucket bucket, key⟩ with
    | none => simp [versionRow, wantedID, points]
    | some versionID =>
      simp [versionRow, wantedID, points, dangling versionID points]
  unfold getObject getObjectVersion
  simp only [noVersion]
  cases flat : store.objects.get
      ⟨store.normalizeObjectBucket bucket, key, ""⟩ with
  | none => rfl
  | some record =>
    simp [unmarked _ key (by simp [flat]) "" record flat]

/-- Where no marker meets a flat row a listing and a read agree. -/
theorem NoMarkedFlat.mem_listObjectsFrom
    {start : String} :
    record ∈ store.listObjectsFrom bucket start 0 ↔
      hasStart start record.key = true ∧
        store.getObject bucket record.key = some record ∧
        record.isDeleteMarker = false := by
  rw [mem_listObjectsFrom_iff, mem_versionedObjects_iff, mem_flatObjects_iff]
  constructor
  · rintro (⟨key, versionID, points, starts, row, current⟩ |
      ⟨key, row, starts, unseen⟩)
    · obtain ⟨_, sameKey, _⟩ := store.object_row _ record row
      rw [sameKey]
      exact ⟨starts, getObject_of_pointed points row, current⟩
    · obtain ⟨_, sameKey, _⟩ := store.object_row _ record row
      have noMarker := unmarked (store.normalizeObjectBucket bucket) key
        (by simp [row])
      rw [sameKey]
      refine ⟨starts, ?_, noMarker "" record row⟩
      rw [unmarked.getObject_flat, row]
      -- A version that the pointer names would have been listed.
      intro versionID points
      by_contra present
      obtain ⟨other, found⟩ := Option.ne_none_iff_exists'.mp present
      exact unseen other (mem_versionedObjects_iff.mpr ⟨key, versionID,
        points, starts, found, noMarker versionID other found⟩)
        (store.object_row _ other found).2.1
  · rintro ⟨starts, read, current⟩
    by_cases pointed : ∃ versionID other,
        store.latest.get ⟨store.normalizeObjectBucket bucket, record.key⟩ =
          some versionID ∧
        store.objects.get ⟨store.normalizeObjectBucket bucket, record.key,
          versionID⟩ = some other
    · obtain ⟨versionID, other, points, row⟩ := pointed
      rw [getObject_of_pointed points row] at read
      cases read
      exact .inl ⟨record.key, versionID, points, starts, row, current⟩
    · have dangling : ∀ versionID,
          store.latest.get ⟨store.normalizeObjectBucket bucket,
            record.key⟩ = some versionID →
          store.objects.get ⟨store.normalizeObjectBucket bucket, record.key,
            versionID⟩ = none := by
        intro versionID points
        by_contra present
        obtain ⟨other, found⟩ := Option.ne_none_iff_exists'.mp present
        exact pointed ⟨versionID, other, points, found⟩
      rw [unmarked.getObject_flat dangling] at read
      refine .inr ⟨record.key, read, starts, ?_⟩
      intro other listed sameKey
      obtain ⟨key, versionID, points, _, row, _⟩ :=
        mem_versionedObjects_iff.mp listed
      obtain ⟨_, otherKey, _⟩ := store.object_row _ other row
      change other.key = key at otherKey
      rw [← otherKey, sameKey] at points row
      exact pointed ⟨versionID, other, points, row⟩

theorem NoMarkedFlat.listsCurrent
    (bucket start : String) : ListsCurrent store bucket start where
  keys := by
    intro key
    constructor
    · rintro ⟨record, listed, rfl⟩
      obtain ⟨starts, read, current⟩ := unmarked.mem_listObjectsFrom.mp listed
      exact ⟨starts, record, read, current⟩
    · rintro ⟨starts, record, read, current⟩
      obtain ⟨rowID, row, _⟩ := getObjectVersion_row read
      obtain ⟨_, sameKey, _⟩ := store.object_row _ record row
      subst sameKey
      exact ⟨record, unmarked.mem_listObjectsFrom.mpr
        ⟨starts, read, current⟩, rfl⟩
  once := store.listObjectsFrom_nodup bucket start
  same := fun record listed => (unmarked.mem_listObjectsFrom.mp listed).2.1

theorem NoMarkedFlat.afterWrite
    {write : ObjectWrite} (noFlat : store.MarksNoFlat write) :
    NoMarkedFlat (store.afterWrite write) := by
  refine afterWrite_of_write unmarked (fun stored done => ?_)
  intro bucket key flat versionID found row
  cases write with
  | delete otherBucket otherKey otherID enabled =>
    obtain ⟨record, flatRow⟩ := Option.isSome_iff_exists.mp flat
    refine unmarked bucket key ?_ versionID found
      (get_of_deleteObjectVersion done row)
    simp [get_of_deleteObjectVersion done flatRow]
  | put record versioned =>
    by_cases here : bucket = (store.filed record).bucket ∧
        key = (store.filed record).key
    · obtain ⟨rfl, rfl⟩ := here
      cases versioned with
      | false =>
        -- The flat row is all that the key has now.
        rw [get_putObjectTx_flat done] at row
        split_ifs at row with own inKey
        · cases row
          by_contra marker
          cases (noFlat (Bool.not_eq_false _ |>.mp marker)).1
        · exact absurd ⟨rfl, rfl⟩ inKey
      | true =>
        have named := putObjectTx_versioned_ok_iff.mp ⟨stored, done⟩
        rw [get_putObjectTx_versioned done, if_neg (fun same =>
          named (RowKey.mk.inj same).2.2.symm)] at flat
        rw [get_putObjectTx_versioned done] at row
        split_ifs at row
        · cases row
          by_contra marker
          have absent := (noFlat (Bool.not_eq_false _ |>.mp marker)).2
          change (store.objects.get ⟨store.normalizeObjectBucket
            record.bucket, record.key, ""⟩).isSome = true at flat
          rw [absent] at flat
          cases flat
        · exact unmarked _ _ flat versionID found row
    · have sameKey := putObjectTx_sameKey done here
      rw [sameKey.rows] at flat row
      exact unmarked bucket key flat versionID found row

end

/-! ## Reads of a version -/

/-- A write is not an unversioned put of a key. -/
def SparesFlat (bucket key : String) (store : Store) : ObjectWrite → Prop
  | .put record false =>
    ¬ (store.normalizeObjectBucket record.bucket =
        store.normalizeObjectBucket bucket ∧ record.key = key)
  | _ => True

instance (bucket key : String) (store : Store) (write : ObjectWrite) :
    Decidable (SparesFlat bucket key store write) :=
  match write with
  | .put _ false => inferInstanceAs (Decidable (¬ _))
  | .put _ true => inferInstanceAs (Decidable True)
  | .delete _ _ _ _ => inferInstanceAs (Decidable True)

/-- Without a flat row a read of a version finds that version. -/
theorem versionID_of_getObjectVersion
    {versionID : String}
    (noFlat : store.objects.get ⟨store.normalizeObjectBucket bucket, key, ""⟩
      = none) (named : versionID ≠ "")
    (found : store.getObjectVersion bucket key versionID = some record) :
    record.versionID.text = versionID := by
  obtain ⟨rowID, row, here⟩ := getObjectVersion_row found
  rcases here with rfl | wanted
  · rw [noFlat] at row
    cases row
  · have asked : rowID = versionID := wanted.trans (if_neg named)
    subst asked
    exact (store.object_row _ record row).2.2 named

theorem noFlat_afterWrite
    (noFlat : store.objects.get
      ⟨store.normalizeObjectBucket bucket, key, ""⟩ = none)
    {write : ObjectWrite} (spares : SparesFlat bucket key store write) :
    (store.afterWrite write).objects.get
      ⟨(store.afterWrite write).normalizeObjectBucket bucket, key, ""⟩ =
        none := by
  refine afterWrite_of_write (motive := fun store => store.objects.get
    ⟨store.normalizeObjectBucket bucket, key, ""⟩ = none) noFlat
      (fun stored done => ?_)
  simp only [normalizeObjectBucket_congr (write_sameRest done).buckets]
  cases write with
  | delete otherBucket otherKey otherID enabled =>
    by_contra present
    obtain ⟨record, found⟩ := Option.ne_none_iff_exists'.mp present
    rw [get_of_deleteObjectVersion done found] at noFlat
    cases noFlat
  | put record versioned =>
    cases versioned with
    | false =>
      have put : store.putObjectTx (store.filed record) false =
          .ok stored := done
      rw [(putObjectTx_sameKey put
        (fun same => spares ⟨same.1.symm, same.2.symm⟩)).rows]
      exact noFlat
    | true =>
      have named := putObjectTx_versioned_ok_iff.mp ⟨stored, done⟩
      rw [get_putObjectTx_versioned done, if_neg (fun same =>
        named (RowKey.mk.inj same).2.2.symm)]
      exact noFlat

/-- Every version of a key that can be read is the one that was asked for. -/
def ReadsVersions (store : Store) (bucket key : String) : Prop :=
  ∀ versionID record, versionID ≠ "" →
    store.getObjectVersion bucket key versionID = some record →
      record.versionID.text = versionID

/--
In every state of a run the listings hold the current objects if no delete
marker meets a flat row, and the versions of a key are read as they were asked
for if the key was not put without versions.
-/
theorem reads_consistent
    (start : Store) (noObjects : start.NoObjects)
    (writes : List ObjectWrite) :
    (Guarded afterWrite MarksNoFlat start writes → ∀ bucket keyStart,
        ListsCurrent (runAll afterWrite start writes) bucket keyStart) ∧
      ∀ bucket key, Guarded afterWrite (SparesFlat bucket key) start writes →
          ReadsVersions (runAll afterWrite start writes) bucket key := by
  refine ⟨fun guarded bucket keyStart => ?_, fun bucket key guarded => ?_⟩
  · refine NoMarkedFlat.listsCurrent ?_ bucket keyStart
    refine guarded.invariant ?_ (fun store write unmarked noFlat =>
      unmarked.afterWrite noFlat)
    intro bucket key present
    rw [noObjects.rows] at present
    cases present
  · intro versionID record named found
    refine versionID_of_getObjectVersion ?_ named found
    exact guarded.invariant (motive := fun store => store.objects.get
      ⟨store.normalizeObjectBucket bucket, key, ""⟩ = none)
        (noObjects.rows _) (fun store write noFlat spares =>
          noFlat_afterWrite noFlat spares)

/-- A delete marker of the note. -/
def noteMarker (random : UInt8) (time : Time) : ObjectRecord :=
  { noteVersion random time "" with isDeleteMarker := true }

/-- An object next to the note that has no versions. -/
def flatRecord : ObjectRecord :=
  { noteVersion 1 1000 "flat" with key := "plain", versionID := .null }

/-- A note is put twice and marked, and another object has no versions. -/
def markedNote : List ObjectWrite :=
  [.put flatRecord false, .put (noteVersion 1 1000 "a") true,
    .put (noteVersion 2 2000 "b") true, .put (noteMarker 3 3000) true,
    .delete "docs" "note" (newVersionID ⟨[1], by simp⟩).text true]

theorem markedNote_reads :
    ListsCurrent (runAll afterWrite empty markedNote) "docs" "" ∧
      ReadsVersions (runAll afterWrite empty markedNote) "docs" "note" :=
  ⟨(reads_consistent empty noObjects_empty markedNote).1
      (by decide) "docs" "",
    (reads_consistent empty noObjects_empty markedNote).2 "docs"
      "note" (by decide)⟩

/--
A marker on top of a flat row hides it from a read and not from a listing, and
a version that does not exist is answered with the flat row.
-/
theorem flat_row_read_inconsistently :
    ((runAll afterWrite empty [.put flatRecord false,
        .put { noteMarker 2 2000 with key := "plain" } true]).listObjectsFrom
          "docs" "" 0 = [flatRecord] ∧
      (runAll afterWrite empty [.put flatRecord false,
        .put { noteMarker 2 2000 with key := "plain" } true]).getObject
          "docs" "plain" = some { noteMarker 2 2000 with key := "plain" }) ∧
      (runAll afterWrite empty [.put flatRecord false]).getObjectVersion
        "docs" "plain" "ff" = some flatRecord ∧
      flatRecord.versionID.text ≠ "ff" := by
  decide

end Store

end DataSafe.Metadata
