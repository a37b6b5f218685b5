import DataSafe.Metadata.ScopeIndex
import DataSafe.S3.Calls
import DataSafe.Storage.Calls

/-!
# Deletion of buckets

`Service.DeleteBucket` deletes the record of a bucket and its entry in the
scope index in one transaction, which refuses if object rows are left.  Then
the backend removes the directory, and refuses if files are left.  The record
is gone at that time: an error of the backend reports a deletion that has half
happened.

The result says in which states an error means that nothing has changed.
-/

namespace DataSafe.S3

open Base Kms Metadata
open DataSafe.Metadata.ScopeIndex (bucketScopeForRecord scopeIndexKey)
open Storage

/-! ## The state -/

/-- A world with the scope index of its buckets. -/
structure Installation where
  world : World
  /-- `bucket_scope_index` -/
  index : Table String String
  /-- The owner ids of the bucket records, under their storage keys. -/
  ownerIDs : String → String

namespace Installation

/-- The entry of a record in the index. -/
def indexKey (state : Installation) (record : BucketRecord) : String :=
  scopeIndexKey (bucketScopeForRecord record.tenantID
      (state.ownerIDs record.effectiveStorageKey))
    record.name

end Installation

/-- The object tables hold rows of the bucket. -/
def hasRows (store : Store) (storageKey : String) : Bool :=
  store.latest.entries.any (fun entry => entry.1.bucket = storageKey) ||
    store.objects.entries.any (fun entry => entry.1.bucket = storageKey)

/-- The store without the record of a bucket. -/
def withoutBucket (store : Store) (storageKey : String) : Store where
  buckets := store.buckets.delete storageKey
  objects := store.objects
  latest := store.latest
  multipart := store.multipart
  kmsKeys := store.kmsKeys
  users := store.users
  bucket_key := by
    intro key record present
    obtain ⟨-, stored⟩ := (Table.get_delete_eq_some_iff _).mp present
    exact store.bucket_key key record stored
  object_row := store.object_row
  latest_ne := store.latest_ne
  kms_row := store.kms_row

/-! ## The two deletions -/

inductive BucketDeletionErr where
  | store (err : StoreErr)
  | bucketNotEmpty
  | backend (err : DeleteBucketErr)
deriving DecidableEq

namespace Installation

/-- `deleteBucketTx`, which rolls back what it has done if it fails. -/
def deleteBucketTx (state : Installation) (storageKey : String) :
    Except BucketDeletionErr Installation :=
  match state.world.store.getBucketByKey storageKey with
  | none => .error (.store .notFound)
  | some record =>
    if hasRows state.world.store storageKey then .error .bucketNotEmpty
    else
      .ok { state with
        world := { state.world with
          store := withoutBucket state.world.store storageKey }
        index := state.index.delete (state.indexKey record) }

end Installation

/-- The directory of a bucket. -/
def bucketDir (storageKey : String) : Path := join ["buckets", storageKey]

/-- `FSBackend.DeleteBucket` on a file system with faults. -/
def deleteBucketFiles (faults : Faults) (disk : Disk)
    (storageKey : String) : Except DeleteBucketErr Disk :=
  if faults .openFile (bucketDir storageKey) ∨
      faults .openFile (bucketDir storageKey ++ ["objects"]) then
    .error (.errno .io)
  else
    match Storage.deleteBucket disk storageKey with
    | .error err => .error err
    | .ok removed =>
      if faults .removeAll (bucketDir storageKey) then
        .error (.errno .io)
      else .ok removed

/-- What a deletion meets: the faults of its transaction and its files. -/
structure DeletionEnv where
  transactionFails : Bool := false
  faults : Faults := noFaults

/-- `Service.deleteBucket` -/
def Installation.deleteBucket (env : DeletionEnv) (state : Installation)
    (bucket : String) : Installation × Option BucketDeletionErr :=
  let storageKey := normalizeBucketKey state.world.store bucket
  if env.transactionFails then (state, some (.store .transaction))
  else
    match state.deleteBucketTx storageKey with
    | .error err => (state, some err)
    | .ok deleted =>
      match deleteBucketFiles env.faults deleted.world.disk storageKey with
      | .error err => (deleted, some (.backend err))
      | .ok disk =>
        ({ deleted with world := { deleted.world with disk := disk } }, none)

/-! ## What an error means -/

/-- The record, its entry, its rows and its files are as they were. -/
structure BucketUnchanged (before after : Installation)
    (storageKey : String) : Prop where
  record : after.world.store.getBucketByKey storageKey =
    before.world.store.getBucketByKey storageKey
  entry : ∀ record,
    before.world.store.getBucketByKey storageKey = some record →
      after.index.get (before.indexKey record) =
        before.index.get (before.indexKey record)
  rows : after.world.store.objects = before.world.store.objects
  files : ∀ path, fileAt after.world.disk (bucketDir storageKey ++ path) =
    fileAt before.world.disk (bucketDir storageKey ++ path)

/-- The metadata refuse the deletion. -/
def MetadataRefuse (env : DeletionEnv) (store : Store)
    (storageKey : String) : Prop :=
  env.transactionFails = true ∨ store.getBucketByKey storageKey = none ∨
    hasRows store storageKey = true

/-- The backend can remove the directory of a bucket. -/
structure Removable (faults : Faults) (disk : Disk)
    (storageKey : String) : Prop where
  readable : faults .openFile (bucketDir storageKey) = false
  walkable : faults .openFile (bucketDir storageKey ++ ["objects"]) = false
  removable : faults .removeAll (bucketDir storageKey) = false
  directory : disk.find (bucketDir storageKey) = some .directory
  children : ∀ name, (disk.find (bucketDir storageKey ++ [name])).isSome →
    name = "objects" ∨ name = "multipart"
  empty : ∀ rel,
    fileAt disk (bucketDir storageKey ++ "objects" :: rel) = none

variable {disk : Disk} {storageKey : String}

theorem mem_childNames_iff {directory : Path} {name : String} :
    name ∈ childNames disk directory ↔
      (disk.find (directory ++ [name])).isSome := by
  have stored : (disk.find (directory ++ [name])).isSome ↔
      ∃ node, (directory ++ [name], node) ∈ disk.nodes.entries := by
    simp only [FileTree.find, findNode, List.append_eq_nil_iff,
      List.cons_ne_self, and_false, if_false, Table.mem_entries_iff,
      Option.isSome_iff_exists]
  rw [stored, childNames, List.mem_filterMap]
  constructor
  · rintro ⟨⟨path, node⟩, listed, shown⟩
    split_ifs at shown with inside
    have whole := List.dropLast_append_getLast? name shown
    rw [inside] at whole
    exact ⟨node, whole ▸ listed⟩
  · rintro ⟨node, listed⟩
    exact ⟨_, listed, by simp⟩

theorem mem_filesBelow_objects_iff
    {rel : Path} {blob : Blob} :
    (rel, blob) ∈ filesBelow disk (bucketDir storageKey ++ ["objects"]) ↔
      fileAt disk (bucketDir storageKey ++ "objects" :: rel) =
        some blob := by
  rw [mem_filesBelow_iff (by simp), List.append_assoc, List.singleton_append]

theorem filesBelow_objects_eq_nil_iff :
    filesBelow disk (bucketDir storageKey ++ ["objects"]) = [] ↔
      ∀ rel, fileAt disk (bucketDir storageKey ++ "objects" :: rel) =
        none := by
  rw [List.eq_nil_iff_forall_not_mem]
  constructor
  · intro bare rel
    by_contra file
    obtain ⟨blob, file⟩ := Option.ne_none_iff_exists'.mp file
    exact bare (rel, blob) (mem_filesBelow_objects_iff.mpr file)
  · rintro empty ⟨rel, blob⟩ listed
    have file := mem_filesBelow_objects_iff.mp listed
    rw [empty rel] at file
    cases file

/-- A file makes the directory above it an entry of the bucket. -/
theorem isSome_objects_of_fileAt
    {rel : Path} {blob : Blob}
    (file : fileAt disk (bucketDir storageKey ++ "objects" :: rel) =
      some blob) :
    (disk.find (bucketDir storageKey ++ ["objects"])).isSome := by
  cases rel with
  | nil =>
    rw [fileAt_eq_some_iff.mp file]
    rfl
  | cons name rest =>
    rw [disk.find_append_of_isSome
      (bucketDir storageKey ++ ["objects"]) (name :: rest)
      (by simp [fileAt_eq_some_iff.mp file]) (by simp)]
    rfl

/-- Nothing in the directory counts as content of the bucket. -/
theorem content_eq_false_iff :
    ((childNames disk (bucketDir storageKey)).any fun name =>
        if name = "objects" then
          !(filesBelow disk (bucketDir storageKey ++ ["objects"])).isEmpty
        else name ≠ "multipart") = false ↔
      (∀ name, (disk.find (bucketDir storageKey ++ [name])).isSome →
        name = "objects" ∨ name = "multipart") ∧
      ∀ rel,
        fileAt disk (bucketDir storageKey ++ "objects" :: rel) = none := by
  rw [List.any_eq_false]
  constructor
  · intro passes
    constructor
    · intro name listed
      have kind := passes name (mem_childNames_iff.mpr listed)
      split_ifs at kind with objects
      · exact .inl objects
      · exact .inr (by simpa using kind)
    · intro rel
      by_contra file
      obtain ⟨blob, file⟩ := Option.ne_none_iff_exists'.mp file
      have bare := passes "objects"
        (mem_childNames_iff.mpr (isSome_objects_of_fileAt file))
      have absent := filesBelow_objects_eq_nil_iff.mp (by simpa using bare)
        rel
      rw [file] at absent
      cases absent
  · rintro ⟨children, empty⟩ name listed
    have bare := filesBelow_objects_eq_nil_iff.mpr empty
    rcases children name (mem_childNames_iff.mp listed) with rfl | rfl
    · simp [bare]
    · simp

/-- Without faults a bucket without files in it is removed. -/
theorem deleteBucket_ok_iff :
    (∃ removed, Storage.deleteBucket disk storageKey = .ok removed) ↔
      disk.find (bucketDir storageKey) = some .directory ∧
        (∀ name, (disk.find (bucketDir storageKey ++ [name])).isSome →
          name = "objects" ∨ name = "multipart") ∧
        ∀ rel,
          fileAt disk (bucketDir storageKey ++ "objects" :: rel) = none := by
  have stat : ∀ node, disk.stat (bucketDir storageKey) = .ok node ↔
      disk.find (bucketDir storageKey) = some node := by
    intro node
    unfold FileTree.stat
    cases disk.find (bucketDir storageKey) <;> simp
  rw [← content_eq_false_iff]
  unfold Storage.deleteBucket
  dsimp only
  rw [show join ["buckets", storageKey] = bucketDir storageKey from rfl]
  constructor
  · rintro ⟨removed, deleted⟩
    split at deleted
    · cases deleted
    · cases deleted
    · cases deleted
    · rename_i present
      split at deleted
      · cases deleted
      · rename_i content
        exact ⟨(stat _).mp present, Bool.eq_false_iff.mpr content⟩
  · rintro ⟨there, content⟩
    rw [(stat _).mpr there]
    rw [if_neg (Bool.eq_false_iff.mp content)]
    cases result : disk.removeAll (bucketDir storageKey) with
    | ok removed => exact ⟨removed, rfl⟩
    | error errno =>
      have stuck := ((FileTree.removeAll_error_iff _ _ _).mp result).2
      rw [disk.blocked_of_isSome (by rw [there]; rfl)] at stuck
      cases stuck

/-- The backend removes a bucket exactly if it is a directory of this kind. -/
theorem deleteBucketFiles_ok_iff {faults : Faults} :
    (∃ removed, deleteBucketFiles faults disk storageKey = .ok removed) ↔
      Removable faults disk storageKey := by
  have plain := @deleteBucket_ok_iff disk storageKey
  unfold deleteBucketFiles
  constructor
  · rintro ⟨removed, done⟩
    split at done
    · cases done
    · rename_i faulty
      split at done
      · cases done
      · rename_i found deleted
        split at done
        · cases done
        · rename_i fault
          obtain ⟨there, children, empty⟩ := plain.mp ⟨found, deleted⟩
          rw [not_or] at faulty
          exact ⟨by simpa using faulty.1, by simpa using faulty.2,
            by simpa using fault, there, children, empty⟩
  · rintro ⟨readable, walkable, removable, there, children, empty⟩
    obtain ⟨removed, deleted⟩ := plain.mpr ⟨there, children, empty⟩
    exact ⟨removed, by simp [readable, walkable, removable, deleted]⟩

section Deletion

variable {env : DeletionEnv} {state : Installation} {bucket : String}

theorem deleteBucketTx_ok {record : BucketRecord}
    (stored : state.world.store.getBucketByKey storageKey = some record)
    (rows : hasRows state.world.store storageKey = false) :
    state.deleteBucketTx storageKey =
      .ok { state with
        world := { state.world with
          store := withoutBucket state.world.store storageKey }
        index := state.index.delete (state.indexKey record) } := by
  simp [Installation.deleteBucketTx, stored, rows]

/-- Deletions that the metadata refuse leave the state alone. -/
theorem deleteBucket_refused
    (refused : MetadataRefuse env state.world.store
      (normalizeBucketKey state.world.store bucket)) :
    (state.deleteBucket env bucket).1 = state := by
  unfold Installation.deleteBucket
  dsimp only
  split_ifs with fails
  · rfl
  · split
    · rfl
    · rename_i deleted committed
      unfold Installation.deleteBucketTx at committed
      rcases refused with failing | missing | rows
      · exact absurd failing fails
      · rw [missing] at committed
        cases committed
      · split at committed
        · cases committed
        · rw [if_pos rows] at committed
          cases committed

/-- The record is gone once the transaction has committed. -/
theorem deleteBucket_committed
    (accepted : ¬ MetadataRefuse env state.world.store
      (normalizeBucketKey state.world.store bucket)) :
    (state.deleteBucket env bucket).1.world.store =
        withoutBucket state.world.store
          (normalizeBucketKey state.world.store bucket) ∧
      ((state.deleteBucket env bucket).2 = none ↔
        ∃ removed, deleteBucketFiles env.faults state.world.disk
          (normalizeBucketKey state.world.store bucket) = .ok removed) := by
  unfold MetadataRefuse at accepted
  push Not at accepted
  obtain ⟨works, present, rows⟩ := accepted
  obtain ⟨record, stored⟩ := Option.ne_none_iff_exists'.mp present
  unfold Installation.deleteBucket
  rw [if_neg works, deleteBucketTx_ok stored (by simpa using rows)]
  dsimp only
  cases deleteBucketFiles env.faults state.world.disk
      (normalizeBucketKey state.world.store bucket) with
  | error err => simp
  | ok removed => simp

end Deletion

/--
An error of a deletion means that the bucket is as it was exactly if the
metadata refuse the deletion or the backend can carry it out.
-/
theorem failed_deletion_keeps_iff (env : DeletionEnv)
    (state : Installation) (bucket : String) :
    ((state.deleteBucket env bucket).2 ≠ none →
        BucketUnchanged state (state.deleteBucket env bucket).1
          (normalizeBucketKey state.world.store bucket)) ↔
      MetadataRefuse env state.world.store
          (normalizeBucketKey state.world.store bucket) ∨
        Removable env.faults state.world.disk
          (normalizeBucketKey state.world.store bucket) := by
  by_cases refused : MetadataRefuse env state.world.store
      (normalizeBucketKey state.world.store bucket)
  · refine iff_of_true (fun _ => ?_) (.inl refused)
    rw [deleteBucket_refused refused]
    exact ⟨rfl, fun _ _ => rfl, rfl, fun _ => rfl⟩
  · obtain ⟨store, done⟩ := deleteBucket_committed refused
    rw [deleteBucketFiles_ok_iff] at done
    rw [ne_eq, done, or_iff_right refused]
    constructor
    · intro kept
      by_contra stuck
      have record := (kept stuck).record
      rw [store] at record
      have gone : (withoutBucket state.world.store
          (normalizeBucketKey state.world.store bucket)).getBucketByKey
            (normalizeBucketKey state.world.store bucket) = none :=
        Table.get_delete_self _ _
      exact refused (.inr (.inl (record.symm.trans gone)))
    · intro removable stuck
      exact absurd removable stuck

/-! ### A file that a delete has left behind -/

/-- A call whose removal of a file fails. -/
def unremovingEnv : Env :=
  { callEnv 4 with
    faults := fun _ syscall _ => decide (syscall = .remove) }

/-- A put, and a delete that loses the record and leaves the file. -/
def leftoverCalls : List Call :=
  plainCalls ++ [.deleteObject unremovingEnv "b" "k" "" false]

def leftoverState : Installation where
  world := run plainConfig leftoverCalls
  index := Table.empty.put (scopeIndexKey (.owner "") "b") "b"
  ownerIDs := fun _ => ""

/--
The bucket has no objects, its deletion is refused by the backend, and its
record and its entry in the index are gone.
-/
theorem refused_deletion_loses_bucket :
    (leftoverState.world.store.getBucketByKey "b").isSome = true ∧
      hasRows leftoverState.world.store "b" = false ∧
      (leftoverState.deleteBucket {} "b").2 = some (.backend .notEmpty) ∧
      (leftoverState.deleteBucket {} "b").1.world.store.getBucketByKey "b" =
        none ∧
      (leftoverState.deleteBucket {} "b").1.index.get
        (scopeIndexKey (.owner "") "b") = none ∧
      (fileAt (leftoverState.deleteBucket {} "b").1.world.disk
        (dataPath "b" "k" .null)).isSome = true := by
  decide +kernel

end DataSafe.S3
