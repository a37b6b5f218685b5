import DataSafe.Metadata.Store
import Mathlib.Data.String.Basic

/-!
# Listings of the Bolt store

`ListObjects` walks the pointers of `object_latest` first and then the flat
rows of the keys that it has not met; a limit cuts this walk, and what is left
is sorted by key.  The rows of a bucket stand in the order of their keys and
version ids, so each key is met once.
-/

namespace DataSafe.Metadata

open Base

/-- `strings.HasPrefix` -/
def hasStart (start key : String) : Bool :=
  start.toList.isPrefixOf key.toList

/-- A limit that is not positive does not count. -/
def limited {Item : Type} (maxKeys : Int) (items : List Item) : List Item :=
  if 0 < maxKeys then items.take maxKeys.toNat else items

/-- The order of the pointers within a bucket. -/
def ObjectKey.before (left right : ObjectKey) : Bool := left.key ≤ right.key

variable {store : Store} {bucket start : String} {record : ObjectRecord}

namespace Store

/-- The version that a pointer names, unless it is a delete marker. -/
def pointedObject (store : Store) (bucket : String)
    (entry : ObjectKey × String) : Option ObjectRecord :=
  (store.objects.get ⟨bucket, entry.1.key, entry.2⟩).filter (fun record =>
    !record.isDeleteMarker)

/-- The current versions of a bucket, in the order of their keys. -/
def versionedObjects (store : Store) (bucket start : String) :
    List ObjectRecord :=
  ((store.latest.scan ObjectKey.before).filter (fun entry =>
    entry.1.bucket = bucket && hasStart start entry.1.key)).filterMap
      (store.pointedObject bucket)

/-- The flat rows of the keys that have no current version. -/
def flatObjects (store : Store) (bucket start : String) :
    List ObjectRecord :=
  ((store.rows bucket).filter (fun row =>
    row.1.versionID = "" && hasStart start row.1.key &&
      !(store.versionedObjects bucket start).any (fun record =>
        record.key = row.1.key))).map Prod.snd

/-- `ListObjects` with a key prefix and a limit. -/
def listObjectsFrom (store : Store) (bucket start : String)
    (maxKeys : Int) : List ObjectRecord :=
  let bucket := store.normalizeObjectBucket bucket
  (limited maxKeys (store.versionedObjects bucket start ++
    store.flatObjects bucket start)).insertionSort
      (fun left right => left.key ≤ right.key)

/-! ## What the walks meet -/

theorem rowKey_before_total (left right : RowKey) :
    RowKey.before left right = true ∨ RowKey.before right left = true := by
  simp only [RowKey.before, Bool.or_eq_true, Bool.and_eq_true,
    decide_eq_true_eq]
  rcases lt_trichotomy left.key right.key with first | same | second
  · exact .inl (.inl first)
  · rcases le_total left.versionID right.versionID with smaller | greater
    · exact .inl (.inr ⟨same, smaller⟩)
    · exact .inr (.inr ⟨same.symm, greater⟩)
  · exact .inr (.inl second)

theorem rowKey_before_trans
    {left middle right : RowKey} (first : RowKey.before left middle = true)
    (second : RowKey.before middle right = true) :
    RowKey.before left right = true := by
  simp only [RowKey.before, Bool.or_eq_true, Bool.and_eq_true,
    decide_eq_true_eq] at *
  rcases first with first | ⟨same, first⟩
  · rcases second with second | ⟨equal, _⟩
    · exact .inl (first.trans second)
    · exact .inl (equal ▸ first)
  · rcases second with second | ⟨equal, second⟩
    · exact .inl (same ▸ second)
    · exact .inr ⟨same.trans equal, first.trans second⟩

theorem mem_rows_iff
    {row : RowKey} :
    (row, record) ∈ store.rows bucket ↔
      row.bucket = bucket ∧ store.objects.get row = some record := by
  simp only [rows, List.mem_filter, Table.mem_scan_iff, decide_eq_true_eq]
  exact and_comm

/-- The rows come in the order of a scan, each once. -/
theorem rows_sorted (store : Store) (bucket : String) :
    (store.rows bucket).Pairwise (fun left right =>
      RowKey.before left.1 right.1 = true ∧ left.1 ≠ right.1) :=
  (store.objects.scan_pairwise rowKey_before_total
    (fun _ _ _ => rowKey_before_trans)).filter _

/-- The rows come in the order of their keys, each once. -/
theorem rows_pairwise (store : Store) (bucket : String) :
    (store.rows bucket).Pairwise (fun left right =>
      left.1.key ≤ right.1.key ∧ left.1 ≠ right.1) := by
  refine (store.rows_sorted bucket).imp ?_
  rintro left right ⟨before, apart⟩
  refine ⟨?_, apart⟩
  simp only [RowKey.before, Bool.or_eq_true, Bool.and_eq_true,
    decide_eq_true_eq] at before
  rcases before with less | ⟨same, _⟩
  · exact less.le
  · exact same.le

theorem mem_versionedObjects_iff :
    record ∈ store.versionedObjects bucket start ↔
      ∃ key versionID, store.latest.get ⟨bucket, key⟩ = some versionID ∧
        hasStart start key = true ∧
        store.objects.get ⟨bucket, key, versionID⟩ = some record ∧
        record.isDeleteMarker = false := by
  simp only [versionedObjects, List.mem_filterMap, List.mem_filter,
    Bool.and_eq_true, decide_eq_true_eq]
  constructor
  · rintro ⟨⟨⟨_, key⟩, versionID⟩, ⟨member, rfl, starts⟩, found⟩
    obtain ⟨row, current⟩ := Option.filter_eq_some_iff.mp found
    exact ⟨key, versionID, (Table.mem_scan_iff _ _ _ _).mp member, starts,
      row, by simpa using current⟩
  · rintro ⟨key, versionID, pointer, starts, row, current⟩
    exact ⟨(⟨bucket, key⟩, versionID),
      ⟨(Table.mem_scan_iff _ _ _ _).mpr pointer, rfl, starts⟩,
      Option.filter_eq_some_iff.mpr ⟨row, by simpa using current⟩⟩

/-- Current versions come in the order of their keys, one for each. -/
theorem versionedObjects_pairwise (store : Store) (bucket start : String) :
    (store.versionedObjects bucket start).Pairwise (fun left right =>
      left.key < right.key) := by
  have scanned : (store.latest.scan ObjectKey.before).Pairwise
      (fun left right => left.1.key ≤ right.1.key ∧ left.1 ≠ right.1) := by
    refine (store.latest.scan_pairwise ?_ ?_).imp (fun {left right} both => ?_)
    · intro left right
      simpa [ObjectKey.before] using le_total left.key right.key
    · intro left middle right first second
      simp only [ObjectKey.before, decide_eq_true_eq] at *
      exact first.trans second
    · simpa [ObjectKey.before] using both
  unfold versionedObjects
  rw [List.pairwise_filterMap]
  refine List.Pairwise.imp_of_mem ?_ (scanned.filter _)
  rintro ⟨⟨_, left⟩, _⟩ ⟨⟨_, right⟩, _⟩ leftMember rightMember
    ⟨order, apart⟩ first firstFound second secondFound
  simp only [List.mem_filter, Bool.and_eq_true, decide_eq_true_eq]
    at leftMember rightMember
  obtain ⟨_, rfl, _⟩ := leftMember
  obtain ⟨_, rfl, _⟩ := rightMember
  have firstKey := (store.object_row _ first
    (Option.filter_eq_some_iff.mp firstFound).1).2.1
  have secondKey := (store.object_row _ second
    (Option.filter_eq_some_iff.mp secondFound).1).2.1
  rw [firstKey, secondKey]
  refine lt_of_le_of_ne order fun same => apart ?_
  simp only at same
  rw [same]

theorem mem_flatObjects_iff :
    record ∈ store.flatObjects bucket start ↔
      ∃ key, store.objects.get ⟨bucket, key, ""⟩ = some record ∧
        hasStart start key = true ∧
        ∀ other ∈ store.versionedObjects bucket start, other.key ≠ key := by
  simp only [flatObjects, List.mem_map, List.mem_filter, Bool.and_eq_true,
    decide_eq_true_eq, Bool.not_eq_true', List.any_eq_false]
  constructor
  · rintro ⟨⟨⟨_, key, _⟩, _⟩, ⟨member, ⟨rfl, starts⟩, unseen⟩, rfl⟩
    obtain ⟨rfl, row⟩ := mem_rows_iff.mp member
    exact ⟨key, row, starts, unseen⟩
  · rintro ⟨key, row, starts, unseen⟩
    exact ⟨(⟨bucket, key, ""⟩, record),
      ⟨mem_rows_iff.mpr ⟨rfl, row⟩, ⟨rfl, starts⟩, unseen⟩, rfl⟩

theorem flatObjects_pairwise (store : Store) (bucket start : String) :
    (store.flatObjects bucket start).Pairwise (fun left right =>
      left.key < right.key) := by
  unfold flatObjects
  rw [List.pairwise_map]
  refine List.Pairwise.imp_of_mem ?_ ((store.rows_pairwise bucket).filter _)
  rintro ⟨⟨_, left, _⟩, first⟩ ⟨⟨_, right, _⟩, second⟩ leftMember rightMember
    ⟨order, apart⟩
  simp only [List.mem_filter, Bool.and_eq_true, decide_eq_true_eq]
    at leftMember rightMember
  obtain ⟨leftRow, ⟨rfl, _⟩, _⟩ := leftMember
  obtain ⟨rightRow, ⟨rfl, _⟩, _⟩ := rightMember
  obtain ⟨rfl, firstRow⟩ := mem_rows_iff.mp leftRow
  obtain ⟨sameBucket, secondRow⟩ := mem_rows_iff.mp rightRow
  rw [(store.object_row _ first firstRow).2.1,
    (store.object_row _ second secondRow).2.1]
  refine lt_of_le_of_ne order fun same => apart ?_
  simp only at same sameBucket
  rw [same, sameBucket]

/-- A listing meets each key once. -/
theorem walk_distinct (store : Store) (bucket start : String) :
    (store.versionedObjects bucket start ++
      store.flatObjects bucket start).Pairwise (fun left right =>
        left.key ≠ right.key) := by
  rw [List.pairwise_append]
  refine ⟨(store.versionedObjects_pairwise bucket start).imp ne_of_lt,
    (store.flatObjects_pairwise bucket start).imp ne_of_lt, ?_⟩
  intro left leftMember right rightMember
  obtain ⟨key, row, _, unseen⟩ := mem_flatObjects_iff.mp rightMember
  rw [(store.object_row _ right row).2.1]
  exact unseen left leftMember

theorem mem_listObjectsFrom_iff :
    record ∈ store.listObjectsFrom bucket start 0 ↔
      record ∈ store.versionedObjects (store.normalizeObjectBucket bucket)
          start ∨
        record ∈ store.flatObjects (store.normalizeObjectBucket bucket)
          start := by
  unfold listObjectsFrom limited
  simp only [lt_self_iff_false, if_false]
  rw [List.mem_insertionSort, List.mem_append]

theorem listObjectsFrom_nodup (store : Store) (bucket start : String) :
    ((store.listObjectsFrom bucket start 0).map ObjectRecord.key).Nodup := by
  refine ((List.perm_insertionSort _ _).map _).nodup_iff.mpr ?_
  exact List.pairwise_map.mpr (store.walk_distinct _ start)

end Store

end DataSafe.Metadata
