import DataSafe.Base.Machine
import DataSafe.Metadata.Store

/-!
# What `object_latest` names

Objects are put with and without versions and deleted, in any order.  Next to
the store a history keeps the versions that remain, the one that was inserted
last in front; the store does not know it and finds a new latest version by
the times of the records instead.  The two agree as long as a new version is
later than the ones of its key and a rewrite does not move a version past
another one.
-/

namespace DataSafe.Metadata

open Base

/-! ## Writes -/

/-- `PutObject`, `PutObjectVersioned` and `DeleteObjectVersion`. -/
inductive ObjectWrite where
  | put (record : ObjectRecord) (versioned : Bool)
  | delete (bucket key versionID : String) (versioningEnabled : Bool)

namespace Store

def write (store : Store) : ObjectWrite → Except StoreErr Store
  | .put record versioned => store.putObject record versioned
  | .delete bucket key versionID versioningEnabled =>
    store.deleteObjectVersion bucket key versionID versioningEnabled

/-- A write that fails leaves the store as it was. -/
def afterWrite (store : Store) (write : ObjectWrite) : Store :=
  match store.write write with
  | .ok stored => stored
  | .error _ => store

theorem write_sameRest
    {store stored : Store} {write : ObjectWrite}
    (done : store.write write = .ok stored) : SameRest stored store := by
  cases write with
  | put record versioned => exact putObjectTx_sameRest done
  | delete bucket key versionID enabled =>
    exact deleteObjectVersion_sameRest done

/-- What every write keeps holds after it. -/
theorem afterWrite_of_write
    {motive : Store → Prop} {store : Store} {write : ObjectWrite}
    (held : motive store)
    (kept : ∀ stored, store.write write = .ok stored → motive stored) :
    motive (store.afterWrite write) := by
  unfold afterWrite
  cases done : store.write write with
  | ok stored => exact kept stored done
  | error reason => exact held

/-- No object has been put yet. -/
structure NoObjects (store : Store) : Prop where
  rows : ∀ row, store.objects.get row = none
  pointers : ∀ object, store.latest.get object = none

theorem noObjects_empty : NoObjects empty where
  rows := fun _ => rfl
  pointers := fun _ => rfl

/-- The row that a versioned put of a record goes to. -/
def rowOf (store : Store) (record : ObjectRecord) : RowKey :=
  ⟨store.normalizeObjectBucket record.bucket, record.key,
    record.versionID.text⟩

end Store

/-- A version of a note. -/
def noteVersion (random : UInt8) (time : Time) (etag : String) :
    ObjectRecord where
  bucket := "docs"
  key := "note"
  size := 3
  etag := etag
  contentType := "text/plain"
  versionID := newVersionID ⟨[random], by simp⟩
  lastModified := time
  createdAt := 1000

/-! ## The history of insertions -/

/-- A store with the versions that remain, the last inserted one first. -/
structure History where
  store : Store
  order : List RowKey

variable {bucket key : String} {record : ObjectRecord}

namespace History

/-- The row that a write inserts. -/
def inserted (store : Store) : ObjectWrite → List RowKey
  | .put record true =>
    if (store.objects.get (store.rowOf record)).isSome then []
    else [store.rowOf record]
  | _ => []

def afterWrite (history : History) (write : ObjectWrite) : History :=
  match history.store.write write with
  | .error _ => history
  | .ok stored =>
    { store := stored
      order := inserted history.store write ++
        history.order.filter (fun row =>
          (stored.objects.get row).isSome) }

/-- The remaining version of a key that was inserted last. -/
def lastInserted (history : History) (bucket key : String) :
    Option RowKey :=
  history.order.find? (fun row => row.bucket = bucket && row.key = key)

/-- A new version is later than the versions of its key. -/
def Increasing (history : History) : ObjectWrite → Prop
  | .put record true =>
    history.store.objects.get (history.store.rowOf record) = none →
      ∀ older ∈ history.store.versions
          (history.store.normalizeObjectBucket record.bucket) record.key,
        older.lastModified < record.lastModified
  | .put _ false => True
  | .delete _ _ _ versioningEnabled => versioningEnabled = true

instance (history : History) (write : ObjectWrite) :
    Decidable (history.Increasing write) :=
  match write with
  | .put _ true => inferInstanceAs (Decidable (_ → _))
  | .put _ false => inferInstanceAs (Decidable True)
  | .delete _ _ _ _ => inferInstanceAs (Decidable (_ = _))

/-- A rewrite of a version does not move it past another one. -/
def KeepsOrder (history : History) : ObjectWrite → Prop
  | .put record true =>
    ∀ replaced ∈ history.store.objects.get (history.store.rowOf record),
      ∀ other ∈ history.store.versions
          (history.store.normalizeObjectBucket record.bucket) record.key,
        (other.lastModified < replaced.lastModified →
          other.lastModified < record.lastModified) ∧
        (replaced.lastModified < other.lastModified →
          record.lastModified < other.lastModified)
  | _ => True

instance (history : History) (write : ObjectWrite) :
    Decidable (history.KeepsOrder write) :=
  match write with
  | .put record true =>
    inferInstanceAs (Decidable (∀ replaced ∈ history.store.objects.get
      (history.store.rowOf record), _))
  | .put _ false => inferInstanceAs (Decidable True)
  | .delete _ _ _ _ => inferInstanceAs (Decidable True)

/-! ## The invariant -/

/-- The order of two versions of a key is the order of their times. -/
def Later (store : Store) (newer older : RowKey) : Prop :=
  newer.bucket = older.bucket → newer.key = older.key →
    ∀ first second, store.objects.get newer = some first →
      store.objects.get older = some second →
      second.lastModified < first.lastModified

/-- The history holds the versions of the store, in the order of time. -/
structure Ordered (history : History) : Prop where
  members : ∀ row, row ∈ history.order ↔
    row.versionID ≠ "" ∧ (history.store.objects.get row).isSome
  sorted : history.order.Pairwise (Later history.store)

/-- The pointers name the versions that were inserted last. -/
structure InOrder (history : History) : Prop extends Ordered history where
  latest : ∀ bucket key, history.store.latest.get ⟨bucket, key⟩ =
    (history.lastInserted bucket key).map RowKey.versionID

/-- The first hit of a search stays when other items are dropped. -/
private theorem find?_filter_of_kept
    {Item : Type} {wanted keep : Item → Bool} {items : List Item}
    (kept : ∀ item, items.find? wanted = some item → keep item = true) :
    (items.filter keep).find? wanted = items.find? wanted := by
  induction items with
  | nil => rfl
  | cons first items induction =>
    cases hit : wanted first with
    | true =>
      have stays := kept first (List.find?_cons_of_pos hit)
      rw [List.filter_cons_of_pos stays, List.find?_cons_of_pos hit,
        List.find?_cons_of_pos hit]
    | false =>
      have miss : ¬ wanted first = true := by simp [hit]
      rw [List.find?_cons_of_neg miss] at kept ⊢
      rw [← induction kept, List.filter_cons]
      split_ifs
      · exact List.find?_cons_of_neg miss
      · rfl

/-- In a sorted list the first hit comes before every other one. -/
private theorem find?_first
    {Item : Type} {wanted : Item → Bool} {Before : Item → Item → Prop}
    {items : List Item} (sorted : items.Pairwise Before) {item : Item}
    (found : items.find? wanted = some item) {other : Item}
    (member : other ∈ items) (hit : wanted other = true) :
    other = item ∨ Before item other := by
  induction items with
  | nil => cases member
  | cons first items induction =>
    obtain ⟨ahead, rest⟩ := List.pairwise_cons.mp sorted
    cases firstHit : wanted first with
    | true =>
      rw [List.find?_cons_of_pos firstHit] at found
      cases found
      rcases List.mem_cons.mp member with same | later
      · exact .inl same
      · exact .inr (ahead other later)
    | false =>
      rw [List.find?_cons_of_neg (by simp [firstHit])] at found
      rcases List.mem_cons.mp member with rfl | later
      · rw [hit] at firstHit
        cases firstHit
      · exact induction rest found later

section Invariant

variable {history : History} {stored : Store}

theorem lastInserted_key
    {row : RowKey} (last : history.lastInserted bucket key = some row) :
    row = ⟨bucket, key, row.versionID⟩ := by
  have hit := List.find?_some last
  simp only [Bool.and_eq_true, decide_eq_true_eq] at hit
  rw [← hit.1, ← hit.2]

/-- The newest of the versions of a key is the one inserted last. -/
theorem Ordered.newest_versions
    (ordered : Ordered history) (bucket key : String) :
    (Store.newest (history.store.versions bucket key)).map
        (fun next => next.versionID.text) =
      (history.lastInserted bucket key).map RowKey.versionID := by
  cases last : history.lastInserted bucket key with
  | none =>
    -- A version would have been met by the search.
    have empty : history.store.versions bucket key = [] := by
      refine List.eq_nil_iff_forall_not_mem.mpr (fun record listed => ?_)
      obtain ⟨versionID, named, row⟩ := Store.mem_versions_iff.mp listed
      have missed := List.find?_eq_none.mp last ⟨bucket, key, versionID⟩
        ((ordered.members _).mpr ⟨named, by simp [row]⟩)
      simp at missed
    rw [empty]
    rfl
  | some row =>
    obtain ⟨rowNamed, present⟩ :=
      (ordered.members row).mp (List.mem_of_find?_eq_some last)
    have ofKey := lastInserted_key last
    obtain ⟨record, found⟩ := Option.isSome_iff_exists.mp present
    rw [ofKey] at found
    have chosen : Store.newest (history.store.versions bucket key) =
        some record := by
      refine Store.newest_eq_of_greatest
        (Store.mem_versions_iff.mpr ⟨_, rowNamed, found⟩) ?_
      intro other listed apart
      obtain ⟨otherID, named, otherRow⟩ := Store.mem_versions_iff.mp listed
      rcases find?_first ordered.sorted last
        ((ordered.members ⟨bucket, key, otherID⟩).mpr
          ⟨named, by simp [otherRow]⟩) (by simp) with same | later
      · rw [← same, otherRow] at found
        cases found
        exact absurd rfl apart
      · rw [ofKey] at later
        exact later rfl rfl record other found otherRow
    rw [chosen]
    exact congrArg some
      ((history.store.object_row _ record found).2.2 rowNamed)

/-- What is left of a history when only some rows are. -/
def left (history : History) (stored : Store) : History where
  store := stored
  order := history.order.filter (fun row => (stored.objects.get row).isSome)

/-- Removing rows keeps the order of the others. -/
theorem Ordered.left
    (ordered : Ordered history)
    (kept : ∀ row record, row.versionID ≠ "" → stored.objects.get row = some
      record → history.store.objects.get row = some record) :
    Ordered (history.left stored) where
  members := by
    intro row
    refine List.mem_filter.trans ?_
    rw [ordered.members]
    constructor
    · rintro ⟨⟨named, _⟩, present⟩
      exact ⟨named, present⟩
    · rintro ⟨named, present⟩
      obtain ⟨record, found⟩ := Option.isSome_iff_exists.mp present
      exact ⟨⟨named, by simp [kept row record named found]⟩, present⟩
  sorted := by
    have named : ∀ row ∈ history.order, row.versionID ≠ "" :=
      fun row member => ((ordered.members row).mp member).1
    refine List.Pairwise.imp_of_mem ?_ (ordered.sorted.filter _)
    intro newer older newerMember olderMember later sameBucket sameKey first
      second newerRow olderRow
    exact later sameBucket sameKey first second
      (kept _ _ (named _ (List.mem_filter.mp newerMember).1) newerRow)
      (kept _ _ (named _ (List.mem_filter.mp olderMember).1) olderRow)

section

variable (inOrder : InOrder history)
  (done : history.store.putObjectTx record true = .ok stored)

include inOrder done

omit done in
/-- The last version of a key stays the last while it is there. -/
theorem InOrder.lastInserted_left
    (kept : ∀ versionID, history.store.latest.get ⟨bucket, key⟩ = some
      versionID → (history.store.objects.get ⟨bucket, key, versionID⟩).isSome
      → (stored.objects.get ⟨bucket, key, versionID⟩).isSome) :
    (history.left stored).lastInserted bucket key =
      history.lastInserted bucket key := by
  refine find?_filter_of_kept (fun row last => ?_)
  have ofKey := lastInserted_key
    (show history.lastInserted bucket key = some row from last)
  have points := inOrder.latest bucket key
  rw [show history.lastInserted bucket key = some row from last] at points
  have present :=
    ((inOrder.members row).mp (List.mem_of_find?_eq_some last)).2
  rw [ofKey] at present ⊢
  exact kept _ points present

omit done in
theorem InOrder.delete
    (outcome : Store.VersionedDelete history.store stored bucket key) :
    InOrder (history.left stored) := by
  cases outcome with
  | flat unpointed rows latest =>
    refine ⟨inOrder.left ?_, fun otherBucket otherKey => ?_⟩
    · intro row record named found
      rw [rows] at found
      split_ifs at found
      exact found
    · rw [inOrder.lastInserted_left, ← inOrder.latest]
      · change stored.latest.get _ = _
        rw [latest]
      · intro versionID points present
        rw [rows, if_neg]
        · exact present
        · intro same
          exact history.store.latest_ne _ versionID points
            (RowKey.mk.inj same).2.2
  | older versionID named rows apart latest =>
    refine ⟨inOrder.left ?_, fun otherBucket otherKey => ?_⟩
    · intro row record _ found
      rw [rows] at found
      split_ifs at found
      exact found
    · rw [inOrder.lastInserted_left, ← inOrder.latest]
      · change stored.latest.get _ = _
        rw [latest]
      · intro otherID points present
        rw [rows, if_neg]
        · exact present
        · intro same
          cases same
          exact apart points
  | current versionID named rows latest =>
    have ordered : Ordered (history.left stored) := by
      refine inOrder.left (fun row record _ found => ?_)
      rw [rows] at found
      split_ifs at found
      exact found
    refine ⟨ordered, fun otherBucket otherKey => ?_⟩
    by_cases here : (⟨otherBucket, otherKey⟩ : ObjectKey) = ⟨bucket, key⟩
    · cases here
      exact ((latest _).trans (if_pos rfl)).trans
        (ordered.newest_versions bucket key)
    · rw [inOrder.lastInserted_left, ← inOrder.latest]
      · exact (latest _).trans (if_neg here)
      · intro otherID _ present
        rw [rows, if_neg]
        · exact present
        · intro same
          obtain ⟨sameBucket, sameKey, _⟩ := RowKey.mk.inj same
          exact here (by rw [sameBucket, sameKey])

omit done in
/-- An unversioned put removes every version of its key. -/
theorem InOrder.putFlat
    (done : history.store.putObjectTx record false = .ok stored) :
    InOrder (history.left stored) := by
  have rows := Store.get_putObjectTx_flat done
  have ordered : Ordered (history.left stored) := by
    refine inOrder.left (fun row found named present => ?_)
    rw [rows, if_neg] at present
    · split_ifs at present
      exact present
    · intro same
      rw [same] at named
      exact named rfl
  refine ⟨ordered, fun bucket key => ?_⟩
  by_cases here : (⟨bucket, key⟩ : ObjectKey) = ⟨record.bucket, record.key⟩
  · have unpointed : stored.latest.get ⟨bucket, key⟩ = none := by
      rw [Store.latest_putObjectTx_flat done, if_pos here]
    cases last : (history.left stored).lastInserted bucket key with
    | none => exact unpointed
    | some row =>
      -- Only the flat row of the key is left.
      have ofKey := lastInserted_key last
      obtain ⟨named, present⟩ :=
        (ordered.members row).mp (List.mem_of_find?_eq_some last)
      obtain ⟨sameBucket, sameKey⟩ := ObjectKey.mk.inj here
      rw [ofKey] at present
      change (stored.objects.get _).isSome = true at present
      rw [rows, if_neg (fun same => named (RowKey.mk.inj same).2.2),
        if_pos ⟨sameBucket, sameKey⟩] at present
      cases present
  · rw [inOrder.lastInserted_left, ← inOrder.latest]
    · exact (Store.latest_putObjectTx_flat done _).trans (if_neg here)
    · intro versionID _ present
      rw [rows, if_neg, if_neg]
      · exact present
      · rintro ⟨sameBucket, sameKey⟩
        exact here (by rw [← sameBucket, ← sameKey])
      · intro same
        obtain ⟨sameBucket, sameKey, _⟩ := RowKey.mk.inj same
        exact here (by rw [sameBucket, sameKey])

/-- A new version that is later than the others goes to the front. -/
theorem InOrder.insert
    (fresh : history.store.objects.get
      ⟨record.bucket, record.key, record.versionID.text⟩ = none)
    (later : ∀ older ∈ history.store.versions record.bucket record.key,
      older.lastModified < record.lastModified) :
    InOrder ⟨stored, ⟨record.bucket, record.key, record.versionID.text⟩ ::
      history.order⟩ := by
  have rows := Store.get_putObjectTx_versioned done
  have named := Store.putObjectTx_versioned_ok_iff.mp ⟨stored, done⟩
  have apart : ∀ row ∈ history.order,
      row ≠ ⟨record.bucket, record.key, record.versionID.text⟩ := by
    rintro row member rfl
    have present := ((inOrder.members _).mp member).2
    rw [fresh] at present
    cases present
  have same : ∀ row ∈ history.order,
      stored.objects.get row = history.store.objects.get row :=
    fun row member => (rows row).trans (if_neg (apart row member))
  refine ⟨⟨fun row => ?_, List.pairwise_cons.mpr ⟨?_, ?_⟩⟩, ?_⟩
  · rw [List.mem_cons, inOrder.members]
    rw [rows]
    split_ifs with here
    · simp [here, named]
    · simp [here]
  · intro older member sameBucket sameKey first second newRow oldRow
    rw [rows, if_pos rfl] at newRow
    cases newRow
    rw [same older member] at oldRow
    refine later second (Store.mem_versions_iff.mpr ⟨older.versionID,
      ((inOrder.members older).mp member).1, ?_⟩)
    change record.bucket = _ at sameBucket
    change record.key = _ at sameKey
    rw [sameBucket, sameKey]
    exact oldRow
  · refine List.Pairwise.imp_of_mem ?_ inOrder.sorted
    intro newer older newerMember olderMember before
    unfold Later
    rw [same newer newerMember, same older olderMember]
    exact before
  · intro bucket key
    refine (Store.latest_putObjectTx_versioned done _).trans ?_
    by_cases here : (⟨bucket, key⟩ : ObjectKey) = ⟨record.bucket, record.key⟩
    · cases here
      rw [if_pos ⟨fresh, rfl⟩]
      simp [lastInserted]
    · rw [if_neg (fun both => here both.2), inOrder.latest]
      have skipped : (⟨stored, ⟨record.bucket, record.key,
          record.versionID.text⟩ :: history.order⟩ : History).lastInserted
            bucket key = history.lastInserted bucket key := by
        refine List.find?_cons_of_neg ?_
        simp only [Bool.and_eq_true, decide_eq_true_eq]
        rintro ⟨rfl, rfl⟩
        exact here rfl
      rw [skipped]

/-- A rewrite that keeps a version between its neighbours keeps the order. -/
theorem InOrder.rewrite
    {replaced : ObjectRecord}
    (present : history.store.objects.get ⟨record.bucket, record.key,
      record.versionID.text⟩ = some replaced)
    (between : ∀ other ∈ history.store.versions record.bucket record.key,
      (other.lastModified < replaced.lastModified → other.lastModified <
      record.lastModified) ∧ (replaced.lastModified < other.lastModified →
      record.lastModified < other.lastModified)) :
    InOrder ⟨stored, history.order⟩ := by
  have rows := Store.get_putObjectTx_versioned done
  refine ⟨⟨fun row => ?_, ?_⟩, fun bucket key => ?_⟩
  · rw [inOrder.members]
    rw [rows]
    split_ifs with here
    · simp [here, present]
    · rfl
  · refine List.Pairwise.imp_of_mem ?_ inOrder.sorted
    intro newer older newerMember olderMember before sameBucket sameKey first
      second newerRow olderRow
    have newerNamed := ((inOrder.members newer).mp newerMember).1
    have olderNamed := ((inOrder.members older).mp olderMember).1
    rw [rows] at newerRow olderRow
    split_ifs at newerRow olderRow with newerHere olderHere olderHere
    · -- A version is not later than itself.
      rw [newerHere, olderHere] at before
      exact absurd (before rfl rfl replaced replaced present present)
        (lt_irrefl _)
    · cases newerRow
      subst newerHere
      refine (between second (Store.mem_versions_iff.mpr
        ⟨older.versionID, olderNamed, ?_⟩)).1
          (before sameBucket sameKey replaced second present olderRow)
      change record.bucket = _ at sameBucket
      change record.key = _ at sameKey
      rw [sameBucket, sameKey]
      exact olderRow
    · cases olderRow
      subst olderHere
      refine (between first (Store.mem_versions_iff.mpr
        ⟨newer.versionID, newerNamed, ?_⟩)).2
          (before sameBucket sameKey first replaced newerRow present)
      change _ = record.bucket at sameBucket
      change _ = record.key at sameKey
      rw [← sameBucket, ← sameKey]
      exact newerRow
    · exact before sameBucket sameKey first second newerRow olderRow
  · refine (Store.latest_putObjectTx_versioned done _).trans ?_
    rw [if_neg (by simp [present])]
    exact inOrder.latest bucket key

/-- A versioned put takes no version away. -/
theorem filter_order :
    history.order.filter (fun row => (stored.objects.get row).isSome) =
      history.order := by
  refine List.filter_eq_self.mpr (fun row member => ?_)
  rw [Store.get_putObjectTx_versioned done]
  split_ifs
  · rfl
  · exact ((inOrder.members row).mp member).2

omit done in
theorem InOrder.afterWrite
    {write : ObjectWrite} (increasing : history.Increasing write)
    (keepsOrder : history.KeepsOrder write) :
    InOrder (history.afterWrite write) := by
  unfold History.afterWrite
  cases done : history.store.write write with
  | error reason => exact inOrder
  | ok stored =>
    cases write with
    | delete bucket key versionID versioningEnabled =>
      cases (increasing : versioningEnabled = true)
      exact inOrder.delete (Store.deleteObjectVersion_versionedDelete done)
    | put record versioned =>
      cases versioned with
      | false => exact inOrder.putFlat done
      | true =>
        simp only [inserted, filter_order inOrder done]
        cases present : history.store.objects.get
            (history.store.rowOf record) with
        | none =>
          exact inOrder.insert done present (increasing present)
        | some replaced =>
          exact inOrder.rewrite done present (keepsOrder replaced present)

end

theorem inOrder_start
    {start : Store} (noObjects : start.NoObjects) : InOrder ⟨start, []⟩ where
  members := by simp [noObjects.rows]
  sorted := List.Pairwise.nil
  latest := fun _ _ => noObjects.pointers _

end Invariant

/-! ## The latest pointer -/

/-- The pointers of a store name what was inserted last. -/
structure NamesLast (history : History) : Prop where
  named : ∀ bucket key versionID,
    history.store.latest.get ⟨bucket, key⟩ = some versionID →
      versionID ≠ "" ∧
      (history.store.objects.get ⟨bucket, key, versionID⟩).isSome ∧
      history.lastInserted bucket key = some ⟨bucket, key, versionID⟩
  pointed : ∀ bucket key versionID, versionID ≠ "" →
    (history.store.objects.get ⟨bucket, key, versionID⟩).isSome →
      (history.store.latest.get ⟨bucket, key⟩).isSome
  rewritten : ∀ record stored,
    (history.store.objects.get (history.store.rowOf record)).isSome →
      history.store.putObject record true = .ok stored →
      ∀ object, stored.latest.get object = history.store.latest.get object

theorem InOrder.namesLast
    {history : History} (inOrder : InOrder history) :
    NamesLast history where
  named := by
    intro bucket key versionID points
    rw [inOrder.latest] at points
    obtain ⟨row, last, rfl⟩ := Option.map_eq_some_iff.mp points
    have ofKey := lastInserted_key last
    obtain ⟨named, present⟩ :=
      (inOrder.members row).mp (List.mem_of_find?_eq_some last)
    rw [← ofKey]
    exact ⟨named, present, last⟩
  pointed := by
    intro bucket key versionID named present
    rw [inOrder.latest, Option.isSome_map]
    refine List.find?_isSome.mpr ⟨⟨bucket, key, versionID⟩, ?_, by simp⟩
    exact (inOrder.members _).mpr ⟨named, present⟩
  rewritten := by
    intro record stored present done object
    refine (Store.latest_putObjectTx_versioned done object).trans (if_neg ?_)
    rintro ⟨absent, _⟩
    rw [show history.store.objects.get (history.store.rowOf record) = none
      from absent] at present
    cases present

/--
After every run in which new versions get later times and rewrites move no
version past another one, a pointer names the version that was inserted last,
a key with versions has a pointer, and a rewrite leaves the pointers alone.
-/
theorem latest_names_last_inserted
    (start : Store) (noObjects : start.NoObjects) (writes : List ObjectWrite)
    (increasing : Guarded afterWrite Increasing ⟨start, []⟩ writes)
    (keepsOrder : Guarded afterWrite KeepsOrder ⟨start, []⟩ writes) :
    NamesLast (runAll afterWrite ⟨start, []⟩ writes) := by
  have both : Guarded afterWrite (fun history write =>
      history.Increasing write ∧ history.KeepsOrder write) ⟨start, []⟩
        writes :=
    fun front write made =>
      ⟨increasing front write made, keepsOrder front write made⟩
  refine InOrder.namesLast (both.invariant (inOrder_start noObjects) ?_)
  rintro history write inOrder ⟨later, between⟩
  exact inOrder.afterWrite later between

/-- Three versions, a rewrite of the first one and a delete of the last. -/
def noteWrites (rewrittenAt : Time) : List ObjectWrite :=
  [.put (noteVersion 1 1000 "a") true, .put (noteVersion 2 2000 "b") true,
    .put (noteVersion 3 3000 "c") true,
    .put (noteVersion 1 rewrittenAt "d") true, .delete "docs" "note" "" true]

theorem noteWrites_name_second :
    NamesLast (runAll afterWrite ⟨Store.empty, []⟩ (noteWrites 1000)) ∧
      (runAll afterWrite ⟨Store.empty, []⟩
        (noteWrites 1000)).store.latest.get ⟨"docs", "note"⟩ =
          some (newVersionID ⟨[2], by simp⟩).text :=
  ⟨latest_names_last_inserted Store.empty Store.noObjects_empty
    (noteWrites 1000) (by decide) (by decide),
    by decide⟩

/--
A rewrite that gives the first version a later time makes it the latest when
the last one is deleted, although the second one was inserted after it.
-/
theorem rewritten_version_promoted :
    Guarded afterWrite Increasing ⟨Store.empty, []⟩ (noteWrites 4000) ∧
      (runAll afterWrite ⟨Store.empty, []⟩
        (noteWrites 4000)).store.latest.get ⟨"docs", "note"⟩ =
          some (newVersionID ⟨[1], by simp⟩).text ∧
      (runAll afterWrite ⟨Store.empty, []⟩
        (noteWrites 4000)).lastInserted "docs" "note" =
          some ⟨"docs", "note", (newVersionID ⟨[2], by simp⟩).text⟩ ∧
      ¬ NamesLast (runAll afterWrite ⟨Store.empty, []⟩
        (noteWrites 4000)) := by
  have points : (runAll afterWrite ⟨Store.empty, []⟩
      (noteWrites 4000)).store.latest.get ⟨"docs", "note"⟩ =
        some (newVersionID ⟨[1], by simp⟩).text := by decide
  have last : (runAll afterWrite ⟨Store.empty, []⟩
      (noteWrites 4000)).lastInserted "docs" "note" =
        some ⟨"docs", "note", (newVersionID ⟨[2], by simp⟩).text⟩ := by
    decide
  refine ⟨by decide, points, last, fun names => ?_⟩
  have first := (names.named "docs" "note" _ points).2.2
  exact absurd first (by decide)

end History

end DataSafe.Metadata
