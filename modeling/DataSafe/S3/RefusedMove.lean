import DataSafe.S3.RequestedEncryption
import DataSafe.S3.SuspendedHistory
import DataSafe.S3.Trash

/-!
# Moves to the trash that are refused

A move to the trash consults the lock of the object in its last step, when it
deletes the original: the copy is in the trash bucket and its row is in the
trash table by then.  A move that the lock refuses returns the error of the
lock and takes neither of them back.

The errors of the lock come from nowhere else, so the error tells how far the
move has come.  The result is exact: the refusal of a move is without effect
only in so far as the move ends before its delete, with another error.
-/

namespace DataSafe.S3

open Base Kms Metadata Storage

/-! ## The record of the copy -/

/-- The key of a copy is longer than the key of the object. -/
theorem trashKeyOf_ne
    (bucket key : String) (stamp : Int) (versionID : VersionID) :
    trashKeyOf bucket key stamp versionID ≠ key := by
  intro same
  have lengths := congrArg String.length same
  unfold trashKeyOf at lengths
  split_ifs at lengths <;>
    simp only [String.length_append] at lengths <;>
    have slash : "/".length = 1 := rfl <;>
    omega

/-- The bucket has a record for the key. -/
def HasRecord (store : Store) (bucket key : String) : Prop :=
  ∃ versionID record,
    store.objects.get ⟨bucket, key, versionID⟩ = some record

section Put

variable {config : Config} {env : Env} {world after : World}
  {request : PutRequest} {record : ObjectRecord}

/-- A put that succeeds leaves a record of its key. -/
theorem hasRecord_putObject
    (done : putObject config env world request = (after, .ok record)) :
    HasRecord after.store (normalizeBucketKey world.store request.bucket)
      request.key := by
  have ends := putObject_end config env world request
  rw [done] at ends
  cases ends with
  | committed bucketRec stored prepared info committed record admitted
      added inPlace formed put =>
      obtain ⟨filed, sameBucket, sameKey, _, _⟩ :=
        committed_row added formed
      unfold Store.putObject at put
      rw [filed] at put
      rw [← sameBucket, ← sameKey]
      cases versioned : (targetOf env { world with store := stored }
          (normalizeBucketKey world.store request.bucket)
          request).versioned with
      | true =>
        rw [versioned] at put
        exact ⟨record.versionID.text, record, by
          rw [Store.get_putObjectTx_versioned put, if_pos rfl]⟩
      | false =>
        rw [versioned] at put
        exact ⟨"", record, by
          rw [Store.get_putObjectTx_flat put, if_pos rfl]⟩

/-- A put leaves the rows of another key alone. -/
theorem sameKey_putObject
    (done : putObject config env world request = (after, .ok record))
    {bucket key : String} (distinct : key ≠ request.key) :
    Store.SameKey after.store world.store bucket key := by
  have ends := putObject_end config env world request
  rw [done] at ends
  cases ends with
  | committed bucketRec stored prepared info committed record admitted
      added inPlace formed put =>
      obtain ⟨filed, _, sameKey, _, _⟩ := committed_row added formed
      have same : Store.SameKey committed stored bucket key :=
        Store.putObjectTx_sameKey put
          (fun both => distinct (both.2.trans sameKey))
      exact ⟨fun versionID => by rw [same.rows, added.objects],
        by rw [same.latest, added.latest]⟩

end Put

section Trip

variable {config : Config} {move : MoveEnv} {restore reader : Env}
  {before moved after : TrashWorld}
  {bucket key versionID deletedBy : String} {body : Body}
  {record restored : ObjectRecord} {ensured : World}
  {trashRec : BucketRecord} {trashed : TrashRecord}

/-- A new trash bucket does not change what a bucket holds. -/
theorem Ensured.lookup
    {world : World} (same : Ensured world ensured)
    (known : (world.store.getBucketByKey bucket).isSome) :
    ensured.store.getObjectVersion bucket key versionID =
      world.store.getObjectVersion bucket key versionID := by
  have knownThere : (ensured.store.getBucketByKey bucket).isSome := by
    rw [same.buckets bucket known]
    exact known
  simp only [Store.getObjectVersion,
    Store.normalizeObjectBucket_of_isSome _ known,
    Store.normalizeObjectBucket_of_isSome _ knownThere, Store.wantedID,
    Store.versionRow, same.sameObjects.objects, same.sameObjects.latest]

end Trip

/-! ## The errors of a lock -/

/-- The errors of `checkDeleteAllowed` about an object that is there. -/
def Err.locks : Err → Bool
  | .legalHold => true
  | .retentionLocked => true
  | _ => false

/-- A call whose errors do not come from a lock. -/
def Unlocked {Value : Type} (result : Except Err Value) : Prop :=
  ∀ err, result = .error err → err.locks = false

variable {Value : Type} {err : Err}

theorem Unlocked.ok (value : Value) :
    Unlocked (.ok value) := by
  rintro err ⟨⟩

theorem Unlocked.error
    (free : err.locks = false) :
    Unlocked (.error err : Except Err Value) := by
  rintro other ⟨⟩
  exact free

theorem Unlocked.bind {Result : Type} {first : Except Err Value}
    {next : Value → Except Err Result} (before : Unlocked first)
    (after : ∀ value, Unlocked (next value)) :
    Unlocked (first >>= next) := by
  cases first with
  | error err => exact .error (before err rfl)
  | ok value => exact after value

section Put

variable (config : Config) (env : Env) (store : Store)

theorem unlocked_transact
    (transaction : Transaction) (result : Except StoreErr Store) :
    Unlocked (env.transact transaction result) := by
  unfold Env.transact
  split_ifs
  · exact .error rfl
  · cases result with
    | ok store => exact .ok store
    | error err => exact .error rfl

theorem unlocked_unwrapDEK (encryption : ObjectEncryption) :
    Unlocked (unwrapDEK config env store encryption) := by
  unfold unwrapDEK
  split_ifs
  · cases env.vault with
    | none => exact .error rfl
    | some vault =>
      dsimp only
      split
      · exact .ok _
      · exact .error rfl
  · cases config.localKey with
    | none => exact .error rfl
    | some key =>
      dsimp only [LocalKey.unwrap]
      split_ifs
      · exact .error rfl
      · split
        · exact .ok _
        · exact .error rfl

theorem unlocked_sealBody (dek : Bytes) (source : Source) :
    Unlocked (sealBody config env dek source) := by
  unfold sealBody
  split
  · exact .error rfl
  · exact .ok _

theorem unlocked_sealFormat1
    (key : KMSKeyRecord) (algorithm provider : String) (source : Source) :
    Unlocked (sealFormat1 config env key algorithm provider source) := by
  refine .bind ?_ (fun _ => .bind (unlocked_sealBody config env _ source)
    (fun _ => .ok _))
  unfold wrapDEK
  split_ifs
  · split
    · exact .ok _
    · exact .error rfl
  · split
    · exact .ok _
    · exact .error rfl

theorem unlocked_sealWithKey
    (bucket : BucketRecord) (source : Source) (algorithm requested : String) :
    Unlocked (sealWithKey config env store bucket source algorithm
      requested).2 := by
  unfold sealWithKey
  split
  · rename_i err chosen
    unfold chooseKey at chosen
    simp only at chosen
    split_ifs at chosen <;> cases chosen <;> exact .error rfl
  · split
    · rename_i stored err ensured
      unfold ensureKMSKey at ensured
      split at ensured
      · split_ifs at ensured <;> cases ensured
        exact .error rfl
      · dsimp only at ensured
        split at ensured
        · cases ensured
        · rename_i failure failed
          cases ensured
          exact .error (unlocked_transact _ _ _ _ failed)
    · exact unlocked_sealFormat1 config env _ _ _ _

theorem unlocked_prepareObjectEncryption
    (bucket : BucketRecord) (source : Source) :
    Unlocked (prepareObjectEncryption config env store bucket source).2 := by
  unfold prepareObjectEncryption
  split
  · exact .bind (unlocked_unwrapDEK config env store _) (fun _ =>
      .bind (unlocked_sealBody config env _ source) (fun _ => .ok _))
  · simp only
    split
    · exact .ok _
    · split
      · exact .error rfl
      · split
        · split
          · dsimp only [sealFormat0]
            split
            · exact .error rfl
            · exact .ok _
          · exact unlocked_sealWithKey config env store bucket source _ _
        · exact unlocked_sealWithKey config env store bucket source _ _

theorem unlocked_checkQuota
    (bucketRec : BucketRecord) (bucket key : String) (size : Int) :
    Unlocked (checkQuota store bucketRec bucket key size) := by
  unfold checkQuota
  simp only
  split_ifs
  · exact .error rfl
  · exact .error rfl
  · exact .ok _
  · split
    · exact .ok _
    · split_ifs
      · exact .error rfl
      · exact .error rfl
      · exact .ok _

/-- A put returns no error of a lock. -/
theorem unlocked_putObject (world : World) (request : PutRequest) :
    Unlocked (putObject config env world request).2 := by
  unfold putObject
  simp only
  split
  · exact .error rfl
  · rename_i bucketRec _
    split
    · rename_i err refused
      exact .error (unlocked_checkQuota _ _ _ _ _ _ refused)
    · split
      · rename_i stored err refused
        refine .error (unlocked_prepareObjectEncryption config env
          world.store bucketRec request.source err ?_)
        rw [refused]
      · unfold putPrepared putWritten
        simp only
        split
        · exact .error rfl
        · split
          · exact .error rfl
          · split
            · rename_i failed
              exact .error (unlocked_transact _ _ _ _ failed)
            · exact .ok _

end Put

theorem unlocked_ensureTrashBucket (env : MoveEnv) (world : World) :
    Unlocked (ensureTrashBucket env world) := by
  unfold ensureTrashBucket
  split
  · exact .ok _
  · split_ifs
    · exact .error rfl
    · simp only
      split
      · exact .ok _
      · exact .ok _
      · rename_i failed
        exact .error (unlocked_transact _ _ _ _ failed)
      · rename_i failed
        exact .error (unlocked_transact _ _ _ _ failed)
      · exact .error rfl

/-! ## How far a move comes -/

/-- A move gets to the delete of the original. -/
def ReachesDelete (config : Config) (env : MoveEnv) (world : TrashWorld)
    (bucket key versionID : String) : Prop :=
  ∃ ensured src data copy, ensureTrashBucket env world.node = .ok ensured ∧
      world.node.store.getObjectVersion bucket key versionID = some src ∧
      src.isDeleteMarker = false ∧
      readPath config.md5 (env.put.faults .read) world.node.disk
        (dataPath bucket key src.versionID) = .ok data ∧
      (putObject config env.put.unforced ensured (trashRequest
        (trashKeyOf bucket key env.stamp src.versionID) data src)).2 =
          .ok copy ∧
      env.row.transactionFails .putTrash = false

/--
A move has left nothing behind: the original is read as before, and neither
the trash table nor the trash bucket has a record that it had not.
-/
structure NoEffect (config : Config) (before after : TrashWorld)
    (bucket key versionID : String) : Prop where
  original : ∀ reader body record,
    (getObject config reader before.node bucket key versionID).2 =
        .ok (body, record) →
      (getObject config reader after.node bucket key versionID).2 =
        .ok (body, record)
  trash : ∀ id trashed, after.trash.get id = some trashed →
    before.trash.get id = some trashed
  copies : ∀ copyKey copyID record, after.node.store.objects.get
        ⟨normalizeBucketKey after.node.store trashBucketName, copyKey,
          copyID⟩ = some record →
      before.node.store.objects.get
        ⟨normalizeBucketKey after.node.store trashBucketName, copyKey,
          copyID⟩ = some record

section Move

variable {config : Config} {env : MoveEnv} {world : TrashWorld}
  {bucket key versionID deletedBy : String}

/-- The original is read as well once the trash bucket is there. -/
theorem readPath_ensured_iff
    {ensured : World} (made : ensureTrashBucket env world.node = .ok ensured)
    (faults : Faults) (path : Path) (data : Bytes) :
    readPath config.md5 faults ensured.disk path = .ok data ↔
      readPath config.md5 faults world.node.disk path = .ok data := by
  rw [readPath_ok_iff, readPath_ok_iff,
    (ensureTrashBucket_ensured made).files]

/-- The copy changes neither the record of the original nor its bucket. -/
theorem lookup_of_copied
    (known : (world.node.store.getBucketByKey bucket).isSome)
    {ensured copied : World} {src copy : ObjectRecord} {data : Bytes}
    (made : ensureTrashBucket env world.node = .ok ensured)
    (put : putObject config env.put.unforced ensured (trashRequest (trashKeyOf
      bucket key env.stamp src.versionID) data src) = (copied, .ok copy))
    (versionID : String) :
    copied.store.getObjectVersion bucket key versionID =
        world.node.store.getObjectVersion bucket key versionID ∧
      copied.store.getBucketByKey bucket =
        world.node.store.getBucketByKey bucket := by
  have same := ensureTrashBucket_ensured made
  have buckets := buckets_putObject config env.put.unforced ensured
    (trashRequest (trashKeyOf bucket key env.stamp src.versionID) data src)
  rw [put] at buckets
  constructor
  · rw [← same.lookup known]
    exact Store.getObjectVersion_congr buckets
      (sameKey_putObject put (trashKeyOf_ne _ _ _ _).symm) versionID
  · rw [← same.buckets bucket known]
    unfold Store.getBucketByKey
    rw [buckets]

/--
What a move that the lock refuses leaves: the row of the copy, the copy, and
the record of the original.
-/
structure LeavesCopy (env : MoveEnv) (before after : TrashWorld)
    (bucket key versionID : String) : Prop where
  row : ∃ trashed, after.trash =
    before.trash.put (newVersionID env.row.versionID).text trashed
  copy : ∃ trashBucket src, HasRecord after.node.store trashBucket
    (trashKeyOf bucket key env.stamp src)
  record : after.node.store.getObjectVersion bucket key versionID =
    before.node.store.getObjectVersion bucket key versionID

/-- A move that gets to its delete returns the refusal and leaves the copy. -/
theorem moveToTrash_of_reaches
    (deletedBy : String)
    (known : (world.node.store.getBucketByKey bucket).isSome)
    (refuses : checkDeleteAllowed env.delete.now world.node.store bucket key
      versionID false = .error err) (locked : err.locks = true)
    (reaches : ReachesDelete config env world bucket key versionID) :
    (moveToTrash config env world bucket key versionID deletedBy).2 =
        .error err ∧
      LeavesCopy env world (moveToTrash config env world bucket key
        versionID deletedBy).1 bucket key versionID := by
  obtain ⟨ensured, src, data, copy, made, found, visible, read, copies,
    saved⟩ := reaches
  have normal := normalizeBucketKey_of_isSome world.node.store known
  have same := ensureTrashBucket_ensured made
  have readThere := (readPath_ensured_iff made _ _ _).mpr read
  obtain ⟨copied, put⟩ : ∃ copied, putObject config env.put.unforced ensured
      (trashRequest (trashKeyOf bucket key env.stamp src.versionID) data
        src) = (copied, .ok copy) := ⟨_, Prod.ext rfl copies⟩
  obtain ⟨lookup, row⟩ := lookup_of_copied known made put versionID
  have there : (copied.store.getBucketByKey bucket).isSome := by
    rw [row]
    exact known
  have check : checkDeleteAllowed env.delete.now copied.store bucket key
      versionID false = .error err := by
    rw [← refuses]
    unfold checkDeleteAllowed
    rw [lookup, row]
  have missing : err ≠ .store .notFound := by
    rintro rfl
    cases locked
  have refused : deleteObject env.delete copied bucket key versionID false =
      (copied, { missing := decide (err = .store .notFound) },
        some err) := by
    unfold deleteObject
    simp only [normalizeBucketKey_of_isSome copied.store there, check]
    rw [if_neg (fun both => missing both.1)]
  unfold moveToTrash
  simp only [normal, made, same.lookup known, found, visible, readThere,
    put, Bool.false_eq_true, if_false, moveCopied, saved, refused]
  exact ⟨trivial, ⟨_, rfl⟩, ⟨_, _, hasRecord_putObject put⟩, lookup⟩

/-- Only the delete of a move returns the error of a lock. -/
theorem reaches_of_locked
    (known : (world.node.store.getBucketByKey bucket).isSome)
    (locked : err.locks = true)
    (failed : (moveToTrash config env world bucket key versionID
      deletedBy).2 = .error err) :
    ReachesDelete config env world bucket key versionID := by
  have normal := normalizeBucketKey_of_isSome world.node.store known
  unfold moveToTrash at failed
  simp only [normal] at failed
  have held : ∀ other : Err, Except.error other =
      (.error err : Except Err TrashRecord) → other.locks = true := by
    rintro other ⟨⟩
    exact locked
  split at failed
  · rename_i other refused
    have free := unlocked_ensureTrashBucket env world.node other refused
    rw [held other failed] at free
    cases free
  · rename_i ensured made
    have same := ensureTrashBucket_ensured made
    rw [same.lookup known] at failed
    split at failed
    · cases held _ failed
    · rename_i src found
      split at failed
      · cases held _ failed
      · rename_i visible
        split at failed
        · cases held _ failed
        · rename_i data read
          split at failed
          · rename_i copied other refused
            have free := unlocked_putObject config env.put.unforced ensured
              _ other (congrArg Prod.snd refused)
            rw [held other failed] at free
            cases free
          · rename_i copied copy put
            refine ⟨ensured, src, data, copy, made, found, by
              simpa using visible, (readPath_ensured_iff made _ _ _).mp read,
              congrArg Prod.snd put, ?_⟩
            unfold moveCopied at failed
            split at failed
            · cases held _ failed
            · rename_i saved
              simpa using saved

end Move

/--
For every object that `checkDeleteAllowed` refuses to delete: the refusal of
its move is without effect if and only if the move does not get to the delete,
where the lock would refuse it.  A move that gets there is refused, and leaves
the copy and its row.
-/
theorem refused_move_without_effect_iff
    (config : Config) (env : MoveEnv) (world : TrashWorld)
    (bucket key versionID deletedBy : String) (err : Err)
    (known : (world.node.store.getBucketByKey bucket).isSome)
    (refuses : checkDeleteAllowed env.delete.now world.node.store bucket key
      versionID false = .error err) (locked : err.locks = true)
    (fresh : world.trash.get (newVersionID env.row.versionID).text = none) :
    (((moveToTrash config env world bucket key versionID deletedBy).2 =
            .error err →
          NoEffect config world (moveToTrash config env world bucket key
            versionID deletedBy).1 bucket key versionID) ↔
        ¬ReachesDelete config env world bucket key versionID) ∧
      (ReachesDelete config env world bucket key versionID →
        (moveToTrash config env world bucket key versionID deletedBy).2 =
            .error err ∧
          LeavesCopy env world (moveToTrash config env world bucket key
            versionID deletedBy).1 bucket key versionID) := by
  have reached : ReachesDelete config env world bucket key versionID → _ :=
    moveToTrash_of_reaches deletedBy known refuses locked
  refine ⟨⟨?_, ?_⟩, reached⟩
  · intro claimed reaches
    obtain ⟨refused, leaves⟩ := reached reaches
    obtain ⟨trashed, row⟩ := leaves.row
    have there : (moveToTrash config env world bucket key versionID
        deletedBy).1.trash.get (newVersionID env.row.versionID).text =
          some trashed := by
      rw [row]
      exact Table.get_put_self _ _ _
    have before := (claimed refused).trash _ _ there
    rw [fresh] at before
    cases before
  · intro stops refused
    exact absurd (reaches_of_locked known locked refused) stops

/-! ## An object under legal hold -/

/-- A node with a cipher that opens what it has sealed. -/
def taggingConfig : Config := { plainConfig with aead := Aead.tagging }

/-- A move with ids and times of its own. -/
def noteMove : MoveEnv where
  create := callEnv 11
  put := callEnv 12
  row := callEnv 13
  delete := callEnv 14
  stamp := 1
  storageKey := trashBucketName
  owner := "system"
  tenantID := ""

/-- A bucket with one object, which is put under legal hold. -/
def heldMoveCalls : List TrashCall :=
  [.call (.createBucket (callEnv 1) "b" "b" "" ""),
    .call (.putObject (callEnv 2) (smallPut "k")),
    .call (.putObjectLegalHold (callEnv 3) "b" "k" "" true)]

/-- The move is refused, and its copy and its row are there. -/
theorem refused_move_leaves_copy :
    checkDeleteAllowed noteMove.delete.now
        (trashRun taggingConfig heldMoveCalls).node.store "b" "k" "" false =
          .error .legalHold ∧
      (moveToTrash taggingConfig noteMove (trashRun taggingConfig heldMoveCalls)
        "b" "k" "" "user").2 = .error .legalHold ∧
      ¬NoEffect taggingConfig (trashRun taggingConfig heldMoveCalls)
        (moveToTrash taggingConfig noteMove
          (trashRun taggingConfig heldMoveCalls) "b" "k" "" "user").1 "b" "k"
        "" := by
  refine ⟨by decide +kernel, by decide +kernel, fun without => ?_⟩
  have noted : ((moveToTrash taggingConfig noteMove
      (trashRun taggingConfig heldMoveCalls) "b" "k" "" "user").1.trash.get
        "0d").isSome = true := by
    decide +kernel
  obtain ⟨trashed, row⟩ := Option.isSome_iff_exists.mp noted
  have before := without.trash "0d" trashed row
  cases before

/-- A move whose row cannot be saved. -/
def unsavedMove : MoveEnv :=
  { noteMove with
    row := { callEnv 13 with transactionFails := fun _ => true } }

/-- A move that does not get to its delete is not refused by the lock. -/
theorem refused_move_without_effect_unsaved :
    checkDeleteAllowed unsavedMove.delete.now
        (trashRun taggingConfig heldMoveCalls).node.store "b" "k" "" false =
          .error .legalHold ∧
      ((moveToTrash taggingConfig unsavedMove
            (trashRun taggingConfig heldMoveCalls) "b" "k" "" "user").2 =
          .error .legalHold →
        NoEffect taggingConfig (trashRun taggingConfig heldMoveCalls)
          (moveToTrash taggingConfig unsavedMove
            (trashRun taggingConfig heldMoveCalls) "b" "k" "" "user").1 "b" "k"
          "") := by
  have refuses : checkDeleteAllowed unsavedMove.delete.now
      (trashRun taggingConfig heldMoveCalls).node.store "b" "k" "" false =
        .error .legalHold := by
    decide
  refine ⟨refuses, (refused_move_without_effect_iff taggingConfig
    unsavedMove (trashRun taggingConfig heldMoveCalls) "b" "k" "" "user"
    .legalHold (by decide) refuses rfl (by decide)).1.mpr ?_⟩
  rintro ⟨_, _, _, _, _, _, _, _, _, saved⟩
  cases saved

end DataSafe.S3
