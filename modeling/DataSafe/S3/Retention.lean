import DataSafe.S3.Versions

/-!
# COMPLIANCE retention over runs

A version is under COMPLIANCE retention by its own record, or by the default
of its bucket, which `checkDeleteAllowed` reads anew at every check.  The
calls that set retention, lock configuration and versioning are not monotone
by themselves: an administrator can shorten a date, change a mode and switch
the lock off.

The result is about runs of these calls that keep what the version has.  In
such a run no check lets the version go before its date.
-/

namespace DataSafe.S3

open Base Metadata Storage

/-! ## Modes -/

/-- Upper case keeps spaces, and changes nothing the second time. -/
theorem upperRune_spec (rune : Char) :
    isSpace (upperRune rune) = isSpace rune ∧
      upperRune (upperRune rune) = upperRune rune := by
  by_cases dotless : rune = 'ı'
  · rw [dotless]
    decide
  by_cases long : rune = 'ſ'
  · rw [long]
    decide
  by_cases lower : 'a' ≤ rune ∧ rune ≤ 'z'
  · have letters : ∀ code < 123, 97 ≤ code →
        isSpace (upperRune (Char.ofNat code)) = isSpace (Char.ofNat code) ∧
          upperRune (upperRune (Char.ofNat code)) =
            upperRune (Char.ofNat code) := by
      decide +kernel
    have low : 97 ≤ rune.toNat := lower.1
    have high : rune.toNat ≤ 122 := lower.2
    have spec := letters rune.toNat (by omega) low
    rw [Char.ofNat_toNat] at spec
    exact spec
  · simp [upperRune, dotless, long, lower]

theorem dropWhile_isSpace_map (runes : List Char) :
    (runes.map upperRune).dropWhile isSpace =
      (runes.dropWhile isSpace).map upperRune := by
  rw [List.dropWhile_map]
  congr 2
  funext rune
  exact (upperRune_spec rune).1

/-- A mode is compared without regard to its case. -/
theorem normalMode_toUpper (mode : String) :
    normalMode (toUpper mode) = normalMode mode := by
  have idem : upperRune ∘ upperRune = upperRune := by
    funext rune
    exact (upperRune_spec rune).2
  unfold normalMode toUpper trimSpace
  simp only [String.toList_ofList, dropWhile_isSpace_map, ← List.map_reverse,
    List.map_map, idem]

/-! ## Retention of a version -/

/-- The COMPLIANCE retention that a record carries itself. -/
def OwnRetention (limit : Time) (record : ObjectRecord) : Prop :=
  normalMode record.retentionMode = retentionCompliance ∧
    ∃ date, record.retentionUntil = some date ∧ limit ≤ date

/--
The COMPLIANCE retention that a record has from its bucket: the default of the
bucket reaches to the date, and the mode of the record, or that of the bucket
if the record has none, is COMPLIANCE.
-/
def InheritedRetention (limit : Time) (bucketRec : BucketRecord)
    (record : ObjectRecord) : Prop :=
  (∃ date, defaultRetention bucketRec record = some date ∧ limit ≤ date) ∧
    (normalMode record.retentionMode = retentionCompliance ∨
      normalMode record.retentionMode = "" ∧
        normalMode bucketRec.retentionMode = retentionCompliance)

/-- A version under COMPLIANCE retention up to a date. -/
structure CompliantUntil (limit : Time) (store : Store) (row : RowKey)
    (record : ObjectRecord) (bucketRec : BucketRecord) : Prop where
  version : IsVersion store row record
  bucket : store.getBucketByKey row.bucket = some bucketRec
  retained : OwnRetention limit record ∨
    InheritedRetention limit bucketRec record

/-- What a check answers for a retained record. -/
def refusal (record : ObjectRecord) : Err :=
  if record.legalHold then .legalHold else .retentionLocked

variable {limit now : Time} {record : ObjectRecord} {row : RowKey}
  {bucket key versionID mode : String} {env : Env}

theorem any_before
    {dated : Option Time} (reaches : ∃ date, dated = some date ∧ limit ≤ date)
    (early : now < limit) :
    dated.any (fun date => now < date) = true := by
  obtain ⟨date, rfl, late⟩ := reaches
  simpa using lt_of_lt_of_le early late

theorem checkRecord_of_own
    (own : OwnRetention limit record) (early : now < limit)
    (bucketRec : Option BucketRecord) (bypassGovernance : Bool) :
    checkRecord now bucketRec record bypassGovernance =
      .error (refusal record) := by
  have held := any_before own.2 early
  have proper : retentionCompliance ≠ "" := by decide
  unfold checkRecord refusal
  by_cases hold : record.legalHold = true
  · simp [hold]
  · simp [hold, own.1, held, proper]

theorem checkRecord_of_inherited
    {bucketRec : BucketRecord}
    (inherited : InheritedRetention limit bucketRec record)
    (early : now < limit) (bypassGovernance : Bool) :
    checkRecord now (some bucketRec) record bypassGovernance =
      .error (refusal record) := by
  have reached := any_before inherited.1 early
  have proper : retentionCompliance ≠ "" := by decide
  unfold checkRecord refusal
  by_cases hold : record.legalHold = true
  · simp [hold]
  · rcases inherited.2 with own | ⟨none, default⟩
    · simp [hold, own, reached, proper]
    · simp [hold, none, default, reached, proper]

/-- Before its date a retained version is refused, bypassed or not. -/
theorem checkDeleteAllowed_of_compliant
    {store : Store} {bucketRec : BucketRecord}
    (compliant : CompliantUntil limit store row record bucketRec)
    (early : now < limit) (bypassGovernance : Bool) :
    checkDeleteAllowed now store row.bucket row.key row.versionID
        bypassGovernance = .error (refusal record) := by
  unfold checkDeleteAllowed
  rw [compliant.version.lookup, compliant.bucket]
  rcases compliant.retained with own | inherited
  · exact checkRecord_of_own own early _ _
  · exact checkRecord_of_inherited inherited early _

/-! ## Calls that keep it -/

/-- A mode that does not weaken the default of a bucket. -/
def KeepsMode (mode : String) : Prop :=
  mode = "" ∨ normalMode mode = retentionCompliance

/-- The call keeps the retention of a version with this record and bucket. -/
def KeepsRecord (limit : Time) (row : RowKey) (record : ObjectRecord)
    (bucketRec : BucketRecord) (world : World) : Call → Prop
  | .setBucketVersioning _ _ _ => True
  | .putObjectLegalHold _ _ _ _ _ => True
  | .putObjectLockConfiguration _ bucket lock =>
    normalizeBucketKey world.store bucket = row.bucket →
      OwnRetention limit record ∨
        InheritedRetention limit (lockBucket bucketRec lock) record
  | .putObjectRetention _ bucket key versionID mode date =>
    normalizeBucketKey world.store bucket = row.bucket →
      if key = row.key ∧ world.store.getObjectVersion row.bucket key
          versionID = some record then
        KeepsMode mode ∧ ∀ limited, date = .on limited → limit ≤ limited
      else
        -- A retention of another version sets the mode of the bucket.
        normalMode record.retentionMode = retentionCompliance ∨
          KeepsMode mode
  | .putObject env request => PutBeside env.unforced world row request
  | _ => False

/-- One of the calls in question, and it keeps the retention. -/
def KeepsRetention (limit : Time) (row : RowKey) (world : World)
    (call : Call) : Prop :=
  ∀ record bucketRec, world.store.objects.get row = some record →
    world.store.getBucketByKey row.bucket = some bucketRec →
      KeepsRecord limit row record bucketRec world call

section Steps

variable {limit : Time} {store stored : Store} {row : RowKey}
  {record : ObjectRecord} {bucketRec : BucketRecord}

/-- A retained version, whatever its record has become. -/
def Compliant (limit : Time) (store : Store) (row : RowKey) : Prop :=
  ∃ record bucketRec, CompliantUntil limit store row record bucketRec

section

variable (compliant : CompliantUntil limit store row record bucketRec)

include compliant

/-- Another record of the bucket has to keep an inherited retention. -/
theorem CompliantUntil.updateBucket
    {changed : BucketRecord} (done : store.updateBucket changed = .ok stored)
    (keeps : changed.effectiveStorageKey = row.bucket → OwnRetention limit
      record ∨ InheritedRetention limit changed record) :
    Compliant limit stored row := by
  have same := Store.updateBucket_sameObjects done
  have buckets := Store.getBucketByKey_updateBucket done row.bucket
  have version : (stored.getBucketByKey row.bucket).isSome →
      IsVersion stored row record := fun present =>
    compliant.version.mono present (by rw [same.objects])
      (fun _ => by rw [same.latest])
  by_cases here : row.bucket = changed.effectiveStorageKey
  · rw [if_pos here] at buckets
    exact ⟨record, changed, version (by simp [buckets]), buckets,
      keeps here.symm⟩
  · rw [if_neg here, compliant.bucket] at buckets
    exact ⟨record, bucketRec, version (by simp [buckets]), buckets,
      compliant.retained⟩

omit compliant in
/-- The record of a bucket is found under its own key. -/
theorem found_bucket
    {found : BucketRecord} (lookup : store.getBucketByKey bucket = some found)
    (bucketKnown : store.getBucketByKey row.bucket = some bucketRec)
    (here : found.effectiveStorageKey = row.bucket) :
    bucket = row.bucket ∧ found = bucketRec := by
  have key := store.bucket_key bucket found lookup
  have same : bucket = row.bucket := key.symm.trans here
  rw [same, bucketKnown] at lookup
  exact ⟨same, (Option.some.inj lookup).symm⟩

theorem CompliantUntil.setBucketVersioning
    {status : String}
    (done : S3.setBucketVersioning env store bucket status = .ok stored) :
    Compliant limit stored row := by
  unfold S3.setBucketVersioning at done
  split at done
  · cases done
  · rename_i found lookup
    split_ifs at done
    refine compliant.updateBucket (Env.transact_eq_ok_iff.mp done).2 ?_
    intro here
    obtain ⟨_, rfl⟩ := found_bucket lookup compliant.bucket here
    exact compliant.retained

theorem CompliantUntil.putObjectLockConfiguration
    {lock : ObjectLockConfiguration}
    (done : S3.putObjectLockConfiguration env store bucket lock = .ok stored)
    (keeps : normalizeBucketKey store bucket = row.bucket → OwnRetention limit
      record ∨ InheritedRetention limit (lockBucket bucketRec lock) record) :
    Compliant limit stored row := by
  unfold S3.putObjectLockConfiguration at done
  split at done
  · cases done
  · rename_i found lookup
    refine compliant.updateBucket (Env.transact_eq_ok_iff.mp done).2 ?_
    intro here
    obtain ⟨same, rfl⟩ := found_bucket lookup compliant.bucket here
    exact keeps same

/-- The bucket of a version survives a rewrite of objects. -/
theorem bucket_of_rewrite
    {change : ObjectRecord → ObjectRecord}
    (done : store.rewriteObject bucket key versionID change = .ok stored) :
    stored.getBucketByKey row.bucket = some bucketRec := by
  obtain ⟨found, _, put⟩ := Store.rewriteObject_ok done
  unfold Store.getBucketByKey
  rw [(Store.putObjectTx_sameRest put).buckets]
  exact compliant.bucket

theorem CompliantUntil.setObjectLegalHold
    (sound : Sound store) {hold : Bool}
    (normal : store.normalizeObjectBucket bucket = bucket)
    (done : store.setObjectLegalHold bucket key versionID hold = .ok stored) :
    Compliant limit stored row := by
  have bucketKept := bucket_of_rewrite compliant done
  rcases compliant.version.rewriteObject sound normal done
    ⟨fun _ => rfl, fun _ => rfl, fun _ => rfl, fun _ => rfl⟩ with
    version | ⟨_, _, _, version⟩
  · exact ⟨_, _, version, bucketKept, compliant.retained⟩
  · exact ⟨_, _, version, bucketKept, compliant.retained⟩

end

/-- The record under a new retention. -/
def retainedRecord (date : Time) (mode : String)
    (record : ObjectRecord) : ObjectRecord :=
  { record with
    retentionUntil := some date
    retentionMode :=
      if normalMode mode ≠ "" then normalMode mode
      else record.retentionMode }

theorem retained_retainedRecord
    {date : Time}
    (retained : OwnRetention limit record ∨ InheritedRetention limit bucketRec
      record) (keepsMode : KeepsMode mode) (late : limit ≤ date) :
    OwnRetention limit (retainedRecord date mode record) ∨
      InheritedRetention limit bucketRec
        (retainedRecord date mode record) := by
  have proper : retentionCompliance ≠ "" := by decide
  rcases keepsMode with rfl | compliance
  · rcases retained with own | inherited
    · refine .inl ⟨?_, date, rfl, late⟩
      exact own.1
    · refine .inr ⟨inherited.1, ?_⟩
      exact inherited.2
  · refine .inl ⟨?_, date, rfl, late⟩
    have named : (retainedRecord date mode record).retentionMode =
        retentionCompliance := by
      simp [retainedRecord, compliance, proper]
    rw [named]
    decide

/-- The bucket behind a retention request of one of its versions. -/
private def retainingBucket (bucketRec : BucketRecord) (mode : String) :
    BucketRecord :=
  { bucketRec with
    objectLock := true
    retentionMode :=
      if mode ≠ "" then toUpper mode else bucketRec.retentionMode }

theorem inherited_retainingBucket
    (inherited : InheritedRetention limit bucketRec record)
    (keeps : normalMode record.retentionMode = retentionCompliance ∨
      KeepsMode mode) :
    InheritedRetention limit (retainingBucket bucketRec mode) record := by
  obtain ⟨⟨date, dated, late⟩, moded⟩ := inherited
  have locked : bucketRec.objectLock ∧ 0 < bucketRec.retentionDays := by
    unfold defaultRetention at dated
    by_contra unlocked
    rw [if_neg unlocked] at dated
    cases dated
  refine ⟨⟨date, ?_, late⟩, ?_⟩
  · rw [← dated]
    simp [defaultRetention, retainingBucket, locked]
  · rcases moded with own | ⟨none, default⟩
    · exact .inl own
    · rcases keeps with own | rfl | compliance
      · exact .inl own
      · exact .inr ⟨none, default⟩
      · refine .inr ⟨none, ?_⟩
        unfold retainingBucket
        split_ifs
        · rw [normalMode_toUpper]
          exact compliance
        · exact default

section

variable (compliant : CompliantUntil limit store row record bucketRec)
  (sound : Sound store)

include compliant sound

/-- A retention request on the rows of the objects. -/
private theorem CompliantUntil.setObjectRetention
    {date : Time} (normal : store.normalizeObjectBucket bucket = bucket)
    (done : store.setObjectRetention bucket key versionID date (normalMode
      mode) = .ok stored)
    (keeps : bucket = row.bucket → key = row.key → store.getObjectVersion
      bucket key versionID = some record → KeepsMode mode ∧ limit ≤ date) :
    CompliantUntil limit stored row record bucketRec ∨
      KeepsMode mode ∧ CompliantUntil limit stored row
        (retainedRecord date mode record) bucketRec := by
  have bucketKept := bucket_of_rewrite compliant done
  rcases compliant.version.rewriteObject sound normal done
    ⟨fun _ => rfl, fun _ => rfl, fun _ => rfl, fun _ => rfl⟩ with
    version | ⟨sameBucket, sameKey, lookup, version⟩
  · exact .inl ⟨version, bucketKept, compliant.retained⟩
  · obtain ⟨keepsMode, late⟩ := keeps sameBucket sameKey lookup
    exact .inr ⟨keepsMode, version, bucketKept,
      retained_retainedRecord compliant.retained keepsMode late⟩

omit sound in
/-- The update of the bucket behind it. -/
private theorem CompliantUntil.retainingBucket
    {found : BucketRecord} (lookup : store.getBucketByKey bucket = some found)
    (done : store.updateBucket (S3.retainingBucket found mode) = .ok stored)
    (keeps : bucket = row.bucket → normalMode record.retentionMode =
      retentionCompliance ∨ KeepsMode mode) :
    Compliant limit stored row := by
  refine compliant.updateBucket done ?_
  intro here
  obtain ⟨same, rfl⟩ := found_bucket lookup compliant.bucket here
  rcases compliant.retained with own | inherited
  · exact .inl own
  · exact .inr (inherited_retainingBucket inherited (keeps same))

theorem CompliantUntil.putObjectRetention
    {date : RetainDate}
    (done : S3.putObjectRetention env store bucket key versionID mode date =
      .ok stored)
    (keeps : normalizeBucketKey store bucket = row.bucket → if key = row.key ∧
      store.getObjectVersion row.bucket key versionID = some record then
      KeepsMode mode ∧ ∀ limited, date = .on limited → limit ≤ limited else
      normalMode record.retentionMode = retentionCompliance ∨ KeepsMode
      mode) :
    Compliant limit stored row := by
  have kept : normalizeBucketKey store bucket = row.bucket →
      normalMode record.retentionMode = retentionCompliance ∨
        KeepsMode mode := by
    intro here
    have kept := keeps here
    split_ifs at kept
    · exact .inr kept.1
    · exact kept
  unfold S3.putObjectRetention at done
  cases date with
  | absent => cases done
  | malformed => cases done
  | on date =>
    simp only [bind, Except.bind] at done
    split at done
    · cases done
    · rename_i rewritten put
      have stage := compliant.setObjectRetention sound
        (normalizeObjectBucket_normalizeBucketKey store bucket)
        (Env.transact_eq_ok_iff.mp put).2
        (fun here sameKey lookup => by
          have kept := keeps here
          rw [here] at lookup
          rw [if_pos ⟨sameKey, lookup⟩] at kept
          exact ⟨kept.1, kept.2 date rfl⟩)
      split at done
      · cases done
        rcases stage with unchanged | ⟨_, changed⟩
        · exact ⟨_, _, unchanged⟩
        · exact ⟨_, _, changed⟩
      · rename_i found lookup
        split at done
        · rename_i locked updated
          cases done
          have update := (Env.transact_eq_ok_iff.mp updated).2
          rcases stage with unchanged | ⟨keepsMode, changed⟩
          · exact unchanged.retainingBucket lookup update kept
          · exact changed.retainingBucket lookup update
              (fun _ => .inr keepsMode)
        · cases done
          rcases stage with unchanged | ⟨_, changed⟩
          · exact ⟨_, _, unchanged⟩
          · exact ⟨_, _, changed⟩

end

end Steps

/-- One call that keeps the retention. -/
theorem compliant_step
    (config : Config) (world : World) (sound : Sound world.store)
    (compliant : Compliant limit world.store row) {call : Call}
    (keeps : KeepsRetention limit row world call) :
    Compliant limit (step config world call).store row := by
  obtain ⟨record, bucketRec, retained⟩ := compliant
  have kept := keeps record bucketRec retained.version.stored retained.bucket
  have unchanged : Compliant limit world.store row := ⟨_, _, retained⟩
  have keep : ∀ result : Except Err Store,
      (∀ stored, result = .ok stored → Compliant limit stored row) →
        Compliant limit (world.keep result).store row := by
    intro result served
    cases result with
    | error err => exact unchanged
    | ok stored => exact served stored rfl
  cases call with
  | setBucketVersioning env bucket status =>
    exact keep _ fun _ => retained.setBucketVersioning
  | putObjectLockConfiguration env bucket lock =>
    exact keep _ fun _ done =>
      retained.putObjectLockConfiguration done kept
  | putObjectRetention env bucket key versionID mode date =>
    exact keep _ fun _ done =>
      retained.putObjectRetention sound done kept
  | putObjectLegalHold env bucket key versionID hold =>
    exact keep _ fun _ done => retained.setObjectLegalHold sound
      (normalizeObjectBucket_normalizeBucketKey _ _)
      (Env.transact_eq_ok_iff.mp done).2
  | putObject env request =>
    refine ⟨record, bucketRec,
      retained.version.putObject config world kept, ?_,
      retained.retained⟩
    unfold Store.getBucketByKey step
    rw [buckets_putObject]
    exact retained.bucket
  | _ => exact kept.elim

theorem compliant_run
    (config : Config) (before : List Call)
    (compliant : Compliant limit (run config before).store row)
    (calls : List Call)
    (keeps : ∀ front call, front ++ [call] <+: calls →
      KeepsRetention limit row (run config (before ++ front)) call) :
    Compliant limit (run config (before ++ calls)).store row := by
  induction calls using List.reverseRecOn with
  | nil =>
    rw [List.append_nil]
    exact compliant
  | append_singleton calls call induction =>
    have earlier := induction fun front other made =>
      keeps front other (made.trans (List.prefix_append _ _))
    rw [← List.append_assoc, run_concat]
    exact compliant_step config _ (sound_run config _) earlier
      (keeps calls call (List.prefix_refl _))

/-- A version under COMPLIANCE retention for some time. -/
def retainedCalls : List Call :=
  versionedCalls ++
    [.putObjectRetention (callEnv 4) "b" "k" "03" "COMPLIANCE" (.on 100)]

/-- The row of that version. -/
def retainedRow : RowKey := ⟨"b", "k", "03"⟩

theorem retainedCalls_compliant :
    Compliant 100 (run plainConfig retainedCalls).store retainedRow := by
  have bucket : ((run plainConfig retainedCalls).store.getBucketByKey
      "b").isSome := by decide +kernel
  have version : ((run plainConfig retainedCalls).store.objects.get
      retainedRow).any (fun record =>
        normalMode record.retentionMode = retentionCompliance ∧
          record.retentionUntil = some 100) := by decide +kernel
  obtain ⟨bucketRec, found⟩ := Option.isSome_iff_exists.mp bucket
  obtain ⟨record, stored, own⟩ := (Option.any_eq_true _ _).mp version
  obtain ⟨mode, date⟩ := of_decide_eq_true own
  have named : retainedRow.versionID ≠ "" := by decide
  exact ⟨record, bucketRec,
    ⟨bucket, stored, fun unnamed => absurd unnamed named⟩, found,
    .inl ⟨mode, 100, date, le_refl _⟩⟩

/-- A longer retention, a legal hold and a new version. -/
def extendingCalls : List Call :=
  [.putObjectRetention (callEnv 5) "b" "k" "03" "COMPLIANCE" (.on 200),
    .putObjectLegalHold (callEnv 6) "b" "k" "03" true,
    .putObject (callEnv 7) (smallPut "k")]

theorem extendingCalls_keep
    (front : List Call) (call : Call)
    (made : front ++ [call] <+: extendingCalls) :
    KeepsRetention 100 retainedRow
      (run plainConfig (retainedCalls ++ front)) call := by
  intro record bucketRec _ _
  rcases front with _ | ⟨first, _ | ⟨second, _ | ⟨third, rest⟩⟩⟩
  · simp only [extendingCalls, List.nil_append, List.cons_prefix_cons] at made
    rw [made.1]
    intro _
    have keepsMode : KeepsMode "COMPLIANCE" := .inr (by decide)
    split_ifs
    · refine ⟨keepsMode, ?_⟩
      rintro limited ⟨⟩
      decide
    · exact .inr keepsMode
  · simp only [extendingCalls, List.cons_append, List.nil_append,
      List.cons_prefix_cons] at made
    rw [made.2.1]
    trivial
  · simp only [extendingCalls, List.cons_append, List.nil_append,
      List.cons_prefix_cons] at made
    obtain ⟨rfl, rfl, rfl, _⟩ := made
    intro _ _
    exact ⟨by decide +kernel, by decide, by decide⟩
  · simp [extendingCalls] at made

end DataSafe.S3
