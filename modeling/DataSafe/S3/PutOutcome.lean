import DataSafe.S3.Objects

/-!
# What a put does

A put that is refused touches nothing but, at most, the row of a key that is
used for the first time.  A put that is not refused always leaves the disk as
its write left it; it succeeds if a file lies at the path it wrote to and
neither the stat nor the commit fails.  Callers use the lemmas here and do
not unfold the put.
-/

namespace DataSafe.S3

open Base Kms Metadata Storage

/-! ## Keys that are used for the first time -/

/-- The store as it was, or with the active row of one new key. -/
inductive KeyAdded (store : Store) : Store → Prop where
  | same : KeyAdded store store
  | added (key : KMSKeyRecord) (fresh : store.getKMSKey key.id = none)
      (active : key.status = "active") :
      KeyAdded store (store.putKMSKey key)

variable {id bucket key : String} {store : Store} {other : Path}

namespace KeyAdded

variable {store stored : Store}

section

variable (added : KeyAdded store stored)

include added

theorem buckets :
    stored.buckets = store.buckets := by
  cases added <;> rfl

theorem objects :
    stored.objects = store.objects := by
  cases added <;> rfl

theorem latest :
    stored.latest = store.latest := by
  cases added <;> rfl

theorem multipart :
    stored.multipart = store.multipart := by
  cases added <;> rfl

/-- A row that exists stays as it is. -/
theorem getKMSKey_of_isSome
    (known : (store.getKMSKey id).isSome) :
    stored.getKMSKey id = store.getKMSKey id := by
  cases added with
  | same => rfl
  | added key fresh active =>
    refine Table.get_put_of_ne _ _ ?_
    rintro rfl
    rw [fresh] at known
    cases known

/-- A new row is not that of a destroyed key. -/
theorem status_of_new
    (unknown : store.getKMSKey id = none) {key : KMSKeyRecord}
    (found : stored.getKMSKey id = some key) :
    key.id = id ∧ key.status = "active" := by
  cases added with
  | same =>
    rw [unknown] at found
    cases found
  | added new fresh active =>
    unfold Store.getKMSKey Store.putKMSKey at found
    rw [Table.get_put] at found
    split_ifs at found with same
    · cases found
      exact ⟨same.symm, active⟩
    · unfold Store.getKMSKey at unknown
      rw [unknown] at found
      cases found

end

end KeyAdded

theorem ensureKMSKey_keyAdded
    (env : Env) (store : Store) (id tenant bucketKey provider : String) :
    KeyAdded store
      (ensureKMSKey env store id tenant bucketKey provider).1 := by
  unfold ensureKMSKey
  cases found : store.getKMSKey id with
  | some key =>
    simp only
    split_ifs <;> exact .same
  | none =>
    simp only
    split
    · rename_i stored done
      obtain ⟨_, same⟩ := Env.transact_eq_ok_iff.mp done
      cases same
      exact .added _ found rfl
    · exact .same

/-- A key that is handed out has a row. -/
theorem ensureKMSKey_known
    {env : Env} {stored : Store} {tenant bucketKey provider : String}
    {key : KMSKeyRecord}
    (done : ensureKMSKey env store id tenant bucketKey provider =
      (stored, .ok key)) :
    stored.getKMSKey key.id = some key := by
  suffices found : stored.getKMSKey id = some key by
    rw [stored.kms_row id key found]
    exact found
  unfold ensureKMSKey at done
  cases found : store.getKMSKey id with
  | some known =>
    simp only [found] at done
    split_ifs at done
    · cases done
    · cases done
      exact found
  | none =>
    simp only [found] at done
    split at done
    · rename_i put transacted
      obtain ⟨_, same⟩ := Env.transact_eq_ok_iff.mp transacted
      cases same
      cases done
      exact Table.get_put_self _ _ _
    · cases done

/-! ## How a body is prepared -/

/-- A body of this bucket is to be sealed. -/
def Encrypts (env : Env) (bucket : BucketRecord) : Prop :=
  env.spec.forced.filter isFormat1 ≠ none ∨ (resolveAlgo env bucket).1 ≠ ""

/-- The data key of a format-1 body: that of its upload, or a new one. -/
def dataKey (config : Config) (env : Env) (store : Store) : Option Bytes :=
  match env.spec.forced.filter isFormat1 with
  | some forced => (unwrapDEK config env store forced).toOption
  | none => some env.dek

/-- The three shapes of a prepared body. -/
inductive PreparedAs (config : Config) (env : Env) (store : Store)
    (bucket : BucketRecord) (source : Source) : Prepared → Prop where
  | plain (unsealed : ¬ Encrypts env bucket) :
      PreparedAs config env store bucket source
        ⟨rawBody source, none, { plaintext := true }⟩
  | format0 (key : LocalKey) (encryption : ObjectEncryption)
      (held : config.localKey = some key)
      (complete : source.ending = .eof)
      (unversioned : encryption.formatVersion = 0) :
      PreparedAs config env store bucket source
        ⟨⟨key.encryptFormat0 config.aead env.wrapNonce source.content,
          .eof⟩, some (.fixed source.content.length), encryption⟩
  | format1 (dek : Bytes) (body : Body) (encryption : ObjectEncryption)
      (drawn : dataKey config env store = some dek)
      (sealing : sealBody config env dek source = .ok body)
      (versioned : encryption.formatVersion = 1) :
      PreparedAs config env store bucket source
        ⟨body, some .live, encryption⟩

section Prepare

variable {config : Config} {env : Env} {store stored : Store}
  {bucket : BucketRecord} {source : Source} {prepared : Prepared}

theorem sealFormat1_spec
    {key : KMSKeyRecord} {algorithm provider : String}
    (free : env.spec.forced.filter isFormat1 = none)
    (done : sealFormat1 config env key algorithm provider source =
      .ok prepared) :
    PreparedAs config env store bucket source prepared ∧
      prepared.encryption.keyID = key.id := by
  unfold sealFormat1 at done
  cases wrapping : wrapDEK config env key provider with
  | error err => simp [wrapping, bind, Except.bind] at done
  | ok wrapped =>
    cases sealing : sealBody config env env.dek source with
    | error err => simp [wrapping, sealing, bind, Except.bind] at done
    | ok body =>
      simp only [wrapping, sealing] at done
      cases done
      refine ⟨.format1 env.dek body _ ?_ sealing rfl, rfl⟩
      simp only [dataKey, free]

theorem sealForced_spec
    {forced : ObjectEncryption}
    (done : sealForced config env store forced source = .ok prepared)
    (prescribed : env.spec.forced.filter isFormat1 = some forced) :
    PreparedAs config env store bucket source prepared ∧
      prepared.encryption = forced := by
  unfold sealForced at done
  cases unwrapping : unwrapDEK config env store forced with
  | error err => simp [unwrapping, bind, Except.bind] at done
  | ok dek =>
    cases sealing : sealBody config env dek source with
    | error err => simp [unwrapping, sealing, bind, Except.bind] at done
    | ok body =>
      simp only [unwrapping, sealing, bind, Except.bind] at done
      cases done
      obtain ⟨_, format⟩ := Option.filter_eq_some_iff.mp prescribed
      have version : forced.formatVersion = 1 := by
        simpa using (Bool.and_eq_true_iff.mp format).2
      refine ⟨.format1 dek body _ ?_ sealing version, rfl⟩
      simp only [dataKey, prescribed, unwrapping, Except.toOption]

/-- The key of a data key that Vault has wrapped has a row. -/
def KeyKnown (store : Store) (encryption : ObjectEncryption) : Prop :=
  encryption.provider = providerVault →
    (store.getKMSKey encryption.keyID).isSome

/-- What preparing a body can end with. -/
inductive PrepareOutcome (config : Config) (env : Env) (store : Store)
    (bucket : BucketRecord) (source : Source) :
    Store × Except Err Prepared → Prop where
  | refused (stored : Store) (err : Err) (added : KeyAdded store stored) :
      PrepareOutcome config env store bucket source (stored, .error err)
  | prepared (stored : Store) (prepared : Prepared)
      (added : KeyAdded store stored)
      (shape : PreparedAs config env store bucket source prepared)
      (known : env.spec.forced = some prepared.encryption ∨
        KeyKnown stored prepared.encryption) :
      PrepareOutcome config env store bucket source (stored, .ok prepared)

variable (config : Config) (env : Env) (store : Store)
  (bucket : BucketRecord) (source : Source)

theorem sealWithKey_outcome
    (algorithm requested : String)
    (free : env.spec.forced.filter isFormat1 = none) :
    PrepareOutcome config env store bucket source
      (sealWithKey config env store bucket source algorithm requested) := by
  unfold sealWithKey
  split
  · exact .refused _ _ .same
  · rename_i provider keyID chosen
    have added := ensureKMSKey_keyAdded env store keyID bucket.tenantID
      bucket.effectiveStorageKey provider
    split
    · rename_i stored err ensured
      rw [ensured] at added
      exact .refused _ _ added
    · rename_i stored key ensured
      rw [ensured] at added
      have known := ensureKMSKey_known ensured
      cases sealing : sealFormat1 config env key algorithm provider
          source with
      | error err => exact .refused _ _ added
      | ok prepared =>
        obtain ⟨shape, keyID⟩ := sealFormat1_spec free sealing
        refine .prepared _ _ added shape (.inr fun _ => ?_)
        rw [keyID, known]
        rfl

theorem prepareObjectEncryption_outcome :
    PrepareOutcome config env store bucket source
      (prepareObjectEncryption config env store bucket source) := by
  unfold prepareObjectEncryption
  split
  · rename_i forced prescribed
    obtain ⟨present, _⟩ := Option.filter_eq_some_iff.mp prescribed
    cases sealing : sealForced config env store forced source with
    | error err => exact .refused _ _ .same
    | ok prepared =>
      obtain ⟨shape, rfl⟩ := sealForced_spec sealing prescribed
      exact .prepared _ _ .same shape (.inl present)
  · rename_i free
    have notVault : providerLocal ≠ providerVault := by decide
    simp only
    split_ifs with unasked
    · refine .prepared _ _ .same (.plain ?_) (.inr fun vault => ?_)
      · rintro (forced | asked)
        · exact forced free
        · exact asked unasked
      have empty : "" ≠ providerVault := by decide
      exact absurd vault empty
    · exact .refused _ _ .same
    · split
      · rename_i key held
        unfold sealFormat0
        split_ifs with complete
        · exact .refused _ _ .same
        · exact .prepared _ _ .same
            (.format0 _ _ held (by simpa using complete) rfl)
            (.inr fun vault => absurd vault notVault)
      · exact sealWithKey_outcome _ _ _ _ _ _ _ free
    · split <;> exact sealWithKey_outcome _ _ _ _ _ _ _ free

end Prepare

/-! ## Where a put writes -/

/-- A put that commits a version writes to a version path. -/
theorem putTarget_named
    {newID : VersionID} (named : newID.text ≠ "")
    (versioned : (putTarget store bucket key newID).versioned = true) :
    (putTarget store bucket key newID).versionID.text ≠ "" := by
  unfold putTarget at versioned ⊢
  split_ifs at versioned ⊢ with active suspended
  · exact named
  · split at versioned
    · split_ifs at versioned ⊢ with current
      · exact current.1
      · cases versioned
    · cases versioned
  · cases versioned

/-- A new version has the id that was drawn for it. -/
theorem putTarget_eq_fresh
    {newID versionID : VersionID}
    (fresh : putTarget store bucket key newID = .fresh versionID) :
    versionID = newID := by
  unfold putTarget at fresh
  split_ifs at fresh
  · exact (PutTarget.fresh.inj fresh).symm
  · split at fresh
    · split_ifs at fresh
    · cases fresh

/-- A put that does not commit a version writes the flat file. -/
theorem PutTarget.versionID_of_not_versioned
    {target : PutTarget} (flat : target.versioned = false) :
    target.versionID = .null := by
  cases target with
  | fresh versionID => cases flat
  | overwrite versionID => cases flat
  | flat suspended => rfl

theorem listObjectVersionIDs_named
    {versionID : VersionID}
    (listed : versionID ∈ store.listObjectVersionIDs bucket key) :
    versionID.text ≠ "" := by
  simp only [Store.listObjectVersionIDs, Store.versions, Store.rows,
    List.mem_map, List.mem_insertionSort, List.mem_filter,
    Bool.and_eq_true, bne_iff_ne] at listed
  obtain ⟨record, ⟨⟨row, found⟩, ⟨⟨scanned, _⟩, _, named⟩, rfl⟩, rfl⟩ :=
    listed
  have fits := store.object_row row found
    ((Table.mem_scan_iff _ _ _ _).mp scanned)
  rw [fits.2.2 named]
  exact named

variable (faults : Faults) (world : World)

theorem fileAt_deleteQuietly_of_ne
    (disk : Disk) {path : Path} (apart : other ≠ path) :
    fileAt (deleteQuietly faults disk path) other = fileAt disk other := by
  unfold deleteQuietly
  split
  · rename_i deleted done
    exact fileAt_deletePath_of_ne done apart
  · rfl

theorem fileAt_deleteVersions
    (bucket key : String) (other : Path) (ids : List VersionID) (disk : Disk)
    (apart : ∀ id ∈ ids, other ≠ dataPath bucket key id) :
    fileAt (ids.foldl (fun disk versionID =>
        deleteQuietly faults disk (dataPath bucket key versionID)) disk)
        other = fileAt disk other := by
  induction ids generalizing disk with
  | nil => rfl
  | cons id ids induction =>
    rw [List.foldl_cons, induction _ (fun later member =>
      apart later (List.mem_cons_of_mem _ member))]
    exact fileAt_deleteQuietly_of_ne _ _ (apart id List.mem_cons_self)

/-- A purge stays below the path of its key. -/
theorem fileAt_purgeObjectData_of_not_below
    (outside : ¬ objectPath bucket key <+: other) :
    fileAt (purgeObjectData faults world bucket key) other =
      fileAt world.disk other := by
  unfold purgeObjectData
  rw [fileAt_removeAllQuietly, if_neg (fun below => outside below.2)]
  apply fileAt_deleteVersions
  rintro id _ rfl
  exact outside (objectPath_prefix_dataPath bucket key id)

/-- The flat file survives a purge only by a fault. -/
theorem fileAt_purgeObjectData_self
    (bucket key : String) :
    fileAt (purgeObjectData faults world bucket key)
        (objectPath bucket key) =
      if faults .removeAll (objectPath bucket key) = false then none
      else fileAt world.disk (objectPath bucket key) := by
  unfold purgeObjectData
  rw [fileAt_removeAllQuietly, fileAt_deleteVersions]
  · simp
  · intro id listed same
    have named := listObjectVersionIDs_named listed
    have null : dataPath bucket key .null = objectPath bucket key := rfl
    rw [← null] at same
    have := dataPath_injective same
    rw [← this] at named
    exact named rfl

/-! ## What a prepared put does -/

section Prepared

variable (config : Config) (env : Env) (world : World)
  (bucketRec : BucketRecord) (bucket : String) (request : PutRequest)
  (prepared : Prepared)

/-- The stat and the commit of a put meet no fault. -/
structure Commits (path : Path) : Prop where
  mayStat : env.faults .stat .stat path = false
  mayOpen : env.faults .stat .openFile path = false
  mayPut : env.transactionFails .putObject = false

/-- Where this put writes. -/
def targetOf : PutTarget :=
  putTarget world.store bucket request.key (newVersionID env.versionID)

/-- The path that this put writes to. -/
def targetPath : Path :=
  dataPath bucket request.key (targetOf env world bucket request).versionID

/-- The disk that the write of this put finds. -/
def targetDisk : Disk :=
  clearedDisk env world bucket request.key
    (targetOf env world bucket request)

/-- What the write of this put returns. -/
def written : Written :=
  putWrite config env world bucket request prepared
    (targetOf env world bucket request)

/-- The write of this put succeeds. -/
def Writes : Prop :=
  Writable (env.write config .write) (targetDisk env world bucket request)
      (targetPath env world bucket request) ∧
    Copies (env.write config .write) (targetPath env world bucket request)
      prepared.body (checkedSize request prepared)

variable {config env world bucketRec bucket request prepared}

theorem written_ok_iff :
    (∃ etag, (written config env world bucket request prepared).reply =
        .ok etag) ↔
      Writes config env world bucket request prepared :=
  writeFile_ok_iff

theorem fileAt_written_of_ne
    (apart : other ≠ targetPath env world bucket request)
    (apartTemp : other ≠
      tempSibling (targetPath env world bucket request) env.tempName) :
    fileAt (written config env world bucket request prepared).disk other =
      fileAt (targetDisk env world bucket request) other :=
  fileAt_writeFile_of_ne apart apartTemp

theorem fileAt_written_of_error
    {err : BackendErr}
    (failed : (written config env world bucket request prepared).reply =
      .error err) :
    fileAt (written config env world bucket request prepared).disk
        (targetPath env world bucket request) =
      fileAt (targetDisk env world bucket request)
        (targetPath env world bucket request) :=
  fileAt_writeFile_of_error failed

theorem fileAt_written_of_not_writes
    (unwritten : ¬ Writes config env world bucket request prepared) :
    fileAt (written config env world bucket request prepared).disk
        (targetPath env world bucket request) =
      fileAt (targetDisk env world bucket request)
        (targetPath env world bucket request) := by
  cases reply : (written config env world bucket request prepared).reply with
  | error err => exact fileAt_written_of_error reply
  | ok etag => exact absurd (written_ok_iff.mp ⟨etag, reply⟩) unwritten

theorem fileAt_written_of_ok
    {etag : String}
    (done : (written config env world bucket request prepared).reply =
      .ok etag) :
    fileAt (written config env world bucket request prepared).disk
        (targetPath env world bucket request) =
      some ⟨prepared.body.data, env.modTime⟩ :=
  (fileAt_writeFile_of_ok done).1

/-- A put that commits a version writes to the disk as it is. -/
theorem targetDisk_of_versioned
    (versioned : (targetOf env world bucket request).versioned = true) :
    targetDisk env world bucket request = world.disk := by
  unfold targetDisk
  generalize targetOf env world bucket request = target at versioned
  cases target with
  | fresh versionID => rfl
  | overwrite versionID => rfl
  | flat suspended => cases versioned

/-- A put ends at the write, or goes on behind it. -/
theorem putPrepared_eq :
    putPrepared config env world bucketRec bucket request prepared =
      match (written config env world bucket request prepared).reply,
        (targetOf env world bucket request).swallows with
      | .error err, false =>
        ({ world with
          disk :=
            (written config env world bucket request prepared).disk },
          .error (.backend err))
      | _, _ =>
        putWritten config env world bucketRec bucket request prepared
          (targetOf env world bucket request)
          (written config env world bucket request prepared) :=
  rfl

/--
A file lies at the path behind the write: the new one, or one that was there
before and whose replacement failed unnoticed.
-/
def InPlace (config : Config) (env : Env) (world : World)
    (bucket : String) (request : PutRequest) (prepared : Prepared) : Prop :=
  Writes config env world bucket request prepared ∨
    (targetOf env world bucket request).swallows = true ∧
      (fileAt (targetDisk env world bucket request)
        (targetPath env world bucket request)).isSome

/-- What a prepared put ends with. -/
inductive PutOutcome (config : Config) (env : Env) (world : World)
    (bucketRec : BucketRecord) (bucket : String) (request : PutRequest)
    (prepared : Prepared) : World × Except Err ObjectRecord → Prop where
  | failed (err : Err)
      (why : ¬ (InPlace config env world bucket request prepared ∧
        Commits env (targetPath env world bucket request))) :
      PutOutcome config env world bucketRec bucket request prepared
        (⟨world.store,
          (written config env world bucket request prepared).disk⟩,
          .error err)
  | committed (info : ObjectInfo) (stored : Store) (record : ObjectRecord)
      (inPlace : InPlace config env world bucket request prepared)
      (commits : Commits env (targetPath env world bucket request))
      (stat : statPath config.md5 (env.faults .stat)
        (written config env world bucket request prepared).disk
        (targetPath env world bucket request) = .ok info)
      (formed : record = putRecord env world.store bucketRec bucket request
        prepared (targetOf env world bucket request).versionID
        ((written config env world bucket request
          prepared).reply.toOption.getD "")
        (written config env world bucket request prepared).extent info)
      (put : world.store.putObject record
        (targetOf env world bucket request).versioned = .ok stored) :
      PutOutcome config env world bucketRec bucket request prepared (⟨stored,
          (written config env world bucket request prepared).disk⟩,
          .ok record)

theorem fileAt_written_of_inPlace
    (inPlace : InPlace config env world bucket request prepared) :
    (fileAt (written config env world bucket request prepared).disk
      (targetPath env world bucket request)).isSome := by
  cases reply : (written config env world bucket request prepared).reply with
  | ok etag =>
    rw [fileAt_written_of_ok reply]
    rfl
  | error err =>
    rw [fileAt_written_of_error reply]
    rcases inPlace with writes | ⟨_, present⟩
    · obtain ⟨etag, done⟩ := written_ok_iff.mpr writes
      rw [reply] at done
      cases done
    · exact present

/-- A version with an id can always be put. -/
theorem putObject_target_ok
    (record : ObjectRecord)
    (here : record.versionID =
      (targetOf env world bucket request).versionID) :
    ∃ stored, world.store.putObject record
      (targetOf env world bucket request).versioned = .ok stored := by
  cases versioned : (targetOf env world bucket request).versioned with
  | false => exact ⟨_, rfl⟩
  | true =>
    refine Store.putObjectTx_versioned_ok_iff.mpr ?_
    show record.versionID.text ≠ ""
    rw [here]
    exact putTarget_named (newVersionID_ne _) versioned

theorem putWritten_outcome
    (heard : ∀ err, (written config env world bucket request prepared).reply =
      .error err → (targetOf env world bucket request).swallows = true) :
    PutOutcome config env world bucketRec bucket request prepared
      (putWritten config env world bucketRec bucket request prepared
        (targetOf env world bucket request)
        (written config env world bucket request prepared)) := by
  unfold putWritten
  cases stat : statPath config.md5 (env.faults .stat)
      (written config env world bucket request prepared).disk
      (targetPath env world bucket request) with
  | error err =>
    unfold targetPath at stat
    simp only [stat]
    refine .failed _ ?_
    rintro ⟨inPlace, mayStat, mayOpen, _⟩
    obtain ⟨blob, present⟩ := Option.isSome_iff_exists.mp
      (fileAt_written_of_inPlace inPlace)
    have found : statPath config.md5 (env.faults .stat)
        (written config env world bucket request prepared).disk
        (targetPath env world bucket request) = .ok _ :=
      statPath_ok_iff.mpr ⟨mayStat, mayOpen, blob, present, rfl⟩
    unfold targetPath at found
    rw [stat] at found
    cases found
  | ok info =>
    obtain ⟨mayStat, mayOpen, blob, present, _⟩ := statPath_ok_iff.mp stat
    have inPlace : InPlace config env world bucket request prepared := by
      cases reply :
          (written config env world bucket request prepared).reply with
      | ok etag => exact .inl (written_ok_iff.mp ⟨etag, reply⟩)
      | error err =>
        rw [fileAt_written_of_error reply] at present
        exact .inr ⟨heard err reply, by simp [present]⟩
    have statHere := stat
    unfold targetPath at statHere
    simp only [statHere]
    split
    · rename_i err refused
      refine .failed _ ?_
      rintro ⟨_, _, _, mayPut⟩
      obtain ⟨stored, put⟩ := putObject_target_ok
        (putRecord env world.store bucketRec bucket request prepared
          (targetOf env world bucket request).versionID _ _ info) rfl
      rw [Env.transact_eq_ok_iff.mpr ⟨mayPut, put⟩] at refused
      cases refused
    · rename_i stored done
      obtain ⟨mayPut, put⟩ := Env.transact_eq_ok_iff.mp done
      exact .committed info stored _ inPlace ⟨mayStat, mayOpen, mayPut⟩
        stat rfl put

theorem putPrepared_outcome
    (config : Config) (env : Env) (world : World) (bucketRec : BucketRecord)
    (bucket : String) (request : PutRequest) (prepared : Prepared) :
    PutOutcome config env world bucketRec bucket request prepared
      (putPrepared config env world bucketRec bucket request prepared) := by
  rw [putPrepared_eq]
  split
  · rename_i err reply heard
    refine .failed _ ?_
    rintro ⟨writes | ⟨swallows, _⟩, _⟩
    · obtain ⟨etag, done⟩ := written_ok_iff.mpr writes
      rw [reply] at done
      cases done
    · rw [heard] at swallows
      cases swallows
  · rename_i unheard
    apply putWritten_outcome
    intro err reply
    by_contra silent
    exact unheard err reply (by simpa using silent)

end Prepared

/-! ## What a put does -/

/-- The put passes the bucket, the quota and the encryption. -/
structure Admitted (config : Config) (env : Env) (world : World)
    (request : PutRequest) (bucketRec : BucketRecord) (stored : Store)
    (prepared : Prepared) : Prop where
  bucket : world.store.getBucketByKey
    (normalizeBucketKey world.store request.bucket) = some bucketRec
  quota : checkQuota world.store bucketRec
    (normalizeBucketKey world.store request.bucket) request.key
      request.size = .ok ()
  encryption : prepareObjectEncryption config env world.store bucketRec
    request.source = (stored, .ok prepared)

section Put

variable {config : Config} {env : Env} {world : World}
  {request : PutRequest} {bucketRec : BucketRecord} {stored : Store}
  {prepared : Prepared}

section

variable
  (admitted : Admitted config env world request bucketRec stored prepared)

include admitted

theorem putObject_of_admitted :
    putObject config env world request =
      putPrepared config env { world with store := stored } bucketRec
        (normalizeBucketKey world.store request.bucket) request
        prepared := by
  obtain ⟨bucket, quota, encryption⟩ := admitted
  simp only [putObject, bucket, quota, encryption]

theorem Admitted.put_outcome :
    PutOutcome config env { world with store := stored } bucketRec
      (normalizeBucketKey world.store request.bucket) request prepared
      (putObject config env world request) := by
  rw [putObject_of_admitted admitted]
  exact putPrepared_outcome _ _ _ _ _ _ _

theorem Admitted.outcome :
    KeyAdded world.store stored ∧
      PreparedAs config env world.store bucketRec request.source prepared ∧
      (env.spec.forced = some prepared.encryption ∨
        KeyKnown stored prepared.encryption) := by
  have outcome := prepareObjectEncryption_outcome config env world.store
    bucketRec request.source
  rw [admitted.encryption] at outcome
  cases outcome with
  | prepared stored prepared added shape known => exact ⟨added, shape, known⟩

end

/-- A put is refused before it touches the disk, or it is admitted. -/
theorem putObject_cases
    (config : Config) (env : Env) (world : World) (request : PutRequest) :
    (∃ stored err, KeyAdded world.store stored ∧
        putObject config env world request =
          ({ world with store := stored }, .error err)) ∨
      ∃ bucketRec stored prepared,
        Admitted config env world request bucketRec stored prepared := by
  cases bucket : world.store.getBucketByKey
      (normalizeBucketKey world.store request.bucket) with
  | none =>
    refine .inl ⟨world.store, .store .notFound, .same, ?_⟩
    simp only [putObject, bucket]
  | some bucketRec =>
    cases quota : checkQuota world.store bucketRec
        (normalizeBucketKey world.store request.bucket) request.key
          request.size with
    | error err =>
      refine .inl ⟨world.store, err, .same, ?_⟩
      simp only [putObject, bucket, quota]
    | ok passed =>
      have outcome := prepareObjectEncryption_outcome config env
        world.store bucketRec request.source
      cases encryption : prepareObjectEncryption config env world.store
          bucketRec request.source with
      | mk stored result =>
        rw [encryption] at outcome
        cases outcome with
        | refused stored err added =>
          refine .inl ⟨stored, err, added, ?_⟩
          simp only [putObject, bucket, quota, encryption]
        | prepared stored prepared added shape known =>
          exact .inr ⟨_, _, _, bucket, quota, encryption⟩

end Put

/-- Everything that a put needs to succeed. -/
def PutSucceeds (config : Config) (env : Env) (world : World)
    (request : PutRequest) : Prop :=
  ∃ bucketRec stored prepared,
    Admitted config env world request bucketRec stored prepared ∧
      InPlace config env { world with store := stored }
        (normalizeBucketKey world.store request.bucket) request prepared ∧
      Commits env (targetPath env { world with store := stored }
        (normalizeBucketKey world.store request.bucket) request)

theorem putObject_ok_iff
    {config : Config} {env : Env} {world : World} {request : PutRequest} :
    (∃ record, (putObject config env world request).2 = .ok record) ↔
      PutSucceeds config env world request := by
  constructor
  · rintro ⟨record, done⟩
    rcases putObject_cases config env world request with
      ⟨stored, err, added, refused⟩ | ⟨bucketRec, stored, prepared, admitted⟩
    · rw [refused] at done
      cases done
    · have outcome := admitted.put_outcome
      generalize putObject config env world request = result at outcome done
      cases outcome with
      | failed err why => cases done
      | committed info committed record inPlace commits stat formed put =>
        exact ⟨bucketRec, stored, prepared, admitted, inPlace, commits⟩
  · rintro ⟨bucketRec, stored, prepared, admitted, inPlace, commits⟩
    have outcome := admitted.put_outcome
    generalize putObject config env world request = result at outcome ⊢
    cases outcome with
    | failed err why => exact absurd ⟨inPlace, commits⟩ why
    | committed info committed record inPlace commits stat formed put =>
      exact ⟨record, rfl⟩

/-- What a put ends with, from its first check on. -/
inductive PutEnd (config : Config) (env : Env) (world : World)
    (request : PutRequest) : World × Except Err ObjectRecord → Prop where
  | refused (stored : Store) (err : Err)
      (added : KeyAdded world.store stored) :
      PutEnd config env world request
        ({ world with store := stored }, .error err)
  | failed (bucketRec : BucketRecord) (stored : Store)
      (prepared : Prepared) (err : Err)
      (admitted : Admitted config env world request bucketRec stored
        prepared)
      (added : KeyAdded world.store stored)
      (why : ¬ (InPlace config env { world with store := stored }
          (normalizeBucketKey world.store request.bucket) request
          prepared ∧
        Commits env (targetPath env { world with store := stored }
          (normalizeBucketKey world.store request.bucket) request))) :
      PutEnd config env world request
        (⟨stored, (written config env { world with store := stored }
          (normalizeBucketKey world.store request.bucket) request
          prepared).disk⟩, .error err)
  | committed (bucketRec : BucketRecord) (stored : Store)
      (prepared : Prepared) (info : ObjectInfo) (committed : Store)
      (record : ObjectRecord)
      (admitted : Admitted config env world request bucketRec stored
        prepared)
      (added : KeyAdded world.store stored)
      (inPlace : InPlace config env { world with store := stored }
        (normalizeBucketKey world.store request.bucket) request prepared)
      (formed : record = putRecord env stored bucketRec
        (normalizeBucketKey world.store request.bucket) request prepared
        (targetOf env { world with store := stored }
          (normalizeBucketKey world.store request.bucket)
          request).versionID
        ((written config env { world with store := stored }
          (normalizeBucketKey world.store request.bucket) request
          prepared).reply.toOption.getD "")
        (written config env { world with store := stored }
          (normalizeBucketKey world.store request.bucket) request
          prepared).extent info)
      (put : stored.putObject record
        (targetOf env { world with store := stored }
          (normalizeBucketKey world.store request.bucket)
          request).versioned = .ok committed) :
      PutEnd config env world request
        (⟨committed, (written config env { world with store := stored }
          (normalizeBucketKey world.store request.bucket) request
          prepared).disk⟩, .ok record)

theorem putObject_end
    (config : Config) (env : Env) (world : World) (request : PutRequest) :
    PutEnd config env world request
      (putObject config env world request) := by
  rcases putObject_cases config env world request with
    ⟨stored, err, added, refused⟩ | ⟨bucketRec, stored, prepared, admitted⟩
  · rw [refused]
    exact .refused stored err added
  · obtain ⟨added, _⟩ := admitted.outcome
    have outcome := admitted.put_outcome
    generalize putObject config env world request = result at outcome ⊢
    cases outcome with
    | failed err why =>
      exact .failed bucketRec stored prepared err admitted added why
    | committed info committed record inPlace commits stat formed put =>
      exact .committed bucketRec stored prepared info committed record
        admitted added inPlace formed put

/-! A new key does not change where a put writes. -/

section KeyAdded

variable {world : World} {stored : Store}
  (added : KeyAdded world.store stored) (env : Env) (bucket : String)
  (request : PutRequest)

include added

theorem KeyAdded.targetOf_eq :
    targetOf env { world with store := stored } bucket request =
      targetOf env world bucket request := by
  cases added <;> rfl

theorem KeyAdded.targetPath_eq :
    targetPath env { world with store := stored } bucket request =
      targetPath env world bucket request := by
  unfold targetPath
  rw [added.targetOf_eq]

theorem KeyAdded.targetDisk_eq :
    targetDisk env { world with store := stored } bucket request =
      targetDisk env world bucket request := by
  cases added <;> rfl

end KeyAdded

end DataSafe.S3
