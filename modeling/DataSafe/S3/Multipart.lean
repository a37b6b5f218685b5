import DataSafe.S3.Objects

/-!
# Multipart uploads

An upload collects parts in a directory of its own.  Completing it either
concatenates the part files at the path of the key, or, for a sealed upload,
decrypts the parts one after the other into a put.
-/

namespace DataSafe.S3

open Base Kms Metadata Storage

/-- The file of one part. -/
def partPath (bucket key uploadID : String) (number : Nat) : Path :=
  multipartDir bucket key uploadID ++ [partName number]

/-! ## Creating an upload and its parts -/

def createMultipartUpload (config : Config) (env : Env) (world : World)
    (bucket key contentType : String) (metadata : List (String × String)) :
    World × Except Err String :=
  let bucket := normalizeBucketKey world.store bucket
  match world.store.getBucketByKey bucket with
  | none => (world, .error (.store .notFound))
  | some bucketRec =>
    match prepareObjectEncryption config env world.store bucketRec
        (Source.ofBytes []) with
    | (store, .error err) => ({ world with store := store }, .error err)
    | (store, .ok prepared) =>
      let uploadID := hexEncode env.uploadID.bytes
      let directory := multipartDir bucket key uploadID
      if env.faults .parts .mkdirAll directory then
        ({ world with store := store }, .error (.backend (.errno .io)))
      else
        match world.disk.mkdirAll directory with
        | .error errno =>
          ({ world with store := store }, .error (.backend (.errno errno)))
        | .ok disk =>
          let record : MultipartRecord :=
            { uploadID := uploadID
              bucket := bucket
              key := key
              initiated := env.now
              contentType := contentType
              metadata := metadata
              encryption := some prepared.encryption }
          match env.transact .putMultipart
              (.ok (store.putMultipart record)) with
          | .error err => (⟨store, disk⟩, .error err)
          | .ok stored => (⟨stored, disk⟩, .ok uploadID)

/-- The upload that a request names, if it is for this key. -/
def findUpload (store : Store) (bucket key uploadID : String) :
    Except Err MultipartRecord :=
  match store.getMultipart uploadID with
  | none => .error (.store .notFound)
  | some upload =>
    if upload.bucket ≠ bucket ∨ upload.key ≠ key then
      .error (.store .notFound)
    else .ok upload

theorem findUpload_ok
    {store : Store} {bucket key uploadID : String} {upload : MultipartRecord}
    (found : findUpload store bucket key uploadID = .ok upload) :
    store.getMultipart uploadID = some upload ∧ upload.bucket = bucket ∧
      upload.key = key := by
  unfold findUpload at found
  split at found
  · cases found
  · rename_i other present
    split_ifs at found with mismatch
    cases found
    rw [not_or, not_not, not_not] at mismatch
    exact ⟨present, mismatch.1, mismatch.2⟩

/-- The format-1 marker of an upload. -/
def sealedUpload (upload : MultipartRecord) : Option ObjectEncryption :=
  upload.encryption.filter isFormat1

/-- The body of a part as the backend stores it, with its size to check. -/
def partBody (config : Config) (env : Env) (store : Store)
    (upload : MultipartRecord) (source : Source) (size : Int) :
    Except Err (Body × Int) :=
  match sealedUpload upload with
  | none => .ok (rawBody source, size)
  | some encryption => do
    let dek ← unwrapDEK config env store encryption
    let body ← sealBody config env dek source
    return (body, -1)

def uploadPart (config : Config) (env : Env) (world : World)
    (bucket key uploadID : String) (number : Nat) (source : Source)
    (size : Int) : World × Except Err String :=
  let bucket := normalizeBucketKey world.store bucket
  match findUpload world.store bucket key uploadID with
  | .error err => (world, .error err)
  | .ok upload =>
    match partBody config env world.store upload source size with
    | .error err => (world, .error err)
    | .ok (body, size) =>
      let written := writeFile (env.write config .parts) world.disk
        (partPath bucket key uploadID number) body size
        .partSizeMismatch
      match written.reply with
      | .error err =>
        ({ world with disk := written.disk }, .error (.backend err))
      | .ok etag => ({ world with disk := written.disk }, .ok etag)

/-! ## Completing a plain upload -/

/-- What reading the part files in order delivers. -/
def partsBody (faults : Faults) (disk : Disk)
    (bucket key uploadID : String) : List Nat → Body
  | [] => ⟨[], .eof⟩
  | number :: later =>
    let path := partPath bucket key uploadID number
    if faults .openFile path then ⟨[], .other "open part"⟩
    else
      match fileAt disk path with
      | none => ⟨[], .other "open part"⟩
      | some blob =>
        let rest := partsBody faults disk bucket key uploadID later
        ⟨blob.data ++ rest.data, rest.ending⟩

/-- `FSBackend.CompleteMultipartUpload`: the parts go once it succeeds. -/
def concatParts (env : WriteEnv) (disk : Disk)
    (bucket key uploadID : String) (parts : List Nat) : Written :=
  let dest := objectPath bucket key
  -- Making the directory of the key does not change what the parts hold.
  let written := writeFile env disk dest
    (partsBody env.faults disk bucket key uploadID parts) (-1)
    .partSizeMismatch
  match written.reply with
  | .error _ => written
  | .ok _ =>
    { written with
      disk := removeAllQuietly env.faults written.disk
        (multipartDir bucket key uploadID) }

/--
A version lives below the path of its key, so the completed file is read,
deleted and written again as a version.
-/
def moveAside (config : Config) (env : Env) (disk : Disk)
    (bucket key : String) (versionID : VersionID) (size : Int) :
    Disk × Except Err Unit :=
  let flat := objectPath bucket key
  match readPath config.md5 (env.faults .aside) disk flat with
  | .error err => (disk, .error (.backend err))
  | .ok data =>
    if env.faults .aside .copy flat then
      (disk, .error (.backend (.errno .io)))
    else
      match deletePath (env.faults .aside) disk flat with
      | .error .notFound => again disk data
      | .error err => (disk, .error (.backend err))
      | .ok deleted => again deleted data
where
  /-- The copy is written as a version. -/
  again (disk : Disk) (data : Bytes) : Disk × Except Err Unit :=
    let written := putPath (env.write config .write) disk
      (dataPath bucket key versionID) ⟨data, .eof⟩ size
    match written.reply with
    | .error err => (written.disk, .error (.backend err))
    | .ok _ => (written.disk, .ok ())

/-- The record of a completed plain upload. -/
def completedRecord (env : Env) (upload : MultipartRecord)
    (bucket key etag : String) (size : Int) (versionID : VersionID) :
    ObjectRecord where
  bucket := bucket
  key := key
  size := size
  etag := etag
  contentType := upload.contentType
  versionID := versionID
  lastModified := env.now
  metadata := upload.metadata

/-- Delete the row of an upload and ignore the error. -/
def forgetUpload (env : Env) (store : Store) (uploadID : String) : Store :=
  match env.transact .deleteMultipart (store.deleteMultipart uploadID) with
  | .ok forgotten => forgotten
  | .error _ => store

theorem forgetUpload_same
    (env : Env) (store : Store) (uploadID : String) :
    (forgetUpload env store uploadID).objects = store.objects ∧
      (forgetUpload env store uploadID).latest = store.latest ∧
      (forgetUpload env store uploadID).buckets = store.buckets ∧
      (forgetUpload env store uploadID).kmsKeys = store.kmsKeys := by
  unfold forgetUpload
  split
  · rename_i forgotten done
    have deleted := (Env.transact_eq_ok_iff.mp done).2
    unfold Store.deleteMultipart at deleted
    split_ifs at deleted
    cases deleted
    exact ⟨rfl, rfl, rfl, rfl⟩
  · exact ⟨rfl, rfl, rfl, rfl⟩

/-- The disk on which a completed upload is committed. -/
def settleParts (config : Config) (env : Env) (disk : Disk)
    (bucket key : String) (size : Int) :
    (versioned : Bool) → Disk × Except Err Unit
  | true =>
    moveAside config env disk bucket key (newVersionID env.versionID) size
  | false => (disk, .ok ())

/-- The part of `completeMultipart` behind the quota. -/
def commitCompleted (config : Config) (env : Env) (world : World)
    (bucketRec : BucketRecord) (upload : MultipartRecord)
    (bucket key uploadID etag : String) (size : Int) :
    World × Except Err ObjectRecord :=
  let versioned := BucketVersioned bucketRec
  match settleParts config env world.disk bucket key size versioned with
  | (disk, .error err) => ({ world with disk := disk }, .error err)
  | (disk, .ok ()) =>
    let record := completedRecord env upload bucket key etag size
      (if versioned then newVersionID env.versionID else .null)
    match env.transact .putObject
        (world.store.putObject record versioned) with
    | .error err => ({ world with disk := disk }, .error err)
    | .ok store => (⟨forgetUpload env store uploadID, disk⟩, .ok record)

/-- The part of `completeMultipart` for an upload that is not sealed. -/
def completePlain (config : Config) (env : Env) (world : World)
    (upload : MultipartRecord) (bucket key uploadID : String)
    (parts : List Nat) : World × Except Err ObjectRecord :=
  let written := concatParts (env.write config .complete) world.disk bucket
    key uploadID parts
  let wrote : World := { world with disk := written.disk }
  match written.reply with
  | .error err => (wrote, .error (.backend err))
  | .ok etag =>
    match statPath config.md5 (env.faults .stat) wrote.disk
        (objectPath bucket key) with
    | .error err => (wrote, .error (.backend err))
    | .ok info =>
      match wrote.store.getBucketByKey bucket with
      | none => (wrote, .error (.store .notFound))
      | some bucketRec =>
        match checkQuota wrote.store bucketRec bucket key info.size with
        | .error err => (wrote, .error err)
        | .ok () =>
          commitCompleted config env wrote bucketRec upload bucket
            key uploadID etag info.size

/-! ## Completing a sealed upload -/

/--
`partSequence` over decrypted parts.  An error that opening a part reports
is passed on, and an end of file among them ends the whole sequence.
-/
def partSequence (config : Config) (faults : Faults) (disk : Disk)
    (dek : Bytes) (bucket key uploadID : String) : List Nat → Body
  | [] => ⟨[], .eof⟩
  | number :: later =>
    let path := partPath bucket key uploadID number
    if faults .openFile path then ⟨[], .other "open part"⟩
    else
      match fileAt disk path with
      | none => ⟨[], .other "open part"⟩
      | some blob =>
        match decryptReader config.aead dek (Source.ofBytes blob.data) with
        | .error err => ⟨[], err⟩
        | .ok reader =>
          let (data, ending) := reader.readAll
          if ending ≠ .eof then ⟨data, ending⟩
          else
            let rest := partSequence config faults disk dek bucket
              key uploadID later
            ⟨data ++ rest.data, rest.ending⟩

/-- The put that completes a sealed upload. -/
def completeRequest (config : Config) (env : Env) (disk : Disk)
    (upload : MultipartRecord) (dek : Bytes)
    (bucket key uploadID : String) (parts : List Nat) : PutRequest :=
  let sequence := partSequence config (env.faults .complete) disk dek bucket
    key uploadID parts
  { bucket := bucket
    key := key
    source := ⟨[sequence.data], sequence.ending, false⟩
    size := -1
    contentType := upload.contentType
    metadata := upload.metadata }

/-- The put seals the object with the data key of the upload. -/
def Env.force (env : Env) (marker : Option ObjectEncryption) : Env :=
  { env with spec := { env.spec with forced := marker } }

/-- `completeEncryptedMultipart`: the parts go whether the put succeeds. -/
def completeEncrypted (config : Config) (env : Env) (world : World)
    (upload : MultipartRecord) (encryption : ObjectEncryption)
    (bucket key uploadID : String) (parts : List Nat) :
    World × Except Err ObjectRecord :=
  match unwrapDEK config env world.store encryption with
  | .error err => (world, .error err)
  | .ok dek =>
    let (put, result) := putObject config (env.force upload.encryption)
      world (completeRequest config env world.disk upload dek bucket key
        uploadID parts)
    let disk := removeAllQuietly (env.faults .abort) put.disk
      (multipartDir bucket key uploadID)
    match result with
    | .error err => (⟨put.store, disk⟩, .error err)
    | .ok record =>
      (⟨forgetUpload env put.store uploadID, disk⟩, .ok record)

/-- `completeMultipart` -/
def completeMultipart (config : Config) (env : Env) (world : World)
    (bucket key uploadID : String) (parts : List Nat) :
    World × Except Err ObjectRecord :=
  let bucket := normalizeBucketKey world.store bucket
  match findUpload world.store bucket key uploadID with
  | .error err => (world, .error err)
  | .ok upload =>
    match sealedUpload upload with
    | some encryption =>
      completeEncrypted config env world upload encryption bucket key
        uploadID parts
    | none =>
      completePlain config env world upload bucket key uploadID parts

/-- `AbortMultipartUpload` -/
def abortMultipartUpload (env : Env) (world : World)
    (bucket key uploadID : String) : World × Except Err Unit :=
  let bucket := normalizeBucketKey world.store bucket
  match findUpload world.store bucket key uploadID with
  | .error err => (world, .error err)
  | .ok _ =>
    let directory := multipartDir bucket key uploadID
    if env.faults .abort .removeAll directory then
      (world, .error (.backend (.errno .io)))
    else
      match world.disk.removeAll directory with
      | .error errno => (world, .error (.backend (.errno errno)))
      | .ok disk =>
        match env.transact .deleteMultipart
            (world.store.deleteMultipart uploadID) with
        | .error err => ({ world with disk := disk }, .error err)
        | .ok store => (⟨store, disk⟩, .ok ())

end DataSafe.S3
