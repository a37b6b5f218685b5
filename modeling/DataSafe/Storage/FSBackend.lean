import DataSafe.Base.FileTree
import DataSafe.Storage.Paths

/-!
# The file system backend

`FSBackend` keeps the bytes of objects in a directory tree.  A write goes to
a temporary sibling and is renamed into place.  Each call takes the faults
that its system calls meet: a faulty call fails with an input/output error
and changes nothing.

Reads are decided by the file at a path, so the frame lemmas say which files
a call may change.
-/

namespace DataSafe.Storage

open Base Metadata

/-- The contents of a file and its modification time. -/
structure Blob where
  data : Bytes
  modTime : Time
deriving DecidableEq

abbrev Disk := FileTree String Blob

/-- The system calls that can fail on their own account. -/
inductive Syscall where
  | mkdirAll
  | create
  | copy
  | close
  | rename
  | stat
  | openFile
  | remove
  | removeAll
deriving DecidableEq

/-- Which system calls on which paths fail. -/
abbrev Faults := Syscall → Path → Bool

def noFaults : Faults := fun _ _ => false

inductive BackendErr where
  | notFound
  | bucketExists
  | errno (errno : Errno)
  | body (err : ReadErr)
  | sizeMismatch (expected got : Int)
  | partSizeMismatch
deriving DecidableEq

/-- What reading a request body to its end delivers. -/
structure Body where
  data : Bytes
  ending : ReadErr
deriving DecidableEq

/-- How much of a body a call has read. -/
inductive Extent where
  | unread
  | partly
  | wholly
deriving DecidableEq

/-- The outcome of a write: the disk, the ETag, and what was read. -/
structure Written where
  disk : Disk
  reply : Except BackendErr String
  extent : Extent

structure ObjectInfo where
  size : Int
  etag : String
  lastModified : Time
deriving DecidableEq

/-- What the writing calls of one request draw on. -/
structure WriteEnv where
  md5 : Bytes → String
  faults : Faults
  random : String
  modTime : Time

def quoteETag (digest : String) : String := "\"" ++ digest ++ "\""

/-- The file at a path. -/
def fileAt (disk : Disk) (path : Path) : Option Blob :=
  match disk.find path with
  | some (.file blob) => some blob
  | _ => none

/-! ## Reading -/

/-- `statPath`: a directory is found but its contents cannot be hashed. -/
def statPath (md5 : Bytes → String) (faults : Faults) (disk : Disk)
    (path : Path) : Except BackendErr ObjectInfo :=
  if faults .stat path then .error (.errno .io)
  else
    match disk.stat path with
    | .error .notExist => .error .notFound
    | .error errno => .error (.errno errno)
    | .ok .directory => .error (.errno .isDir)
    | .ok (.file blob) =>
      if faults .openFile path then .error (.errno .io)
      else .ok ⟨blob.data.length, quoteETag (md5 blob.data), blob.modTime⟩

/-- `GetObjectVersion` of the backend, with the contents of the file. -/
def readPath (md5 : Bytes → String) (faults : Faults) (disk : Disk)
    (path : Path) : Except BackendErr Bytes := do
  let _ ← statPath md5 faults disk path
  match fileAt disk path with
  | none => .error .notFound
  | some blob => return blob.data

/-! ## Writing -/

/-- `os.Remove` of a temporary file, whose error is ignored. -/
def removeTemp (faults : Faults) (disk : Disk) (path : Path) : Disk :=
  if faults .remove path then disk
  else
    match disk.remove path with
    | .ok removed => removed
    | .error _ => disk

/-- Why a copied temporary file is given up, if it is. -/
def copyFailure (faults : Faults) (temp path : Path) (body : Body)
    (size : Int) (mismatch : BackendErr) : Option BackendErr :=
  if faults .copy temp then some (.errno .io)
  else if body.ending ≠ .eof then some (.body body.ending)
  else if faults .close temp then some (.errno .io)
  else if 0 ≤ size ∧ (body.data.length : Int) ≠ size then some mismatch
  else if faults .rename path then some (.errno .io)
  else none

/--
Write a body to a temporary sibling and rename it to `path`; the part of
`writeObjectFile` and `UploadPart` behind the directory.
-/
def writeTemp (env : WriteEnv) (disk : Disk) (path : Path) (body : Body)
    (size : Int) (mismatch : BackendErr) : Written :=
  let temp := tempSibling path env.random
  if env.faults .create temp then ⟨disk, .error (.errno .io), .unread⟩
  else
    match disk.create temp ⟨body.data, env.modTime⟩ with
    | .error errno => ⟨disk, .error (.errno errno), .unread⟩
    | .ok created =>
      match copyFailure env.faults temp path body size mismatch with
      | some err =>
        ⟨removeTemp env.faults created temp, .error err,
          if env.faults .copy temp then .partly else .wholly⟩
      | none =>
        match created.rename temp path with
        | .error errno =>
          ⟨removeTemp env.faults created temp, .error (.errno errno),
            .wholly⟩
        | .ok renamed =>
          ⟨renamed, .ok (quoteETag (env.md5 body.data)), .wholly⟩

/-- Create a directory and go on in it. -/
def inDirectory (faults : Faults) (disk : Disk) (directory : Path)
    (next : Disk → Written) : Written :=
  if faults .mkdirAll directory then
    ⟨disk, .error (.errno .io), .unread⟩
  else
    match disk.mkdirAll directory with
    | .error errno => ⟨disk, .error (.errno errno), .unread⟩
    | .ok created => next created

/-- Write a body to a file whose directory is created first. -/
def writeFile (env : WriteEnv) (disk : Disk) (path : Path) (body : Body)
    (size : Int) (mismatch : BackendErr) : Written :=
  inDirectory env.faults disk path.dropLast (fun created =>
    writeTemp env created path body size mismatch)

/-- `PutObject` and `PutObjectVersion`, which differ in the path alone. -/
def putPath (env : WriteEnv) (disk : Disk) (path : Path) (body : Body)
    (size : Int) : Written :=
  writeFile env disk path body size (.sizeMismatch size body.data.length)

/-! ## Removing -/

/-- `DeleteObjectVersion` of the backend. -/
def deletePath (faults : Faults) (disk : Disk) (path : Path) :
    Except BackendErr Disk :=
  if faults .remove path then .error (.errno .io)
  else
    match disk.remove path with
    | .ok removed => .ok removed
    | .error .notExist => .error .notFound
    | .error errno => .error (.errno errno)

/-- `os.RemoveAll`, whose error is ignored. -/
def removeAllQuietly (faults : Faults) (disk : Disk) (path : Path) : Disk :=
  if faults .removeAll path then disk
  else
    match disk.removeAll path with
    | .ok removed => removed
    | .error _ => disk

/-- `CreateBucket` of the backend. -/
def createBucket (faults : Faults) (disk : Disk) (bucket : String) :
    Except BackendErr Disk :=
  if disk.find (join ["buckets", bucket]) = some .directory then
    .error .bucketExists
  else if faults .mkdirAll (join ["buckets", bucket, "objects"]) then
    .error (.errno .io)
  else
    match disk.mkdirAll (join ["buckets", bucket, "objects"]) with
    | .ok created => .ok created
    | .error errno => .error (.errno errno)

/-! ## Which files a call changes -/

variable {disk created : Disk} {path other : Path} {faults : Faults}
  {written : Written} {etag : String}

theorem fileAt_eq_some_iff
    {blob : Blob} :
    fileAt disk path = some blob ↔ disk.find path = some (.file blob) := by
  unfold fileAt
  split <;> simp_all

theorem fileAt_congr
    {left right : Disk} (same : left.find path = right.find path) :
    fileAt left path = fileAt right path := by
  simp only [fileAt, same]

/-- Directories hide no file and add none. -/
theorem fileAt_mkdirAll
    {directory : Path}
    (done : disk.mkdirAll directory = .ok created) (other : Path) :
    fileAt created other = fileAt disk other := by
  unfold fileAt
  rw [FileTree.find_mkdirAll done]
  split_ifs
  · cases disk.find other with
    | none => rfl
    | some node => rfl
  · rfl

theorem fileAt_create_of_ne
    {blob : Blob}
    (done : disk.create path blob = .ok created) (apart : other ≠ path) :
    fileAt created other = fileAt disk other := by
  apply fileAt_congr
  rw [FileTree.find_create done, if_neg apart]

theorem fileAt_remove_of_ne
    {removed : Disk}
    (done : disk.remove path = .ok removed) (apart : other ≠ path) :
    fileAt removed other = fileAt disk other := by
  apply fileAt_congr
  rw [FileTree.find_remove done, if_neg]
  exact fun same => apart same.1

theorem fileAt_removeTemp_of_ne
    (faults : Faults) (disk : Disk) {temp : Path} (apart : other ≠ temp) :
    fileAt (removeTemp faults disk temp) other = fileAt disk other := by
  unfold removeTemp
  split_ifs
  · rfl
  · split
    · rename_i removed done
      exact fileAt_remove_of_ne done apart
    · rfl

theorem fileAt_deletePath_of_ne
    {removed : Disk} (done : deletePath faults disk path = .ok removed)
    (apart : other ≠ path) :
    fileAt removed other = fileAt disk other := by
  unfold deletePath at done
  split_ifs at done
  split at done
  · rename_i found
    cases done
    exact fileAt_remove_of_ne found apart
  · cases done
  · cases done

/-- A file in the way of a path has nothing below it. -/
theorem fileAt_below_blocked
    (inTheWay : disk.blocked path = true)
    (below : path <+: other) : fileAt disk other = none := by
  obtain ⟨front, above, distinct, blob, isFile⟩ :=
    (disk.blocked_iff path).mp inTheWay
  have apart : front ≠ other := by
    rintro rfl
    exact distinct (above.eq_of_length_le below.length_le)
  unfold fileAt
  rw [disk.find_below_file isFile (above.trans below) apart]

/-- Unless it meets a fault, the call removes what lies at or below. -/
theorem fileAt_removeAllQuietly
    (faults : Faults) (disk : Disk) (path other : Path) :
    fileAt (removeAllQuietly faults disk path) other =
      if faults .removeAll path = false ∧ path <+: other then none
      else fileAt disk other := by
  unfold removeAllQuietly
  by_cases faulty : faults .removeAll path = true
  · simp [faulty]
  · have quiet : faults .removeAll path = false := by simpa using faulty
    simp only [quiet, Bool.false_eq_true, if_false, true_and]
    cases done : disk.removeAll path with
    | error errno =>
      obtain ⟨_, inTheWay⟩ := (disk.removeAll_error_iff path errno).mp done
      split_ifs with below
      · exact fileAt_below_blocked inTheWay below
      · rfl
    | ok removed =>
      unfold fileAt
      rw [FileTree.find_removeAll done]
      by_cases atRoot : other = []
      · subst atRoot
        simp [FileTree.find_nil]
      · simp only [ne_eq, atRoot, not_false_eq_true, true_and]
        split_ifs <;> rfl

/-! ## What a write does -/

/-- The three ways in which a write through a temporary file ends. -/
inductive WriteOutcome (env : WriteEnv) (disk : Disk) (path : Path)
    (body : Body) (size : Int) (mismatch : BackendErr) : Written → Prop where
  | refused (err : BackendErr) :
      WriteOutcome env disk path body size mismatch
        ⟨disk, .error err, .unread⟩
  | gaveUp (created : Disk) (err : BackendErr) (extent : Extent)
      (opened : disk.create (tempSibling path env.random)
        ⟨body.data, env.modTime⟩ = .ok created) :
      WriteOutcome env disk path body size mismatch
        ⟨removeTemp env.faults created (tempSibling path env.random),
          .error err, extent⟩
  | stored (created renamed : Disk)
      (opened : disk.create (tempSibling path env.random)
        ⟨body.data, env.modTime⟩ = .ok created)
      (copied : copyFailure env.faults (tempSibling path env.random) path
        body size mismatch = none)
      (moved : created.rename (tempSibling path env.random) path =
        .ok renamed) :
      WriteOutcome env disk path body size mismatch
        ⟨renamed, .ok (quoteETag (env.md5 body.data)), .wholly⟩

section Write

variable (env : WriteEnv) (disk : Disk) (path : Path) (body : Body)
  (size : Int) (mismatch : BackendErr)

theorem writeTemp_outcome :
    WriteOutcome env disk path body size mismatch
      (writeTemp env disk path body size mismatch) := by
  unfold writeTemp
  by_cases faulty : env.faults .create (tempSibling path env.random) = true
  · simp only [faulty]
    exact .refused _
  · rw [if_neg faulty]
    cases opened : disk.create (tempSibling path env.random)
        ⟨body.data, env.modTime⟩ with
    | error errno => exact .refused _
    | ok created =>
      cases copied : copyFailure env.faults
          (tempSibling path env.random) path body size mismatch with
      | some err => exact .gaveUp created err _ opened
      | none =>
        cases moved : created.rename (tempSibling path env.random) path with
        | error errno =>
          simp only [moved]
          exact .gaveUp created _ _ opened
        | ok renamed =>
          simp only [moved]
          exact .stored created renamed opened copied moved

variable {env disk path body size mismatch}

section

variable (outcome : WriteOutcome env disk path body size mismatch written)

include outcome

/-- A write touches the path and its temporary sibling. -/
theorem WriteOutcome.fileAt_of_ne
    (apart : other ≠ path) (apartTemp : other ≠ tempSibling path env.random) :
    fileAt written.disk other = fileAt disk other := by
  cases outcome with
  | refused err => rfl
  | gaveUp created err extent opened =>
    exact (fileAt_removeTemp_of_ne _ _ apartTemp).trans
      (fileAt_create_of_ne opened apartTemp)
  | stored created renamed opened copied moved =>
    have temp : created.find (tempSibling path env.random) =
        some (.file ⟨body.data, env.modTime⟩) := by
      rw [FileTree.find_create opened, if_pos rfl]
    rw [← fileAt_create_of_ne opened apartTemp]
    apply fileAt_congr
    rw [FileTree.find_rename temp moved, if_neg apart, if_neg apartTemp]

/-- A write that fails leaves the path alone. -/
theorem WriteOutcome.fileAt_of_error
    {err : BackendErr} (failed : written.reply = .error err) :
    fileAt written.disk path = fileAt disk path := by
  have apart := (tempSibling_ne path env.random).symm
  cases outcome with
  | refused err => rfl
  | gaveUp created err extent opened =>
    exact (fileAt_removeTemp_of_ne _ _ apart).trans
      (fileAt_create_of_ne opened apart)
  | stored created renamed opened copied moved => cases failed

/-- A write that succeeds has put a complete body in place. -/
theorem WriteOutcome.fileAt_of_ok
    (done : written.reply = .ok etag) :
    fileAt written.disk path = some ⟨body.data, env.modTime⟩ ∧
      copyFailure env.faults (tempSibling path env.random) path body size
        mismatch = none ∧
      written.extent = .wholly ∧
      etag = quoteETag (env.md5 body.data) := by
  cases outcome with
  | refused err => cases done
  | gaveUp created err extent opened => cases done
  | stored created renamed opened copied moved =>
    cases done
    refine ⟨?_, copied, rfl, rfl⟩
    have temp : created.find (tempSibling path env.random) =
        some (.file ⟨body.data, env.modTime⟩) := by
      rw [FileTree.find_create opened, if_pos rfl]
    rw [fileAt_eq_some_iff, FileTree.find_rename temp moved, if_pos rfl]

end

/-- A write is refused at the directory, or goes on in it. -/
theorem writeFile_outcome
    (env : WriteEnv) (disk : Disk) (path : Path) (body : Body)
    (size : Int) (mismatch : BackendErr) :
    (∃ err, writeFile env disk path body size mismatch =
        ⟨disk, .error err, .unread⟩) ∨
      ∃ created, disk.mkdirAll path.dropLast = .ok created ∧
        WriteOutcome env created path body size mismatch
          (writeFile env disk path body size mismatch) := by
  unfold writeFile inDirectory
  split_ifs
  · exact .inl ⟨_, rfl⟩
  · split
    · exact .inl ⟨_, rfl⟩
    · rename_i created done
      exact .inr ⟨created, done, writeTemp_outcome _ _ _ _ _ _⟩

theorem fileAt_writeFile_of_ne
    (apart : other ≠ path) (apartTemp : other ≠ tempSibling path env.random) :
    fileAt (writeFile env disk path body size mismatch).disk other =
      fileAt disk other := by
  rcases writeFile_outcome env disk path body size mismatch with
    ⟨err, refused⟩ | ⟨created, made, outcome⟩
  · rw [refused]
  · rw [outcome.fileAt_of_ne apart apartTemp, fileAt_mkdirAll made]

theorem fileAt_writeFile_of_error
    {err : BackendErr}
    (failed : (writeFile env disk path body size mismatch).reply =
      .error err) :
    fileAt (writeFile env disk path body size mismatch).disk path =
      fileAt disk path := by
  rcases writeFile_outcome env disk path body size mismatch with
    ⟨err, refused⟩ | ⟨created, made, outcome⟩
  · rw [refused]
  · rw [outcome.fileAt_of_error failed, fileAt_mkdirAll made]

theorem fileAt_writeFile_of_ok
    (done : (writeFile env disk path body size mismatch).reply = .ok etag) :
    fileAt (writeFile env disk path body size mismatch).disk path =
        some ⟨body.data, env.modTime⟩ ∧
      copyFailure env.faults (tempSibling path env.random) path body size
        mismatch = none ∧
      (writeFile env disk path body size mismatch).extent = .wholly ∧
      etag = quoteETag (env.md5 body.data) := by
  rcases writeFile_outcome env disk path body size mismatch with
    ⟨err, refused⟩ | ⟨created, made, outcome⟩
  · rw [refused] at done
    cases done
  · exact outcome.fileAt_of_ok done

end Write

/-! ## When a write succeeds -/

/-- The body is complete and no fault meets the copy. -/
structure Copies (env : WriteEnv) (path : Path) (body : Body)
    (size : Int) : Prop where
  copied : env.faults .copy (tempSibling path env.random) = false
  complete : body.ending = .eof
  closed : env.faults .close (tempSibling path env.random) = false
  sized : 0 ≤ size → (body.data.length : Int) = size
  renamed : env.faults .rename path = false

/-- Nothing stands in the way of a file at the path. -/
structure Writable (env : WriteEnv) (disk : Disk) (path : Path) :
    Prop where
  proper : path ≠ []
  mayMake : env.faults .mkdirAll path.dropLast = false
  mayCreate : env.faults .create (tempSibling path env.random) = false
  unblocked : ∀ front, front <+: path.dropLast → fileAt disk front = none
  free : disk.find path ≠ some .directory
  tempFree : disk.find (tempSibling path env.random) ≠ some .directory

theorem copyFailure_eq_none_iff
    {env : WriteEnv} {body : Body} {size : Int} {mismatch : BackendErr} :
    copyFailure env.faults (tempSibling path env.random) path body size
        mismatch = none ↔ Copies env path body size := by
  unfold copyFailure
  constructor
  · intro passed
    split_ifs at passed with copy ending close sized rename
    exact ⟨by simpa using copy, by simpa using ending, by simpa using close,
      fun counted => by_contra (fun other => sized ⟨counted, other⟩),
      by simpa using rename⟩
  · rintro ⟨copied, complete, closed, sized, renamed⟩
    simpa [copied, complete, closed, renamed] using sized

section Succeeds

variable {env : WriteEnv} {disk : Disk} {path : Path} {body : Body}
  {size : Int} {mismatch : BackendErr}

/-- A path of proper length keeps what it names when its parent is made. -/
theorem find_mkdirAll_dropLast
    (proper : path ≠ []) (made : disk.mkdirAll path.dropLast = .ok created)
    (length : other.length = path.length) :
    created.find other = disk.find other := by
  rw [FileTree.find_mkdirAll made, if_neg]
  intro within
  have short := within.length_le
  have positive := List.length_pos_iff.mpr proper
  rw [List.length_dropLast] at short
  omega

theorem tempSibling_length (proper : path ≠ []) :
    (tempSibling path env.random).length = path.length := by
  have positive := List.length_pos_iff.mpr proper
  simp only [tempSibling, List.length_append, List.length_dropLast,
    List.length_singleton]
  omega

theorem dropLast_ne_tempSibling (path : Path) (random : String) :
    path.dropLast ≠ tempSibling path random := by
  intro equal
  have length := congrArg List.length equal
  simp [tempSibling] at length

/-- A write of a complete body succeeds where nothing stands in its way. -/
theorem writeFile_reply_ok
    (writable : Writable env disk path) (copies : Copies env path body size) :
    (writeFile env disk path body size mismatch).reply =
      .ok (quoteETag (env.md5 body.data)) := by
  obtain ⟨proper, mayMake, mayCreate, unblocked, free, tempFree⟩ := writable
  cases made : disk.mkdirAll path.dropLast with
  | error errno =>
    obtain ⟨_, front, below, blob, isFile⟩ :=
      (FileTree.mkdirAll_error_iff _ _ _).mp made
    have := unblocked front below
    rw [fileAt_eq_some_iff.mpr isFile] at this
    cases this
  | ok created =>
    have parent := FileTree.find_mkdirAll_self made
    obtain ⟨opened, create⟩ :=
      (FileTree.create_ok_iff created (tempSibling path env.random)
        ⟨body.data, env.modTime⟩).mpr
        ⟨by rw [tempSibling_dropLast]; exact parent, by
            rw [find_mkdirAll_dropLast proper made
              (tempSibling_length proper)]
            exact tempFree⟩
    have afterCreate := FileTree.find_create create
    have temp : opened.find (tempSibling path env.random) =
        some (.file ⟨body.data, env.modTime⟩) := by
      rw [afterCreate, if_pos rfl]
    have notParent := dropLast_ne_tempSibling path env.random
    obtain ⟨renamed, moved⟩ :=
      (FileTree.rename_ok_iff opened (tempSibling path env.random) path
        temp notParent).mpr
        ⟨by rw [afterCreate, if_neg notParent]; exact parent, by
            rw [afterCreate, if_neg (tempSibling_ne _ _).symm,
              find_mkdirAll_dropLast proper made rfl]
            exact free⟩
    unfold writeFile inDirectory writeTemp
    simp [mayMake, made, mayCreate, create,
      copyFailure_eq_none_iff.mpr copies, moved]

/-- A write succeeds only with a complete body and a free path. -/
theorem writable_of_reply_ok
    (done : (writeFile env disk path body size mismatch).reply = .ok etag) :
    Writable env disk path ∧ Copies env path body size := by
  have copies := copyFailure_eq_none_iff.mp (fileAt_writeFile_of_ok done).2.1
  refine ⟨?_, copies⟩
  rcases writeFile_outcome env disk path body size mismatch with
    ⟨err, refused⟩ | ⟨created, made, outcome⟩
  · rw [refused] at done
    cases done
  have mayMake : env.faults .mkdirAll path.dropLast = false := by
    by_contra faulty
    rw [Bool.not_eq_false] at faulty
    simp [writeFile, inDirectory, faulty] at done
  have mayCreate :
      env.faults .create (tempSibling path env.random) = false := by
    by_contra faulty
    rw [Bool.not_eq_false] at faulty
    simp [writeFile, inDirectory, mayMake, made, writeTemp, faulty] at done
  have unblocked : ∀ front, front <+: path.dropLast →
      fileAt disk front = none := by
    intro front below
    cases found : fileAt disk front with
    | none => rfl
    | some blob =>
      have blocked := (FileTree.mkdirAll_error_iff disk path.dropLast
        .notDir).mpr ⟨rfl, front, below, blob, fileAt_eq_some_iff.mp found⟩
      rw [made] at blocked
      cases blocked
  generalize writeFile env disk path body size mismatch = written
    at done outcome
  cases outcome with
  | refused err => cases done
  | gaveUp opened err extent create => cases done
  | stored opened renamed create copied moved =>
    have temp : opened.find (tempSibling path env.random) =
        some (.file ⟨body.data, env.modTime⟩) := by
      rw [FileTree.find_create create, if_pos rfl]
    have target := ((FileTree.rename_ok_iff opened _ path temp
      (dropLast_ne_tempSibling path env.random)).mp ⟨renamed, moved⟩).2
    have proper : path ≠ [] := by
      rintro rfl
      exact target (FileTree.find_nil _)
    have tempTarget :=
      ((FileTree.create_ok_iff _ _ _).mp ⟨opened, create⟩).2
    rw [FileTree.find_create create, if_neg (tempSibling_ne _ _).symm,
      find_mkdirAll_dropLast proper made rfl] at target
    rw [find_mkdirAll_dropLast proper made (tempSibling_length proper)]
      at tempTarget
    exact ⟨proper, mayMake, mayCreate, unblocked, target, tempTarget⟩

theorem writeFile_ok_iff :
    (∃ etag, (writeFile env disk path body size mismatch).reply = .ok etag) ↔
      Writable env disk path ∧ Copies env path body size :=
  ⟨fun ⟨_, done⟩ => writable_of_reply_ok done,
    fun ⟨writable, copies⟩ => ⟨_, writeFile_reply_ok writable copies⟩⟩

end Succeeds

/-! ## What a read sees -/

theorem statPath_ok_iff
    {md5 : Bytes → String} {info : ObjectInfo} :
    statPath md5 faults disk path = .ok info ↔
      faults .stat path = false ∧ faults .openFile path = false ∧
        ∃ blob, fileAt disk path = some blob ∧
          info = ⟨blob.data.length, quoteETag (md5 blob.data),
            blob.modTime⟩ := by
  unfold statPath fileAt FileTree.stat
  cases faults .stat path with
  | true => simp
  | false =>
    cases disk.find path with
    | none => cases disk.missing path <;> simp
    | some node =>
      cases node with
      | directory => simp
      | file blob => cases faults .openFile path <;> simp [eq_comm]

/-- A read returns the file at the path unless it meets a fault. -/
theorem readPath_ok_iff
    {md5 : Bytes → String} {data : Bytes} :
    readPath md5 faults disk path = .ok data ↔
      faults .stat path = false ∧ faults .openFile path = false ∧
        ∃ blob, fileAt disk path = some blob ∧ data = blob.data := by
  unfold readPath
  cases stat : statPath md5 faults disk path with
  | error err =>
    constructor
    · intro done
      cases done
    · rintro ⟨mayStat, mayOpen, blob, found, _⟩
      rw [statPath_ok_iff.mpr ⟨mayStat, mayOpen, blob, found, rfl⟩] at stat
      cases stat
  | ok info =>
    obtain ⟨mayStat, mayOpen, blob, found, _⟩ := statPath_ok_iff.mp stat
    simp [bind, Except.bind, pure, Except.pure, mayStat, mayOpen, found,
      eq_comm]

end DataSafe.Storage
