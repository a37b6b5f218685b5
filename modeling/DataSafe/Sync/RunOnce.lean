import DataSafe.Base.Pointwise
import DataSafe.Base.Text
import DataSafe.Metadata.Records
import Mathlib.Data.List.DropRight

/-!
# One run of the synchronisation

A run lists the bucket and the folder, uploads, downloads and deletes, path by
path.  The listings are made before the transfers; the record of synchronised
files is kept up during them.  The order in which a run visits the paths is
arbitrary.  Paths are relative to the folder and to the prefix of the bucket;
no call fails.
-/

namespace DataSafe.Sync

open Base Metadata

/-! ## Files and records -/

structure LocalFile where
  content : Bytes
  modTime : Time
deriving DecidableEq

/-- `ObjectItem` with the bytes behind it -/
structure RemoteObject where
  content : Bytes
  etag : String
  lastModified : Time
deriving DecidableEq

structure FileState where
  etag : String
  size : Nat
  modified : Time
  lastSyncedAt : Time
deriving DecidableEq

/-- The zero value of `time.Time`. -/
def zeroTime : Time := -62135596800000000000

/-- The record of a path that has none. -/
def FileState.unknown : FileState := ⟨"", 0, zeroTime, zeroTime⟩

inductive ConflictPolicy where
  | lastWriteWins
  | localWins
  | remoteWins
  | keepBoth
deriving DecidableEq

structure Options where
  pull : Bool
  push : Bool
  deleteSync : Bool
  conflictPolicy : ConflictPolicy

/-- What a run finds around it. -/
structure Env where
  /-- SHA-256 in hexadecimal. -/
  fileHash : Bytes → String
  /-- The ETag that the server gives to an upload. -/
  etagOf : Bytes → String
  /-- When the server writes an upload. -/
  uploadedAt : String → Time
  /-- When an upload is recorded. -/
  pushedAt : String → Time
  /-- When a download is recorded. -/
  pulledAt : String → Time
  /-- The name of the backup of a path. -/
  backupName : String → Time → String

/-- `strings.Trim` with quotes -/
def trimQuotes (text : String) : String :=
  String.ofList
    (((text.toList.dropWhile (· = '"')).reverse.dropWhile (· = '"')).reverse)

/-! ## Decisions -/

/-- `isConflict` -/
def isConflict (localHash : String) (localMod : Time)
    (remote : RemoteObject) (prev : FileState) : Bool :=
  if localHash = trimQuotes remote.etag then false
  else if prev.etag = "" ∧ prev.lastSyncedAt = zeroTime then false
  else
    (decide (prev.etag ≠ localHash) || decide (prev.lastSyncedAt < localMod)) &&
      (decide (prev.etag ≠ trimQuotes remote.etag) ||
        decide (prev.lastSyncedAt < remote.lastModified))

/-- `pickWinner` -/
def pickWinner (policy : ConflictPolicy) (localMod remoteMod : Time) :
    ConflictPolicy :=
  if policy ≠ .lastWriteWins then policy
  else if remoteMod < localMod then .localWins
  else .remoteWins

inductive Decision where
  | skip
  | transfer
  | keepBoth
deriving DecidableEq

/-- What the push loop does with a file. -/
def pushDecision (policy : ConflictPolicy) (localHash : String)
    (localMod : Time) (remote : Option RemoteObject) (prev : FileState) :
    Decision :=
  match remote with
  | none => .transfer
  | some remote =>
    if localHash = trimQuotes remote.etag then .skip
    else if isConflict localHash localMod remote prev then
      match pickWinner policy localMod remote.lastModified with
      | .remoteWins => .skip
      | .keepBoth => .keepBoth
      | _ => .transfer
    else if localMod < remote.lastModified ∧
        prev.etag = trimQuotes remote.etag then .skip
    else .transfer

/-- What the pull loop does with an object. -/
def pullDecision (policy : ConflictPolicy) (fileHash : Bytes → String)
    (file : Option LocalFile) (remote : RemoteObject) (prev : FileState) :
    Decision :=
  match file with
  | none => .transfer
  | some file =>
    if fileHash file.content = trimQuotes remote.etag then .skip
    else if isConflict (fileHash file.content) file.modTime remote prev then
      match pickWinner policy file.modTime remote.lastModified with
      | .localWins => .skip
      | .keepBoth => .keepBoth
      | _ => .transfer
    else if remote.lastModified < file.modTime ∧ prev.etag ≠ "" then .skip
    else .transfer

/-! ## The loops -/

inductive Event where
  | uploaded
  | downloaded
  | conflict
  | deletedRemote
  | deletedLocal
deriving DecidableEq

/-- Both sides, the record, and what the run has done so far. -/
structure Progress where
  folder : String → Option LocalFile
  bucket : String → Option RemoteObject
  files : String → Option FileState
  events : List (String × Event)

def conflictsDirName : String := ".datasafe-conflicts"

/-- The path is left out of the listing of the folder. -/
def hidden (rel : String) : Bool := startsWith (conflictsDirName ++ "/") rel

/-- `localFiles` -/
def localFiles (options : Options) (start : Progress) (rel : String) :
    Option LocalFile :=
  if (options.push || options.deleteSync) && !hidden rel then start.folder rel
  else none

/-- `prev` -/
def Progress.prev (progress : Progress) (rel : String) : FileState :=
  (progress.files rel).getD .unknown

/-- `saveRemoteConflictCopy` -/
def Progress.backup (env : Env) (progress : Progress) (rel : String)
    (remote : RemoteObject) : Progress :=
  { progress with
    folder := Function.update progress.folder
      (conflictsDirName ++ "/" ++ env.backupName rel remote.lastModified)
      (some ⟨((progress.bucket rel).map RemoteObject.content).getD [],
        env.pulledAt rel⟩)
    events := progress.events ++ [(rel, .conflict)] }

def Progress.upload (env : Env) (progress : Progress) (rel : String)
    (file : LocalFile) : Progress :=
  { progress with
    bucket := Function.update progress.bucket rel
      (some ⟨file.content, env.etagOf file.content, env.uploadedAt rel⟩)
    files := Function.update progress.files rel
      (some ⟨env.fileHash file.content, file.content.length, file.modTime,
        env.pushedAt rel⟩)
    events := progress.events ++ [(rel, .uploaded)] }

/-- One round of the push loop. -/
def pushFile (options : Options) (env : Env) (start progress : Progress)
    (rel : String) : Progress :=
  match localFiles options start rel with
  | none => progress
  | some file =>
    match pushDecision options.conflictPolicy (env.fileHash file.content)
        file.modTime (start.bucket rel) (progress.prev rel),
        start.bucket rel with
    | .skip, _ => progress
    | .keepBoth, some remote =>
      -- The remote side is set aside, and the upload follows.
      (progress.backup env rel remote).upload env rel file
    | _, _ => progress.upload env rel file

def Progress.download (env : Env) (progress : Progress) (rel : String)
    (remote : RemoteObject) (data : Bytes) : Progress :=
  { progress with
    folder := Function.update progress.folder rel
      (some ⟨data, remote.lastModified⟩)
    files := Function.update progress.files rel
      (some ⟨env.fileHash data, data.length, remote.lastModified,
        env.pulledAt rel⟩)
    events := progress.events ++ [(rel, .downloaded)] }

/-- One round of the pull loop. -/
def pullFile (options : Options) (env : Env) (start progress : Progress)
    (rel : String) : Progress :=
  match start.bucket rel with
  | none => progress
  | some remote =>
    match pullDecision options.conflictPolicy env.fileHash
        (progress.folder rel) remote (progress.prev rel) with
    | .skip => progress
    | .keepBoth => progress.backup env rel remote
    | .transfer =>
      match progress.bucket rel with
      | none => progress
      | some current => progress.download env rel remote current.content

def Progress.deleteRemote (progress : Progress) (rel : String) : Progress :=
  { progress with
    bucket := Function.update progress.bucket rel none
    files := Function.update progress.files rel none
    events := progress.events ++ [(rel, .deletedRemote)] }

def Progress.deleteLocal (progress : Progress) (rel : String) : Progress :=
  { progress with
    folder := Function.update progress.folder rel none
    files := Function.update progress.files rel none
    events := progress.events ++ [(rel, .deletedLocal)] }

def Progress.forget (progress : Progress) (rel : String) : Progress :=
  { progress with files := Function.update progress.files rel none }

/-- One round of the delete loop. -/
def deleteFile (options : Options) (start progress : Progress)
    (rel : String) : Progress :=
  match localFiles options start rel, start.bucket rel with
  | none, some _ =>
    if options.push then progress.deleteRemote rel else progress
  | some _, none =>
    if options.pull then progress.deleteLocal rel else progress
  | none, none => progress.forget rel
  | some _, some _ => progress

/-- The orders in which the loops visit the paths. -/
structure Orders where
  push : List String
  pull : List String
  delete : List String

def pushed (options : Options) (env : Env) (orders : Orders)
    (start : Progress) : Progress :=
  if options.push then orders.push.foldl (pushFile options env start) start
  else start

def pulled (options : Options) (env : Env) (orders : Orders)
    (start : Progress) : Progress :=
  if options.pull then
    orders.pull.foldl (pullFile options env start)
      (pushed options env orders start)
  else pushed options env orders start

/-- `RunOnce` -/
def runOnce (options : Options) (env : Env) (orders : Orders)
    (start : Progress) : Progress :=
  if options.deleteSync then
    orders.delete.foldl (deleteFile options start)
      (pulled options env orders start)
  else pulled options env orders start

/-- The loops visit every path of their maps once. -/
structure Orders.Enumerate (orders : Orders) (options : Options) (env : Env)
    (start : Progress) : Prop where
  push : orders.push.Nodup ∧ ∀ rel,
    rel ∈ orders.push ↔ (localFiles options start rel).isSome = true
  pull : orders.pull.Nodup ∧ ∀ rel,
    rel ∈ orders.pull ↔ (start.bucket rel).isSome = true
  delete : orders.delete.Nodup ∧ ∀ rel, rel ∈ orders.delete ↔
    ((pulled options env orders start).files rel).isSome = true

/-! ## One path -/

/-- What is seen of a path that the listing of the folder shows. -/
structure PathState where
  file : Option LocalFile
  object : Option RemoteObject
  saved : Option FileState
  events : List Event
deriving DecidableEq

def Progress.at (progress : Progress) (rel : String) : PathState where
  file := if hidden rel then none else progress.folder rel
  object := progress.bucket rel
  saved := progress.files rel
  events := (progress.events.filter (fun event => event.1 = rel)).map Prod.snd

def PathState.prev (path : PathState) : FileState :=
  path.saved.getD .unknown

def PathState.upload (env : Env) (rel : String) (path : PathState)
    (file : LocalFile) : PathState :=
  { path with
    object := some
      ⟨file.content, env.etagOf file.content, env.uploadedAt rel⟩
    saved := some ⟨env.fileHash file.content, file.content.length,
      file.modTime, env.pushedAt rel⟩
    events := path.events ++ [.uploaded] }

def PathState.noteConflict (path : PathState) : PathState :=
  { path with events := path.events ++ [.conflict] }

def PathState.download (env : Env) (rel : String) (path : PathState)
    (remote : RemoteObject) (data : Bytes) : PathState :=
  { path with
    file := some ⟨data, remote.lastModified⟩
    saved := some ⟨env.fileHash data, data.length, remote.lastModified,
      env.pulledAt rel⟩
    events := path.events ++ [.downloaded] }

/-- The push loop at a path, with the file and object that were listed. -/
def PathState.pushed (options : Options) (env : Env) (rel : String)
    (file : Option LocalFile) (listed : Option RemoteObject)
    (path : PathState) : PathState :=
  match file with
  | none => path
  | some file =>
    match pushDecision options.conflictPolicy (env.fileHash file.content)
        file.modTime listed path.prev with
    | .skip => path
    | .keepBoth => path.noteConflict.upload env rel file
    | .transfer => path.upload env rel file

/-- The pull loop at a path, with the object that was listed. -/
def PathState.pulled (options : Options) (env : Env) (rel : String)
    (listed : Option RemoteObject) (path : PathState) : PathState :=
  match listed with
  | none => path
  | some remote =>
    match pullDecision options.conflictPolicy env.fileHash path.file remote
        path.prev with
    | .skip => path
    | .keepBoth => path.noteConflict
    | .transfer =>
      match path.object with
      | none => path
      | some current => path.download env rel remote current.content

/-- The delete loop at a path, with the file and object that were listed. -/
def PathState.deleted (options : Options) (file : Option LocalFile)
    (listed : Option RemoteObject) (path : PathState) : PathState :=
  match file, listed with
  | none, some _ =>
    if options.push then
      { path with
        object := none
        saved := none
        events := path.events ++ [.deletedRemote] }
    else path
  | some _, none =>
    if options.pull then
      { path with
        file := none
        saved := none
        events := path.events ++ [.deletedLocal] }
    else path
  | none, none => { path with saved := none }
  | some _, some _ => path

/-- A run at one path. -/
def PathState.run (options : Options) (env : Env) (rel : String)
    (path : PathState) : PathState :=
  let pushed :=
    if options.push then path.pushed options env rel path.file path.object
    else path
  let pulled :=
    if options.pull then pushed.pulled options env rel path.object else pushed
  if options.deleteSync ∧ pulled.saved.isSome then
    pulled.deleted options path.file path.object
  else pulled

/-! ## A run acts on each path by itself -/

section Paths

variable {options : Options} {env : Env} {progress start : Progress}
  {rel other : String}

variable (file : LocalFile) (remote : RemoteObject) (data : Bytes)

theorem Progress.at_upload :
    (progress.upload env rel file).at rel =
      (progress.at rel).upload env rel file := by
  simp [Progress.at, Progress.upload, PathState.upload]

theorem Progress.at_upload_of_ne (apart : rel ≠ other) :
    (progress.upload env rel file).at other = progress.at other := by
  simp [Progress.at, Progress.upload, apart, Ne.symm apart]

/-- Backups go where the listing of the folder does not look. -/
theorem hidden_backup (name : String) :
    hidden (conflictsDirName ++ "/" ++ name) = true := by
  simp [hidden, startsWith]

theorem file_backup (env : Env) (progress : Progress)
    (rel other : String) (remote : RemoteObject) :
    ((progress.backup env rel remote).at other).file =
      (progress.at other).file := by
  change (if hidden other then none
    else (progress.backup env rel remote).folder other) = if hidden other
      then none else progress.folder other
  by_cases backup : other = conflictsDirName ++ "/" ++
      env.backupName rel remote.lastModified
  · rw [backup, hidden_backup]
    rfl
  · simp [Progress.backup, Function.update_of_ne backup]

theorem Progress.at_backup :
    (progress.backup env rel remote).at rel =
      (progress.at rel).noteConflict := by
  have file := file_backup env progress rel rel remote
  simp_all [Progress.at, Progress.backup, PathState.noteConflict]

theorem Progress.at_backup_of_ne
    (apart : rel ≠ other) :
    (progress.backup env rel remote).at other = progress.at other := by
  have file := file_backup env progress rel other remote
  simp_all [Progress.at, Progress.backup]

theorem Progress.at_download
    (shown : hidden rel = false) :
    (progress.download env rel remote data).at rel =
      (progress.at rel).download env rel remote data := by
  simp [Progress.at, Progress.download, PathState.download, shown]

theorem Progress.at_download_of_ne
    (apart : rel ≠ other) :
    (progress.download env rel remote data).at other = progress.at other := by
  simp [Progress.at, Progress.download, apart, Ne.symm apart]

/-- The listing of the folder as a push or a deletion sees it. -/
theorem localFiles_eq (listed : (options.push || options.deleteSync) = true) :
    localFiles options start rel = (start.at rel).file := by
  cases shown : hidden rel <;>
    simp [localFiles, Progress.at, listed, shown]

theorem pushFile_of_ne (apart : other ≠ rel) :
    (pushFile options env start progress other).at rel = progress.at rel := by
  unfold pushFile
  split
  · rfl
  · split
    · rfl
    · rw [Progress.at_upload_of_ne _ apart, Progress.at_backup_of_ne _ apart]
    · exact Progress.at_upload_of_ne _ apart

theorem pushFile_own (push : options.push = true) :
    (pushFile options env start progress rel).at rel =
      (progress.at rel).pushed options env rel (start.at rel).file
        (start.at rel).object := by
  have listed : localFiles options start rel = (start.at rel).file :=
    localFiles_eq (by simp [push])
  unfold pushFile PathState.pushed
  rw [listed]
  cases (start.at rel).file with
  | none => rfl
  | some file =>
    have prev : progress.prev rel = (progress.at rel).prev := rfl
    have object : (start.at rel).object = start.bucket rel := rfl
    rw [prev, object]
    dsimp only
    cases decided : pushDecision options.conflictPolicy
        (env.fileHash file.content) file.modTime (start.bucket rel)
        (progress.at rel).prev with
    | skip => rfl
    | transfer => exact Progress.at_upload file
    | keepBoth =>
      cases remote : start.bucket rel with
      | none =>
        rw [remote] at decided
        cases decided
      | some remote =>
        rw [Progress.at_upload, Progress.at_backup]

theorem pullFile_of_ne (apart : other ≠ rel) :
    (pullFile options env start progress other).at rel = progress.at rel := by
  unfold pullFile
  split
  · rfl
  · split
    · rfl
    · exact Progress.at_backup_of_ne _ apart
    · split
      · rfl
      · exact Progress.at_download_of_ne _ _ apart

theorem pullFile_own (shown : hidden rel = false) :
    (pullFile options env start progress rel).at rel =
      (progress.at rel).pulled options env rel (start.at rel).object := by
  have file : progress.folder rel = (progress.at rel).file := by
    simp [Progress.at, shown]
  have prev : progress.prev rel = (progress.at rel).prev := rfl
  have object : (start.at rel).object = start.bucket rel := rfl
  have current : (progress.at rel).object = progress.bucket rel := rfl
  unfold pullFile PathState.pulled
  rw [object, current, file, prev]
  cases start.bucket rel with
  | none => rfl
  | some remote =>
    dsimp only
    cases pullDecision options.conflictPolicy env.fileHash
        (progress.at rel).file remote (progress.at rel).prev with
    | skip => rfl
    | keepBoth => exact Progress.at_backup remote
    | transfer =>
      cases progress.bucket rel with
      | none => rfl
      | some current =>
        exact Progress.at_download remote current.content shown

theorem deleteFile_of_ne (apart : other ≠ rel) :
    (deleteFile options start progress other).at rel = progress.at rel := by
  unfold deleteFile
  split
  · split
    · simp [Progress.at, Progress.deleteRemote, apart, Ne.symm apart]
    · rfl
  · split
    · simp [Progress.at, Progress.deleteLocal, apart, Ne.symm apart]
    · rfl
  · simp [Progress.at, Progress.forget, Ne.symm apart]
  · rfl

theorem deleteFile_own (deleteSync : options.deleteSync = true) :
    (deleteFile options start progress rel).at rel =
      (progress.at rel).deleted options (start.at rel).file
        (start.at rel).object := by
  have listed : localFiles options start rel = (start.at rel).file :=
    localFiles_eq (by simp [deleteSync])
  have object : (start.at rel).object = start.bucket rel := rfl
  unfold deleteFile PathState.deleted
  rw [listed, object]
  cases (start.at rel).file with
  | none =>
    cases start.bucket rel with
    | none => simp [Progress.at, Progress.forget]
    | some remote =>
      dsimp only
      split
      · simp [Progress.at, Progress.deleteRemote]
      · rfl
  | some file =>
    cases start.bucket rel with
    | none =>
      dsimp only
      split
      · simp [Progress.at, Progress.deleteLocal]
      · rfl
    | some remote => rfl

end Paths

section Runs

variable {options : Options} {env : Env} {orders : Orders} {start : Progress}

section

variable (enumerate : orders.Enumerate options env start) (rel : String)
  (clear : hidden rel = true → start.bucket rel = none)

include enumerate clear

omit clear in
theorem pushed_at :
    (pushed options env orders start).at rel =
      if options.push then
        (start.at rel).pushed options env rel (start.at rel).file
          (start.at rel).object
      else start.at rel := by
  unfold pushed
  split
  case isFalse => rfl
  case isTrue push =>
    by_cases visited : rel ∈ orders.push
    · exact foldl_visited enumerate.push.1 visited
        (fun _ _ _ apart => pushFile_of_ne apart)
        (fun _ => pushFile_own push) start
    · have unlisted : (start.at rel).file = none := by
        rw [enumerate.push.2, localFiles_eq (by simp [push])] at visited
        simpa using visited
      rw [foldl_unvisited visited
        (fun _ _ _ apart => pushFile_of_ne apart), unlisted]
      rfl

theorem pulled_at :
    (pulled options env orders start).at rel =
      if options.pull then
        ((pushed options env orders start).at rel).pulled options env rel
          (start.at rel).object
      else (pushed options env orders start).at rel := by
  unfold pulled
  split
  case isFalse => rfl
  case isTrue pull =>
    by_cases visited : rel ∈ orders.pull
    · have shown : hidden rel = false := by
        by_contra hid
        have object := (enumerate.pull.2 rel).mp visited
        rw [clear (by simpa using hid)] at object
        cases object
      exact foldl_visited enumerate.pull.1 visited
        (fun _ _ _ apart => pullFile_of_ne apart)
        (fun _ => pullFile_own shown) _
    · have unlisted : (start.at rel).object = none := by
        rw [enumerate.pull.2] at visited
        exact Option.not_isSome_iff_eq_none.mp visited
      rw [foldl_unvisited visited
        (fun _ _ _ apart => pullFile_of_ne apart), unlisted]
      rfl

/-- A run does at a path what `PathState.run` says, unless an object lies
where the backups go. -/
theorem runOnce_at :
    (runOnce options env orders start).at rel =
      (start.at rel).run options env rel := by
  have before := pulled_at enumerate rel clear
  rw [pushed_at enumerate] at before
  unfold runOnce PathState.run
  dsimp only
  rw [← before]
  have saved : ((pulled options env orders start).at rel).saved =
      (pulled options env orders start).files rel := rfl
  cases deleteSync : options.deleteSync with
  | false => simp
  | true =>
    by_cases visited : rel ∈ orders.delete
    · rw [if_pos rfl,
        if_pos ⟨rfl, saved ▸ (enumerate.delete.2 rel).mp visited⟩]
      exact foldl_visited enumerate.delete.1 visited
        (fun _ _ _ apart => deleteFile_of_ne apart)
        (fun _ => deleteFile_own deleteSync) _
    · rw [if_pos rfl, if_neg fun both => visited
        ((enumerate.delete.2 rel).mpr (saved ▸ both.2))]
      exact foldl_unvisited visited
        (fun _ _ _ apart => deleteFile_of_ne apart) _

end

/-- What was done at a path is among what was done. -/
theorem Progress.mem_events_at {progress : Progress} {rel : String}
    {event : Event} :
    event ∈ (progress.at rel).events ↔ (rel, event) ∈ progress.events := by
  simp [Progress.at]

end Runs

end DataSafe.Sync
