import DataSafe.Sync.Lossless

/-!
# A second run

A run after which nobody changes anything should be the last one with work to
do.  The runs decide by comparing the SHA-256 of a file with the ETag of an
object, which is an MD5: the two never agree, so that what one run has
transferred the next one transfers again.  A second run is quiet only where the
first one had nothing to transfer; the one exception is a file that is ahead of
the clock under the policy that lets the remote side win.
-/

namespace DataSafe.Sync

open Base Metadata

/-! ## Quiet paths -/

/-- The loops pass over the path. -/
structure PathState.Quiet (options : Options) (fileHash : Bytes → String)
    (path : PathState) : Prop where
  push : options.push = true → ∀ file, path.file = some file →
    pushDecision options.conflictPolicy (fileHash file.content) file.modTime
      path.object path.prev = .skip
  pull : options.pull = true → ∀ object, path.object = some object →
    pullDecision options.conflictPolicy fileHash path.file object path.prev =
      .skip
  delete : options.deleteSync = true → path.saved.isSome = true →
    (options.push = true → path.file = none → path.object = none) ∧
      (options.pull = true → path.object = none → path.file = none)

section Quiet

variable {options : Options} {env : Env} {rel : String} {path : PathState}
  {file : Option LocalFile} {listed : Option RemoteObject}

theorem PathState.pulled_events :
    path.events <+: (path.pulled options env rel listed).events := by
  unfold PathState.pulled
  split
  · exact List.prefix_rfl
  · split
    · exact List.prefix_rfl
    · simp [PathState.noteConflict]
    · split
      · exact List.prefix_rfl
      · simp [PathState.download]

theorem PathState.deleted_events :
    path.events <+: (path.deleted options file listed).events := by
  unfold PathState.deleted
  split
  · split <;> simp
  · split <;> simp
  · exact List.prefix_rfl
  · exact List.prefix_rfl

theorem PathState.pushed_eq_of_quiet
    (quiet : (path.pushed options env rel file listed).events = [])
    {present : LocalFile} (found : file = some present) :
    pushDecision options.conflictPolicy (env.fileHash present.content)
      present.modTime listed path.prev = .skip := by
  subst found
  unfold PathState.pushed at quiet
  dsimp only at quiet
  split at quiet
  · assumption
  · simp [PathState.upload] at quiet
  · simp [PathState.upload] at quiet

theorem PathState.pulled_eq_of_quiet {object current : RemoteObject}
    (found : listed = some object) (present : path.object = some current)
    (quiet : (path.pulled options env rel listed).events = []) :
    pullDecision options.conflictPolicy env.fileHash path.file object
      path.prev = .skip := by
  subst found
  unfold PathState.pulled at quiet
  dsimp only at quiet
  split at quiet
  · assumption
  · simp [PathState.noteConflict] at quiet
  · rw [present] at quiet
    simp [PathState.download] at quiet

/-- A push that passes over the path changes nothing. -/
theorem PathState.pushed_of_skip
    (skips : ∀ present, file = some present → pushDecision
      options.conflictPolicy (env.fileHash present.content) present.modTime
      listed path.prev = .skip) :
    path.pushed options env rel file listed = path := by
  unfold PathState.pushed
  cases file with
  | none => rfl
  | some present =>
    dsimp only
    rw [skips present rfl]

/-- A pull that passes over the path changes nothing. -/
theorem PathState.pulled_of_skip
    (skips : ∀ object, listed = some object → pullDecision
      options.conflictPolicy env.fileHash path.file object path.prev =
      .skip) :
    path.pulled options env rel listed = path := by
  unfold PathState.pulled
  cases listed with
  | none => rfl
  | some object =>
    dsimp only
    rw [skips object rfl]

theorem nil_of_grown {α : Type} {before after : List α}
    (grown : before <+: after) (quiet : after = []) : before = [] := by
  rw [quiet] at grown
  exact List.prefix_nil.mp grown

/-- The run at a path, loop by loop. -/
def PathState.afterPush (options : Options) (env : Env) (rel : String)
    (path : PathState) : PathState :=
  if options.push then path.pushed options env rel path.file path.object
  else path

def PathState.afterPull (options : Options) (env : Env) (rel : String)
    (path : PathState) : PathState :=
  if options.pull then
    (path.afterPush options env rel).pulled options env rel path.object
  else path.afterPush options env rel

theorem PathState.run_eq :
    path.run options env rel =
      if options.deleteSync ∧ (path.afterPull options env rel).saved.isSome
      then (path.afterPull options env rel).deleted options path.file
        path.object
      else path.afterPull options env rel := rfl

theorem PathState.afterPush_of_skip
    (skips : options.push = true → ∀ file, path.file = some file →
      pushDecision options.conflictPolicy (env.fileHash file.content)
        file.modTime path.object path.prev = .skip) :
    path.afterPush options env rel = path := by
  unfold PathState.afterPush
  split
  case isTrue push => exact PathState.pushed_of_skip (skips push)
  case isFalse => rfl

theorem PathState.afterPull_of_skip
    (unpushed : path.afterPush options env rel = path)
    (skips : options.pull = true → ∀ object, path.object = some object →
      pullDecision options.conflictPolicy env.fileHash path.file object
        path.prev = .skip) :
    path.afterPull options env rel = path := by
  unfold PathState.afterPull
  rw [unpushed]
  split
  case isTrue pull => exact PathState.pulled_of_skip (skips pull)
  case isFalse => rfl

/-- A run does nothing at a path if and only if its loops pass over it. -/
theorem PathState.run_events_iff (fresh : path.events = []) :
    (path.run options env rel).events = [] ↔
      path.Quiet options env.fileHash := by
  constructor
  · intro done
    have pulls : (path.afterPull options env rel).events = [] := by
      rw [PathState.run_eq] at done
      split at done
      · exact nil_of_grown PathState.deleted_events done
      · exact done
    have pushes : (path.afterPush options env rel).events = [] := by
      unfold PathState.afterPull at pulls
      split at pulls
      · exact nil_of_grown PathState.pulled_events pulls
      · exact pulls
    have push : options.push = true → ∀ file, path.file = some file →
        pushDecision options.conflictPolicy (env.fileHash file.content)
          file.modTime path.object path.prev = .skip := by
      intro push file found
      unfold PathState.afterPush at pushes
      rw [if_pos push] at pushes
      exact PathState.pushed_eq_of_quiet pushes found
    have unpushed : path.afterPush options env rel = path :=
      PathState.afterPush_of_skip push
    have pull : options.pull = true → ∀ object, path.object = some object →
        pullDecision options.conflictPolicy env.fileHash path.file object
          path.prev = .skip := by
      intro pull object found
      unfold PathState.afterPull at pulls
      rw [if_pos pull, unpushed] at pulls
      exact PathState.pulled_eq_of_quiet found found pulls
    have unpulled : path.afterPull options env rel = path :=
      PathState.afterPull_of_skip unpushed pull
    refine ⟨push, pull, fun deleteSync saved => ?_⟩
    rw [PathState.run_eq, unpulled, if_pos ⟨deleteSync, saved⟩] at done
    unfold PathState.deleted at done
    split at done
    · split at done
      · simp at done
      · simp_all
    · split at done
      · simp at done
      · simp_all
    · simp_all
    · simp_all
  · intro quiet
    rw [PathState.run_eq, PathState.afterPull_of_skip
      (PathState.afterPush_of_skip quiet.push) quiet.pull]
    split
    case isTrue deletes =>
      obtain ⟨remote, folder⟩ := quiet.delete deletes.1 deletes.2
      unfold PathState.deleted
      split
      case h_1 noFile object => simp_all
      case h_2 file noObject => simp_all
      case h_3 => exact fresh
      case h_4 => exact fresh
    case isFalse => exact fresh

end Quiet

/-! ## Decisions after a transfer -/

section Decisions

variable {policy : ConflictPolicy} {fileHash : Bytes → String}
  {file : LocalFile} {object : RemoteObject} {prev : FileState}

section

variable (recorded : prev.etag = fileHash file.content)
  (apart : fileHash file.content ≠ trimQuotes object.etag)
  (old : file.modTime ≤ prev.lastSyncedAt)

include recorded apart old

omit apart in
/-- A file that is as it was recorded is in no conflict. -/
theorem isConflict_of_synced :
    isConflict (fileHash file.content) file.modTime object prev = false := by
  simp [isConflict, recorded, not_lt.mpr old]

omit apart old in
/-- A file that is ahead of its record is in conflict. -/
theorem isConflict_of_ahead
    (hashed : fileHash file.content ≠ "")
    (apart : fileHash file.content ≠ trimQuotes object.etag)
    (ahead : prev.lastSyncedAt < file.modTime) :
    isConflict (fileHash file.content) file.modTime object prev = true := by
  simp [isConflict, recorded, hashed, apart, ahead]

/-- A file that is as it was recorded is uploaded over an object with another
tag. -/
theorem pushDecision_of_synced :
    pushDecision policy (fileHash file.content) file.modTime (some object)
      prev = .transfer := by
  simp [pushDecision, isConflict_of_synced recorded old, apart, recorded]

omit apart old in
/-- Only a policy by which the remote side wins stops the upload of a file
that is ahead of its record and newer than the object. -/
theorem pushDecision_of_ahead
    (hashed : fileHash file.content ≠ "")
    (apart : fileHash file.content ≠ trimQuotes object.etag)
    (ahead : prev.lastSyncedAt < file.modTime)
    (newer : object.lastModified < file.modTime) :
    pushDecision policy (fileHash file.content) file.modTime (some object)
      prev = .skip ↔ policy = .remoteWins := by
  cases policy <;>
    simp [pushDecision, isConflict_of_ahead recorded hashed apart ahead,
      apart, pickWinner, newer]

/-- A file that is as it was recorded and no newer than the object is
downloaded again. -/
theorem pullDecision_of_synced
    (older : file.modTime ≤ object.lastModified) :
    pullDecision policy fileHash (some file) object prev = .transfer := by
  simp [pullDecision, isConflict_of_synced recorded old, apart,
    not_lt.mpr older]

end

end Decisions

/-! ## Paths at rest -/

/-- The file is ahead of the clock, and the policy lets the remote side win in
a run that does not pull. -/
def Stays (options : Options) (env : Env) (rel : String) (file : LocalFile) :
    Prop :=
  options.pull = false ∧ options.conflictPolicy = .remoteWins ∧
    env.pushedAt rel < file.modTime

/-- The first run has nothing to transfer at the path, or a transfer that it
does not repeat. -/
def PathState.Rests (options : Options) (env : Env) (rel : String)
    (path : PathState) : Prop :=
  match path.file, path.object with
  | none, none => True
  | some file, none => options.push = true → Stays options env rel file
  | none, some _ => options.pull = false
  | some file, some object =>
    (options.push = true →
      pushDecision options.conflictPolicy (env.fileHash file.content)
        file.modTime (some object) path.prev = .skip ∨
      Stays options env rel file) ∧
    (options.pull = true →
      pullDecision options.conflictPolicy env.fileHash (some file) object
        path.prev = .skip)

/-- SHA-256 and MD5 in hexadecimal, and a server whose clock is the client's. -/
structure Env.Genuine (env : Env) : Prop where
  apart : ∀ content other, env.fileHash content ≠ env.etagOf other
  hashed : ∀ content, env.fileHash content ≠ ""
  unquoted : ∀ content, trimQuotes (env.etagOf content) = env.etagOf content
  uploaded : ∀ rel, env.uploadedAt rel ≤ env.pushedAt rel

/-- The object has the tag of a single put and was written before the run. -/
structure RemoteObject.Stored (object : RemoteObject) (env : Env)
    (rel : String) : Prop where
  etag : trimQuotes object.etag = env.etagOf object.content
  pushed : object.lastModified ≤ env.pushedAt rel
  pulled : object.lastModified ≤ env.pulledAt rel

section Rests

variable {options : Options} {env : Env} {rel : String} {path : PathState}
  {file : LocalFile} {object : RemoteObject}

/-- The object that an upload stores. -/
def Env.putOf (env : Env) (rel : String) (file : LocalFile) : RemoteObject :=
  ⟨file.content, env.etagOf file.content, env.uploadedAt rel⟩

/-- The record of an upload. -/
def Env.recordOf (env : Env) (rel : String) (file : LocalFile) : FileState :=
  ⟨env.fileHash file.content, file.content.length, file.modTime,
    env.pushedAt rel⟩

/-- What an upload leaves at a path. -/
structure PathState.Uploaded (env : Env) (rel : String) (present : LocalFile)
    (path : PathState) : Prop where
  file : path.file = some present
  object : path.object = some (env.putOf rel present)
  saved : path.saved = some (env.recordOf rel present)

theorem PathState.uploaded_upload (found : path.file = some file) :
    (path.upload env rel file).Uploaded env rel file :=
  ⟨found, rfl, rfl⟩

theorem RemoteObject.Stored.apart
    (stored : object.Stored env rel) (genuine : env.Genuine) :
    env.fileHash object.content ≠ trimQuotes object.etag := by
  rw [stored.etag]
  exact genuine.apart _ _

theorem Env.Genuine.put_apart (genuine : env.Genuine) :
    env.fileHash file.content ≠ trimQuotes (env.putOf rel file).etag := by
  rw [Env.putOf, genuine.unquoted]
  exact genuine.apart _ _

/-- An upload is repeated, unless the remote side wins over a file that is
ahead of the clock. -/
theorem Env.Genuine.pushDecision_again (genuine : env.Genuine)
    (policy : ConflictPolicy) :
    pushDecision policy (env.fileHash file.content) file.modTime
        (some (env.putOf rel file)) (env.recordOf rel file) = .skip ↔
      policy = .remoteWins ∧ env.pushedAt rel < file.modTime := by
  have recorded : (env.recordOf rel file).etag = env.fileHash file.content :=
    rfl
  rcases le_or_gt file.modTime (env.pushedAt rel) with old | ahead
  · have decided : pushDecision policy (env.fileHash file.content)
        file.modTime (some (env.putOf rel file)) (env.recordOf rel file) =
          .transfer :=
      pushDecision_of_synced recorded genuine.put_apart old
    simp [decided, not_lt.mpr old]
  · have newer : (env.putOf rel file).lastModified < file.modTime :=
      lt_of_le_of_lt (genuine.uploaded rel) ahead
    have synced : (env.recordOf rel file).lastSyncedAt < file.modTime := ahead
    rw [pushDecision_of_ahead recorded (genuine.hashed _) genuine.put_apart
      synced newer]
    simp [ahead]

/-- After an upload the next run is quiet only for a file that stays. -/
theorem PathState.Uploaded.quiet_iff (uploaded : path.Uploaded env rel file)
    (genuine : env.Genuine) (push : options.push = true) :
    path.Quiet options env.fileHash ↔ Stays options env rel file := by
  have prev : path.prev = env.recordOf rel file := by
    rw [PathState.prev, uploaded.saved]
    rfl
  constructor
  · intro quiet
    have skips := quiet.push push file uploaded.file
    rw [uploaded.object, prev, genuine.pushDecision_again] at skips
    obtain ⟨policy, ahead⟩ := skips
    refine ⟨?_, policy, ahead⟩
    by_contra pulls
    have skips := quiet.pull (by simpa using pulls) _ uploaded.object
    have conflict : isConflict (env.fileHash file.content) file.modTime
        (env.putOf rel file) (env.recordOf rel file) = true :=
      isConflict_of_ahead rfl (genuine.hashed _) genuine.put_apart ahead
    have apart : env.fileHash file.content ≠
      trimQuotes (env.putOf rel file).etag := genuine.put_apart
    rw [uploaded.file, prev] at skips
    simp [pullDecision, apart, conflict, policy, pickWinner] at skips
  · rintro ⟨noPull, policy, ahead⟩
    refine ⟨fun _ present found => ?_, fun pull => ?_, fun _ _ => ?_⟩
    · rw [uploaded.file] at found
      cases found
      rw [uploaded.object, prev, genuine.pushDecision_again]
      exact ⟨policy, ahead⟩
    · rw [noPull] at pull
      cases pull
    · rw [uploaded.file, uploaded.object]
      exact ⟨fun _ missing => (by cases missing),
        fun _ missing => (by cases missing)⟩

/-- After a download the next run is never quiet. -/
theorem PathState.not_quiet_of_downloaded {data : Bytes} {time : Time}
    {saved : FileState} (found : path.file = some ⟨data, time⟩)
    (stored : path.object = some object) (recorded : path.saved = some saved)
    (hash : saved.etag = env.fileHash data) (old : time ≤ saved.lastSyncedAt)
    (apart : env.fileHash data ≠ trimQuotes object.etag)
    (works : options.push = true ∨ options.pull = true ∧ time ≤
      object.lastModified) :
    ¬ path.Quiet options env.fileHash := by
  intro quiet
  have prev : path.prev = saved := by
    rw [PathState.prev, recorded]
    rfl
  rcases works with push | ⟨pull, older⟩
  · have skips := quiet.push push _ found
    rw [stored, prev] at skips
    rw [pushDecision_of_synced hash apart old] at skips
    cases skips
  · have skips := quiet.pull pull _ stored
    rw [found, prev, pullDecision_of_synced hash apart old older] at skips
    cases skips

/-- What is on neither side does not come back. -/
theorem PathState.quiet_run_nowhere
    (noFile : path.file = none) (noObject : path.object = none) :
    (path.run options env rel).Quiet options env.fileHash := by
  have sides : (path.run options env rel).file = none ∧
      (path.run options env rel).object = none :=
    PathState.run_nowhere noFile noObject
  refine ⟨fun _ file found => ?_, fun _ object found => ?_, fun _ _ => ?_⟩
  · rw [sides.1] at found
    cases found
  · rw [sides.2] at found
    cases found
  · exact ⟨fun _ _ => sides.2, fun _ _ => sides.1⟩

theorem PathState.quiet_run_localOnly (genuine : env.Genuine)
    (found : path.file = some file) (noObject : path.object = none) :
    (path.run options env rel).Quiet options env.fileHash ↔
      (options.push = true → Stays options env rel file) := by
  have pulls : path.afterPull options env rel =
      path.afterPush options env rel := by
    simp [PathState.afterPull, PathState.pulled, noObject]
  cases push : options.push with
  | false =>
    have untouched : path.afterPull options env rel = path := by
      rw [pulls]
      simp [PathState.afterPush, push]
    refine ⟨fun _ impossible => (by cases impossible), fun _ => ?_⟩
    rw [PathState.run_eq, untouched]
    refine ⟨fun pushes => ?_, fun _ object stored => ?_,
      fun deleteSync saved => ?_⟩
    · rw [push] at pushes
      cases pushes
    · split at stored <;> simp [PathState.deleted, found, noObject] at stored
      split at stored <;> simp at stored
    · refine ⟨fun pushes => ?_, fun pull _ => ?_⟩
      · rw [push] at pushes
        cases pushes
      · split at saved
        case isTrue deletes =>
          rw [if_pos deletes]
          simp [PathState.deleted, found, noObject, pull]
        case isFalse kept =>
          exact absurd ⟨deleteSync, saved⟩ kept
  | true =>
    have uploads : path.afterPull options env rel =
        path.upload env rel file := by
      rw [pulls]
      simp [PathState.afterPush, PathState.pushed, push, found,
        pushDecision, noObject]
    refine Iff.trans ?_ ⟨fun stays _ => stays, fun stays => stays rfl⟩
    rw [PathState.run_eq, uploads]
    by_cases deletes : options.deleteSync = true ∧ options.pull = true
    · rw [if_pos ⟨deletes.1, rfl⟩]
      refine ⟨fun quiet => ?_, fun stays => ?_⟩
      · have skips := quiet.pull deletes.2 (env.putOf rel file) (by
          simp [PathState.deleted, found, noObject, deletes.2,
            PathState.upload, Env.putOf])
        simp [PathState.deleted, found, noObject, deletes.2,
          pullDecision] at skips
      · rw [stays.1] at deletes
        cases deletes.2
    · have kept : (if options.deleteSync = true ∧
          (path.upload env rel file).saved.isSome = true then
            (path.upload env rel file).deleted options path.file path.object
          else path.upload env rel file) = path.upload env rel file := by
        split
        case isTrue both =>
          have noPull : options.pull = false := by
            simpa [both.1] using deletes
          simp [PathState.deleted, found, noObject, noPull]
        case isFalse => rfl
      rw [kept]
      exact (PathState.uploaded_upload found).quiet_iff genuine push

theorem PathState.quiet_run_remoteOnly (genuine : env.Genuine)
    (noFile : path.file = none) (found : path.object = some object)
    (stored : object.Stored env rel) :
    (path.run options env rel).Quiet options env.fileHash ↔
      options.pull = false := by
  have pushes : path.afterPush options env rel = path := by
    simp [PathState.afterPush, PathState.pushed, noFile]
  cases pull : options.pull with
  | false =>
    have untouched : path.afterPull options env rel = path := by
      simp [PathState.afterPull, pushes, pull]
    refine ⟨fun _ => rfl, fun _ => ?_⟩
    rw [PathState.run_eq, untouched]
    refine ⟨fun _ file present => ?_, fun pulls => ?_,
      fun deleteSync saved => ?_⟩
    · split at present <;> simp [PathState.deleted, found, noFile] at present
      split at present <;> simp at present
    · rw [pull] at pulls
      cases pulls
    · refine ⟨fun push _ => ?_, fun pulls => ?_⟩
      · split at saved
        case isTrue deletes =>
          rw [if_pos deletes]
          simp [PathState.deleted, found, noFile, push]
        case isFalse kept =>
          exact absurd ⟨deleteSync, saved⟩ kept
      · rw [pull] at pulls
        cases pulls
  | true =>
    have downloads : path.afterPull options env rel =
        path.download env rel object object.content := by
      simp [PathState.afterPull, pushes, pull, PathState.pulled, found,
        noFile, pullDecision]
    refine ⟨fun quiet => ?_, fun impossible => (by cases impossible)⟩
    rw [PathState.run_eq, downloads] at quiet
    by_cases deletes : options.deleteSync = true ∧ options.push = true
    · rw [if_pos ⟨deletes.1, rfl⟩] at quiet
      have skips := quiet.push deletes.2 _ (by
        simp [PathState.deleted, found, noFile, deletes.2]
        rfl)
      simp [PathState.deleted, found, noFile, deletes.2,
        pushDecision] at skips
    · have kept : (if options.deleteSync = true ∧
          (path.download env rel object object.content).saved.isSome = true
          then (path.download env rel object object.content).deleted options
            path.file path.object
          else path.download env rel object object.content) =
            path.download env rel object object.content := by
        split
        case isTrue both =>
          have noPush : options.push = false := by
            simpa [both.1] using deletes
          simp [PathState.deleted, found, noFile, noPush]
        case isFalse => rfl
      rw [kept] at quiet
      exact absurd quiet (PathState.not_quiet_of_downloaded rfl found rfl
        rfl stored.pulled (stored.apart genuine) (.inr ⟨pull, le_rfl⟩))

/-- Where the push loop passes over a path on both sides, it is the pull loop
that must do so as well. -/
theorem PathState.quiet_afterPull_of_passed (genuine : env.Genuine)
    (found : path.file = some file) (stored : path.object = some object)
    (genuineObject : object.Stored env rel)
    (passes : options.push = true → pushDecision options.conflictPolicy
      (env.fileHash file.content) file.modTime (some object) path.prev =
      .skip) :
    (path.afterPull options env rel).Quiet options env.fileHash ↔
      (options.pull = true →
        pullDecision options.conflictPolicy env.fileHash (some file) object
          path.prev = .skip) := by
  have skips : options.push = true → ∀ present, path.file = some present →
      pushDecision options.conflictPolicy (env.fileHash present.content)
        present.modTime path.object path.prev = .skip := by
    intro push present there
    rw [found] at there
    cases there
    rw [stored]
    exact passes push
  have pushes : path.afterPush options env rel = path :=
    PathState.afterPush_of_skip skips
  have kept : (options.pull = true →
      pullDecision options.conflictPolicy env.fileHash (some file) object
        path.prev = .skip) → path.Quiet options env.fileHash := by
    intro pulls
    refine ⟨skips, fun pull other there => ?_, fun _ _ => ?_⟩
    · rw [stored] at there
      cases there
      rw [found]
      exact pulls pull
    · rw [found, stored]
      exact ⟨fun _ missing => (by cases missing),
        fun _ missing => (by cases missing)⟩
  unfold PathState.afterPull
  rw [pushes]
  split
  case isFalse noPull =>
    have vacuous : options.pull = true →
        pullDecision options.conflictPolicy env.fileHash (some file) object
          path.prev = .skip := fun pull => absurd pull noPull
    exact ⟨fun _ => vacuous, kept⟩
  case isTrue pull =>
    unfold PathState.pulled
    rw [stored, found]
    dsimp only
    split
    case h_1 decided => exact ⟨fun _ _ => decided, kept⟩
    case h_2 decided =>
      refine ⟨fun quiet _ => ?_, fun pulls => ?_⟩
      · have again := quiet.pull pull object stored
        have same : path.noteConflict.file = some file := found
        rw [same] at again
        exact again
      · rw [pulls pull] at decided
        cases decided
    case h_3 decided =>
      refine ⟨fun quiet => ?_, fun pulls => ?_⟩
      · exact absurd quiet (PathState.not_quiet_of_downloaded rfl stored rfl
          rfl genuineObject.pulled (genuineObject.apart genuine)
          (.inr ⟨pull, le_rfl⟩))
      · rw [pulls pull] at decided
        cases decided

theorem PathState.afterPush_uploaded (push : options.push = true)
    (found : path.file = some file)
    (works : pushDecision options.conflictPolicy (env.fileHash file.content)
      file.modTime path.object path.prev ≠ .skip) :
    (path.afterPush options env rel).Uploaded env rel file := by
  unfold PathState.afterPush PathState.pushed
  rw [if_pos push, found]
  dsimp only
  split
  case h_1 skips => exact absurd skips works
  case h_2 =>
    have same : path.noteConflict.file = some file := found
    exact PathState.uploaded_upload same
  case h_3 => exact PathState.uploaded_upload found

/-- Where the push loop uploads over an object, only a file that stays is left
alone by the next run. -/
theorem PathState.quiet_afterPull_of_pushed (genuine : env.Genuine)
    (stored : path.object = some object)
    (genuineObject : object.Stored env rel) (push : options.push = true)
    (uploaded : (path.afterPush options env rel).Uploaded env rel file) :
    (path.afterPull options env rel).Quiet options env.fileHash ↔
      Stays options env rel file := by
  unfold PathState.afterPull
  split
  case isFalse => exact uploaded.quiet_iff genuine push
  case isTrue pull =>
    unfold PathState.pulled
    rw [stored, uploaded.object]
    dsimp only
    split
    case h_1 => exact uploaded.quiet_iff genuine push
    case h_2 =>
      have same : (path.afterPush options env rel).noteConflict.Uploaded env
        rel file := ⟨uploaded.file, uploaded.object, uploaded.saved⟩
      exact same.quiet_iff genuine push
    case h_3 =>
      refine ⟨fun quiet => ?_, fun stays => ?_⟩
      · exact absurd quiet (PathState.not_quiet_of_downloaded rfl
          uploaded.object rfl rfl genuineObject.pulled genuine.put_apart
          (.inl push))
      · have noPull := stays.1
        rw [pull] at noPull
        cases noPull

theorem PathState.quiet_run_both (genuine : env.Genuine)
    (found : path.file = some file) (stored : path.object = some object)
    (genuineObject : object.Stored env rel) :
    (path.run options env rel).Quiet options env.fileHash ↔
      path.Rests options env rel := by
  have kept : path.run options env rel = path.afterPull options env rel := by
    rw [PathState.run_eq]
    split
    · simp [PathState.deleted, found, stored]
    · rfl
  rw [kept, PathState.Rests, found, stored]
  by_cases passes : options.push = true →
      pushDecision options.conflictPolicy (env.fileHash file.content)
        file.modTime (some object) path.prev = .skip
  · rw [PathState.quiet_afterPull_of_passed genuine found stored
      genuineObject passes]
    exact ⟨fun pulls => ⟨fun push => .inl (passes push), pulls⟩, And.right⟩
  · obtain ⟨push, works⟩ := Classical.not_imp.mp passes
    have uploaded : (path.afterPush options env rel).Uploaded env rel file :=
      PathState.afterPush_uploaded push found (by rwa [stored])
    rw [PathState.quiet_afterPull_of_pushed genuine stored genuineObject push
      uploaded]
    constructor
    · intro stays
      refine ⟨fun _ => .inr stays, fun pull => ?_⟩
      have noPull := stays.1
      rw [pull] at noPull
      cases noPull
    · intro rests
      exact (rests.1 push).resolve_left works

/-- The next run is quiet at a path if and only if the path rests. -/
theorem PathState.quiet_run_iff (genuine : env.Genuine)
    (stored : ∀ object, path.object = some object → object.Stored env rel) :
    (path.run options env rel).Quiet options env.fileHash ↔
      path.Rests options env rel := by
  cases found : path.file with
  | none =>
    cases there : path.object with
    | none =>
      rw [PathState.Rests, found, there]
      exact ⟨fun _ => trivial,
        fun _ => PathState.quiet_run_nowhere found there⟩
    | some object =>
      rw [PathState.quiet_run_remoteOnly genuine found there
        (stored object there), PathState.Rests, found, there]
  | some file =>
    cases there : path.object with
    | none =>
      rw [PathState.quiet_run_localOnly genuine found there,
        PathState.Rests, found, there]
    | some object =>
      exact PathState.quiet_run_both genuine found there
        (stored object there)

end Rests

/-! ## Two runs -/

/-- The next run starts from what the last one left. -/
def Progress.next (progress : Progress) : Progress :=
  { progress with events := [] }

variable {options : Options} {env later : Env} {orders next : Orders}
  {start : Progress}

theorem eq_nil_of_paths (progress : Progress)
    (quiet : ∀ rel, (progress.at rel).events = []) :
    progress.events = [] := by
  rw [List.eq_nil_iff_forall_not_mem]
  rintro ⟨rel, event⟩ member
  have there := Progress.mem_events_at.mpr member
  rw [quiet rel] at there
  cases there

/-- A run keeps the bucket clear of the backups. -/
theorem clear_next (enumerate : orders.Enumerate options env start)
    (clear : ∀ rel, hidden rel = true → start.bucket rel = none)
    (rel : String) (hid : hidden rel = true) :
    (runOnce options env orders start).bucket rel = none := by
  have after := congrArg PathState.object
    (runOnce_at enumerate rel fun hid => clear rel hid)
  have noFile : (start.at rel).file = none := by
    simp [Progress.at, hid]
  exact after.trans (PathState.run_nowhere noFile (clear rel hid)).2

/-- A second run does nothing if and only if every path rests in the first
one. -/
theorem second_run_quiet
    (enumerate : orders.Enumerate options env start)
    (again : next.Enumerate options later (runOnce options env orders
      start).next) (sameHash : later.fileHash = env.fileHash)
    (genuine : env.Genuine)
    (stored : ∀ rel object, start.bucket rel = some object → object.Stored env
      rel) (clear : ∀ rel, hidden rel = true → start.bucket rel = none) :
    (runOnce options later next
        (runOnce options env orders start).next).events = [] ↔
      ∀ rel, (start.at rel).Rests options env rel := by
  have second : ∀ rel, ((runOnce options later next
      (runOnce options env orders start).next).at rel).events = [] ↔
        (start.at rel).Rests options env rel := by
    intro rel
    rw [runOnce_at again rel (clear_next enumerate clear rel),
      PathState.run_events_iff rfl, sameHash,
      ← PathState.quiet_run_iff genuine (stored rel),
      ← runOnce_at enumerate rel (clear rel)]
    exact ⟨fun quiet => ⟨quiet.push, quiet.pull, quiet.delete⟩,
      fun quiet => ⟨quiet.push, quiet.pull, quiet.delete⟩⟩
  constructor
  · intro quiet rel
    rw [← second rel, Progress.at, quiet]
    rfl
  · intro rests
    exact eq_nil_of_paths _ fun rel => (second rel).mpr (rests rel)

/-! ## Pushing twice -/

def pushOnly : Options := ⟨false, true, false, .lastWriteWins⟩

/-- The file `a` and what else there is at its path. -/
def fileA (file : LocalFile) (object : Option RemoteObject)
    (saved : Option FileState) : Progress where
  folder := Function.update (fun _ => none) "a" (some file)
  bucket := Function.update (fun _ => none) "a" object
  files := Function.update (fun _ => none) "a" saved
  events := []

/-- The orders of a run that pushes the file `a`. -/
def pushA (object : Option RemoteObject) : Orders :=
  ⟨["a"], if object.isSome then ["a"] else [], ["a"]⟩

theorem pushA_enumerate (env : Env) (file : LocalFile)
    (object : Option RemoteObject) (saved : Option FileState)
    (records : ((pushFile pushOnly env (fileA file object saved)
      (fileA file object saved) "a").files "a").isSome = true) :
    (pushA object).Enumerate pushOnly env (fileA file object saved) where
  push := by
    refine ⟨List.nodup_singleton _, fun rel => ?_⟩
    by_cases own : rel = "a"
    · subst own
      simp [pushA, localFiles, pushOnly, fileA, hidden_a]
    · simp [pushA, localFiles, fileA, own]
  pull := by
    cases object with
    | none =>
      refine ⟨List.nodup_nil, fun rel => ?_⟩
      simp [pushA, fileA]
    | some object =>
      refine ⟨List.nodup_singleton _, fun rel => ?_⟩
      by_cases own : rel = "a"
      · simp [pushA, fileA, own]
      · simp [pushA, fileA, own]
  delete := by
    refine ⟨List.nodup_singleton _, fun rel => ?_⟩
    refine List.mem_singleton.trans ?_
    have pushes : pulled pushOnly env (pushA object)
        (fileA file object saved) = pushFile pushOnly env
          (fileA file object saved) (fileA file object saved) "a" := rfl
    rw [pushes]
    by_cases own : rel = "a"
    · rw [own]
      exact ⟨fun _ => records, fun _ => rfl⟩
    · have same : (pushFile pushOnly env (fileA file object saved)
          (fileA file object saved) "a").at rel =
            (fileA file object saved).at rel :=
        pushFile_of_ne (Ne.symm own)
      have files := congrArg PathState.saved same
      simp only [Progress.at] at files
      rw [files]
      simp [fileA, own]

/-- The file `a`, not in the bucket yet. -/
def newFile : LocalFile := ⟨[97], 1⟩

theorem pushes_newFile :
    (runOnce pushOnly (plainEnv 3) (pushA none)
        (fileA newFile none none)).next =
      fileA newFile (some ((plainEnv 3).putOf "a" newFile))
        (some ((plainEnv 3).recordOf "a" newFile)) := by
  simp [runOnce, pulled, pushed, pushA, pushOnly, pushFile, localFiles, fileA,
    pushDecision, hidden_a, Progress.upload, Progress.next, Env.putOf,
    Env.recordOf]

theorem trimQuotes_of_free {text : String}
    (free : ∀ letter ∈ text.toList, letter ≠ '"') :
    trimQuotes text = text := by
  have kept : ∀ letters : List Char, (∀ letter ∈ letters, letter ≠ '"') →
      letters.dropWhile (· = '"') = letters := by
    intro letters free
    cases letters with
    | nil => rfl
    | cons first rest =>
      exact List.dropWhile_cons_of_neg (by
        simpa using free first List.mem_cons_self)
  rw [trimQuotes, kept _ free, kept _ fun letter member =>
    free letter (List.mem_reverse.mp member), List.reverse_reverse,
    String.ofList_toList]

theorem letter_free (byte : UInt8) :
    Char.ofNat (byte.toNat + 97) ≠ '"' := by
  have all : ∀ code : Fin 256, Char.ofNat (code.val + 97) ≠ '"' := by
    decide +kernel
  exact all ⟨byte.toNat, byte.toNat_lt⟩

theorem plainEnv_genuine (now : Time) : (plainEnv now).Genuine where
  apart content other same := by
    have first := congrArg (fun text => text.toList.head?) same
    simp [plainEnv] at first
  hashed content same := by
    have first := congrArg (fun text => text.toList.head?) same
    simp [plainEnv] at first
  unquoted content := by
    refine trimQuotes_of_free fun letter member => ?_
    simp only [plainEnv, String.toList_append, String.toList_ofList,
      List.mem_append, List.mem_map] at member
    rcases member with start | ⟨byte, -, rfl⟩
    · rintro rfl
      simp at start
    · exact letter_free byte
  uploaded rel := le_rfl

/-- What a run has uploaded the next one uploads again. -/
theorem second_run_uploads_again :
    (pushA none).Enumerate pushOnly (plainEnv 3) (fileA newFile none none) ∧
      (pushA (some ((plainEnv 3).putOf "a" newFile))).Enumerate pushOnly
        (plainEnv 5) (runOnce pushOnly (plainEnv 3) (pushA none)
          (fileA newFile none none)).next ∧
      (runOnce pushOnly (plainEnv 3) (pushA none)
        (fileA newFile none none)).events = [("a", .uploaded)] ∧
      (runOnce pushOnly (plainEnv 5)
        (pushA (some ((plainEnv 3).putOf "a" newFile)))
        (runOnce pushOnly (plainEnv 3) (pushA none)
          (fileA newFile none none)).next).events = [("a", .uploaded)] := by
  rw [pushes_newFile]
  refine ⟨pushA_enumerate _ _ _ _ (by decide),
    pushA_enumerate _ _ _ _ (by decide), by decide,
    by decide⟩

/-- The file and the object have both changed, the object last. -/
def changedFile : LocalFile := ⟨[97], 5⟩

def changedObject : RemoteObject := ⟨[98], (plainEnv 0).etagOf [98], 7⟩

def oldRecord : FileState := ⟨(plainEnv 0).fileHash [99], 1, 1, 2⟩

/-- The path of the two of them. -/
abbrev changedPath : Progress :=
  fileA changedFile (some changedObject) (some oldRecord)

theorem changed_skips (now : Time) :
    pushDecision .lastWriteWins ((plainEnv now).fileHash changedFile.content)
      changedFile.modTime (some changedObject) oldRecord = .skip := by
  have sameHash : (plainEnv now).fileHash = (plainEnv 0).fileHash := rfl
  rw [sameHash]
  decide

theorem keeps_changed (now : Time) :
    (runOnce pushOnly (plainEnv now) (pushA (some changedObject))
      changedPath).next = changedPath := by
  rfl

/-- A file that has lost against a newer object is left alone for good. -/
theorem second_run_leaves_loser :
    (runOnce pushOnly (plainEnv 11) (pushA (some changedObject))
      (runOnce pushOnly (plainEnv 9) (pushA (some changedObject))
        (fileA changedFile (some changedObject)
          (some oldRecord))).next).events = [] := by
  have enumerate : ∀ now, (pushA (some changedObject)).Enumerate pushOnly
      (plainEnv now) changedPath := by
    intro now
    refine pushA_enumerate _ _ _ _ ?_
    have kept := congrArg (fun progress => progress.files "a")
      (keeps_changed now)
    exact (congrArg Option.isSome kept).trans rfl
  have again : (pushA (some changedObject)).Enumerate pushOnly (plainEnv 11)
      (runOnce pushOnly (plainEnv 9) (pushA (some changedObject))
        changedPath).next := enumerate 11
  refine (second_run_quiet (enumerate 9) again rfl (plainEnv_genuine 9)
    (fun rel object there => ?_) (fun rel hid => ?_)).mpr fun rel => ?_
  · by_cases own : rel = "a"
    · subst own
      cases there
      exact ⟨(plainEnv_genuine 0).unquoted _, by decide, by decide⟩
    · simp [fileA, own] at there
  · by_cases own : rel = "a"
    · subst own
      revert hid
      decide
    · simp [fileA, own]
  · by_cases own : rel = "a"
    · subst own
      exact ⟨fun _ => .inl (changed_skips 9), fun pull => by cases pull⟩
    · simp [PathState.Rests, Progress.at, fileA, own]

end DataSafe.Sync
