import DataSafe.Sync.RunOnce

/-!
# What a two-way run may delete

A run in both directions that also deletes should remove a path only if it was
synchronised before and has gone from the other side, and should copy what is
new on one side to the other.  The delete loop compares the listings of the
start with the record as the transfers have left it: a path that was new on one
side is recorded by its own transfer, still counts as missing on the other
side, and is deleted where it came from.
-/

namespace DataSafe.Sync

open Base Metadata

/-- The options of a run in both directions that also deletes. -/
def Options.twoWay (policy : ConflictPolicy) : Options :=
  ⟨true, true, true, policy⟩

/-- The path is on one side only. -/
def Progress.OneSided (progress : Progress) (rel : String) : Prop :=
  (progress.folder rel).isSome ≠ (progress.bucket rel).isSome

/-- Deletions follow deletions, and what is new is copied. -/
structure Lossless (start after : Progress) : Prop where
  remote : ∀ rel, (rel, .deletedRemote) ∈ after.events →
    (start.files rel).isSome = true ∧ start.folder rel = none
  folder : ∀ rel, (rel, .deletedLocal) ∈ after.events →
    (start.files rel).isSome = true ∧ start.bucket rel = none
  copied : ∀ rel, start.OneSided rel → start.files rel = none →
    ∃ file object, after.folder rel = some file ∧
      after.bucket rel = some object ∧ file.content = object.content

/-! ## One path -/

variable {policy : ConflictPolicy} {env : Env} {rel : String}
  {path : PathState}

variable {object : RemoteObject} {other : String}

/-- A two-way run deletes an object without a file, recorded or not: the
download has recorded it. -/
theorem PathState.run_remoteOnly
    (file : path.file = none) (found : path.object = some object) :
    (path.run (.twoWay policy) env rel).object = none := by
  simp [PathState.run, Options.twoWay, PathState.pushed, PathState.pulled,
    PathState.deleted, PathState.download, pullDecision, file, found]

/-- A two-way run deletes a file without an object: the upload has recorded
it. -/
theorem PathState.run_localOnly {file : LocalFile}
    (found : path.file = some file) (object : path.object = none) :
    (path.run (.twoWay policy) env rel).file = none := by
  simp [PathState.run, Options.twoWay, PathState.pushed, PathState.pulled,
    PathState.deleted, PathState.upload, pushDecision, object, found]

/-- Nothing comes to a path that is on neither side. -/
theorem PathState.run_nowhere
    {options : Options} (file : path.file = none)
    (object : path.object = none) :
    (path.run options env rel).file = none ∧
      (path.run options env rel).object = none := by
  simp only [PathState.run, PathState.pushed, PathState.pulled, file, object,
    ite_self]
  split
  · simp [PathState.deleted, file, object]
  · exact ⟨file, object⟩

/-- The event is a deletion. -/
def Event.Deletes (event : Event) : Prop :=
  event = .deletedRemote ∨ event = .deletedLocal

variable {options : Options} {progress start : Progress} {event : Event}

theorem mem_pushFile_events (deletes : event.Deletes) :
    (rel, event) ∈ (pushFile options env start progress other).events ↔
      (rel, event) ∈ progress.events := by
  unfold pushFile
  split
  · rfl
  · split <;> rcases deletes with rfl | rfl <;>
      simp [Progress.upload, Progress.backup]

theorem mem_pullFile_events (deletes : event.Deletes) :
    (rel, event) ∈ (pullFile options env start progress other).events ↔
      (rel, event) ∈ progress.events := by
  unfold pullFile
  split
  · rfl
  · split
    · rfl
    · rcases deletes with rfl | rfl <;> simp [Progress.backup]
    · split
      · rfl
      · rcases deletes with rfl | rfl <;> simp [Progress.download]

/-- A deletion is of a path that was listed on that side only. -/
def ListedFor (options : Options) (start : Progress) (rel : String)
    (event : Event) : Prop :=
  event = .deletedRemote ∧ localFiles options start rel = none ∧
      (start.bucket rel).isSome = true ∨
    event = .deletedLocal ∧ (localFiles options start rel).isSome = true ∧
      start.bucket rel = none

theorem mem_deleteFile_events
    (member : (rel, event) ∈ (deleteFile options start progress other).events)
    (before : (rel, event) ∈ progress.events →
      ListedFor options start rel event) :
    ListedFor options start rel event := by
  unfold deleteFile at member
  split at member
  case h_1 noFile found =>
    split at member
    · rcases List.mem_append.mp member with earlier | now
      · exact before earlier
      · obtain ⟨rfl, rfl⟩ := Prod.mk.inj (List.mem_singleton.mp now)
        exact .inl ⟨rfl, noFile, by rw [found]; rfl⟩
    · exact before member
  case h_2 found noObject =>
    split at member
    · rcases List.mem_append.mp member with earlier | now
      · exact before earlier
      · obtain ⟨rfl, rfl⟩ := Prod.mk.inj (List.mem_singleton.mp now)
        exact .inr ⟨rfl, by rw [found]; rfl, noObject⟩
    · exact before member
  case h_3 => exact before member
  case h_4 => exact before member

/-! ## The whole run -/

variable {orders : Orders}

/-- Deletions in a run are of paths that were listed on one side. -/
theorem listedFor_of_run (fresh : start.events = []) (deletes : event.Deletes)
    (member : (rel, event) ∈ (runOnce options env orders start).events) :
    ListedFor options start rel event := by
  have begun : (rel, event) ∉ start.events := by
    rw [fresh]
    exact List.not_mem_nil
  have pushes : (rel, event) ∉ (pushed options env orders start).events := by
    unfold pushed
    split
    · refine foldl_keeps
        (fun progress : Progress => (rel, event) ∉ progress.events)
        (fun progress other kept => ?_) _ begun
      rwa [mem_pushFile_events deletes]
    · exact begun
  have pulls : (rel, event) ∉ (pulled options env orders start).events := by
    unfold pulled
    split
    · refine foldl_keeps
        (fun progress : Progress => (rel, event) ∉ progress.events)
        (fun progress other kept => ?_) _ pushes
      rwa [mem_pullFile_events deletes]
    · exact pushes
  unfold runOnce at member
  split at member
  · exact foldl_keeps
      (fun progress : Progress => (rel, event) ∈ progress.events →
        ListedFor options start rel event)
      (fun progress other kept member =>
        mem_deleteFile_events member kept) _
      (fun member => absurd member pulls) member
  · exact absurd member pulls

theorem folder_of_shown (progress : Progress) (shown : hidden rel = false) :
    (progress.at rel).file = progress.folder rel := by
  simp [Progress.at, shown]

/-- An object where the backups go is recorded by the pull loop, whatever is in
the folder. -/
theorem pullFile_records {current : RemoteObject}
    (listed : start.bucket rel = some object)
    (apart : ∀ content, env.fileHash content ≠ trimQuotes object.etag)
    (found : progress.bucket rel = some current) :
    ((pullFile options env start progress rel).files rel).isSome = true ∧
      (pullFile options env start progress rel).bucket rel =
        some current := by
  have unknown : progress.files rel = none →
      pullDecision options.conflictPolicy env.fileHash (progress.folder rel)
        object (progress.prev rel) = .transfer := by
    intro unrecorded
    cases progress.folder rel with
    | none => rfl
    | some file =>
      simp [pullDecision, isConflict, Progress.prev, unrecorded,
        FileState.unknown, apart]
  unfold pullFile
  rw [listed]
  dsimp only
  cases recorded : progress.files rel with
  | none =>
    rw [unknown recorded]
    simp [Progress.download, found]
  | some saved =>
    split
    · exact ⟨by rw [recorded]; rfl, found⟩
    · exact ⟨by simp [Progress.backup, recorded], found⟩
    · simp [Progress.download, found]

theorem deleteFile_deletes (other : String) (push : options.push = true)
    (unlisted : localFiles options start rel = none)
    (listed : start.bucket rel = some object)
    (holds : other = rel ∨ progress.bucket rel = none ∧ (rel, .deletedRemote)
      ∈ progress.events) :
    (deleteFile options start progress other).bucket rel = none ∧
      (rel, .deletedRemote) ∈
        (deleteFile options start progress other).events := by
  by_cases own : other = rel
  · subst own
    simp [deleteFile, unlisted, listed, push, Progress.deleteRemote]
  · have same : (deleteFile options start progress other).at rel =
        progress.at rel := deleteFile_of_ne own
    obtain ⟨gone, member⟩ := holds.resolve_left own
    refine ⟨(congrArg PathState.object same).trans gone, ?_⟩
    rw [← Progress.mem_events_at, same, Progress.mem_events_at]
    exact member

/-- An object where the backups go is deleted. -/
theorem hidden_object_deleted
    (enumerate : orders.Enumerate (.twoWay policy) env start)
    (hid : hidden rel = true) (listed : start.bucket rel = some object)
    (apart : ∀ content, env.fileHash content ≠ trimQuotes object.etag) :
    (runOnce (.twoWay policy) env orders start).bucket rel = none ∧
      (rel, .deletedRemote) ∈
        (runOnce (.twoWay policy) env orders start).events := by
  have pushes : (pushed (.twoWay policy) env orders start).bucket rel =
      some object := by
    have unchanged := congrArg PathState.object (pushed_at enumerate rel)
    simpa [PathState.pushed, Progress.at, hid, listed] using unchanged
  have untouched : ∀ progress other, other ≠ rel →
      (pullFile (.twoWay policy) env start progress other).bucket rel =
          progress.bucket rel ∧
        (pullFile (.twoWay policy) env start progress other).files rel =
          progress.files rel := by
    intro progress other differs
    have same : (pullFile (.twoWay policy) env start progress other).at rel =
      progress.at rel := pullFile_of_ne differs
    exact ⟨congrArg PathState.object same, congrArg PathState.saved same⟩
  have pulls : ((pulled (.twoWay policy) env orders start).files rel).isSome =
        true ∧
      (pulled (.twoWay policy) env orders start).bucket rel = some object :=
    foldl_brings (fun progress : Progress => progress.bucket rel = some object)
      (fun progress : Progress => (progress.files rel).isSome = true ∧
        progress.bucket rel = some object)
      ((enumerate.pull.2 rel).mpr (by rw [listed]; rfl))
      (fun progress other differs found => by
        rw [(untouched progress other differs).1, found])
      (fun progress found => pullFile_records listed apart found)
      (fun progress other found => by
        by_cases own : other = rel
        · rw [own]
          exact pullFile_records listed apart found.2
        · rw [(untouched progress other own).1,
            (untouched progress other own).2]
          exact found)
      pushes
  have unlisted : localFiles (.twoWay policy) start rel = none := by
    simp [localFiles, hid]
  exact foldl_brings (fun _ => True)
    (fun progress : Progress => progress.bucket rel = none ∧
      (rel, .deletedRemote) ∈ progress.events)
    ((enumerate.delete.2 rel).mpr pulls.1) (fun _ _ _ _ => trivial)
    (fun progress _ => deleteFile_deletes rel rfl unlisted listed (.inl rfl))
    (fun progress other holds =>
      deleteFile_deletes other rfl unlisted listed (.inr holds)) trivial

/-- The hash of a file is not the ETag of an object where the backups go. -/
def HashesApart (env : Env) (start : Progress) : Prop :=
  ∀ rel object, hidden rel = true → start.bucket rel = some object →
    ∀ content, env.fileHash content ≠ trimQuotes object.etag

/-- A path that is on one side only does not end on both. -/
theorem not_copied
    (enumerate : orders.Enumerate (.twoWay policy) env start)
    (apart : HashesApart env start) (oneSided : start.OneSided rel) :
    ¬ ∃ file object,
      (runOnce (.twoWay policy) env orders start).folder rel = some file ∧
      (runOnce (.twoWay policy) env orders start).bucket rel = some object ∧
      file.content = object.content := by
  rintro ⟨file, object, inFolder, inBucket, -⟩
  cases listed : start.bucket rel with
  | some remote =>
    have missing : start.folder rel = none := by
      simpa [Progress.OneSided, listed] using oneSided
    have gone : (runOnce (.twoWay policy) env orders start).bucket rel =
        none := by
      cases hid : hidden rel with
      | true =>
        exact (hidden_object_deleted enumerate hid listed
          (apart rel remote hid listed)).1
      | false =>
        have after := runOnce_at enumerate rel (by simp [hid])
        have unlisted : (start.at rel).file = none := by
          rw [folder_of_shown start hid, missing]
        exact (congrArg PathState.object after).trans
          (PathState.run_remoteOnly unlisted listed)
    rw [inBucket] at gone
    cases gone
  | none =>
    have after := runOnce_at enumerate rel fun _ => listed
    cases hid : hidden rel with
    | true =>
      have unlisted : (start.at rel).file = none := by
        simp [Progress.at, hid]
      have gone := (congrArg PathState.object after).trans
        (PathState.run_nowhere unlisted listed).2
      have kept := inBucket.symm.trans gone
      cases kept
    | false =>
      cases found : (start.at rel).file with
      | none =>
        rw [folder_of_shown start hid] at found
        simp [Progress.OneSided, listed, found] at oneSided
      | some present =>
        have gone := (congrArg PathState.file after).trans
          (PathState.run_localOnly found listed)
        rw [folder_of_shown _ hid, inFolder] at gone
        cases gone

theorem folder_of_listed (rel : String)
    (listed : (localFiles (.twoWay policy) start rel).isSome = true) :
    (start.folder rel).isSome = true := by
  unfold localFiles at listed
  split at listed
  · exact listed
  · cases listed

theorem folder_of_unlisted (shown : hidden rel = false)
    (unlisted : localFiles (.twoWay policy) start rel = none) :
    start.folder rel = none := by
  simpa [localFiles, Options.twoWay, shown] using unlisted

/-- A two-way run is lossless if and only if every path that is on one side
only was synchronised before and no path where the backups go is on both
sides. -/
theorem two_way_run_lossless
    (enumerate : orders.Enumerate (.twoWay policy) env start)
    (apart : HashesApart env start) (fresh : start.events = []) :
    Lossless start (runOnce (.twoWay policy) env orders start) ↔
      (∀ rel, start.OneSided rel → (start.files rel).isSome = true) ∧
      ∀ rel, hidden rel = true → (start.bucket rel).isSome = true →
        start.folder rel = none := by
  constructor
  · intro lossless
    refine ⟨fun rel oneSided => ?_, fun rel hid listed => ?_⟩
    · by_contra unrecorded
      exact not_copied enumerate apart oneSided (lossless.copied rel oneSided
        (Option.not_isSome_iff_eq_none.mp unrecorded))
    · obtain ⟨object, found⟩ := Option.isSome_iff_exists.mp listed
      exact (lossless.remote rel (hidden_object_deleted enumerate hid found
        (apart rel object hid found)).2).2
  · rintro ⟨recorded, backups⟩
    refine ⟨fun rel member => ?_, fun rel member => ?_, ?_⟩
    · obtain ⟨-, unlisted, object⟩ | ⟨impossible, -⟩ :=
        listedFor_of_run fresh (.inl rfl) member
      · have missing : start.folder rel = none := by
          cases hid : hidden rel with
          | true => exact backups rel hid object
          | false => exact folder_of_unlisted hid unlisted
        refine ⟨recorded rel ?_, missing⟩
        simp [Progress.OneSided, missing, object]
      · cases impossible
    · obtain ⟨impossible, -⟩ | ⟨-, listed, missing⟩ :=
        listedFor_of_run fresh (.inr rfl) member
      · cases impossible
      · refine ⟨recorded rel ?_, missing⟩
        simp [Progress.OneSided, folder_of_listed rel listed, missing]
    · intro rel oneSided unrecorded
      have found := recorded rel oneSided
      rw [unrecorded] at found
      cases found

/-! ## A new file -/

/-- Clocks and hashes for fixed runs: the hash of a file and the ETag of an
object differ. -/
def plainEnv (now : Time) : Env where
  fileHash content := "sha" ++ String.ofList (content.map fun byte =>
    Char.ofNat (byte.toNat + 97))
  etagOf content := "md5" ++ String.ofList (content.map fun byte =>
    Char.ofNat (byte.toNat + 97))
  uploadedAt _ := now
  pushedAt _ := now
  pulledAt _ := now
  backupName rel _ := rel

/-- One file in the folder and an empty bucket. -/
def oneFile (files : String → Option FileState) : Progress where
  folder := Function.update (fun _ => none) "a" (some ⟨[97], 1⟩)
  bucket _ := none
  files := files
  events := []

/-- The record of a path that was synchronised before. -/
def onlyRecord : String → Option FileState :=
  Function.update (fun _ => none) "a" (some ⟨"shaa", 1, 1, 2⟩)

def onePath : Orders := ⟨["a"], [], ["a"]⟩

theorem hidden_a : hidden "a" = false := by decide

section

variable (files : String → Option FileState)
  (others : ∀ rel, rel ≠ "a" → files rel = none)

include others

omit others in
theorem oneFile_apart :
    HashesApart (plainEnv 3) (oneFile files) := by
  intro rel object hid listed
  cases listed

theorem oneFile_files
    (rel : String) :
    ((pulled (.twoWay .lastWriteWins) (plainEnv 3) onePath
      (oneFile files)).files rel).isSome = true ↔ rel = "a" := by
  have pushes : (pulled (.twoWay .lastWriteWins) (plainEnv 3) onePath
      (oneFile files)) = (oneFile files).upload (plainEnv 3) "a"
        ⟨[97], 1⟩ := by
    simp [pulled, pushed, onePath, Options.twoWay, pushFile, localFiles,
      oneFile, pushDecision, hidden_a]
  rw [pushes]
  by_cases own : rel = "a"
  · subst own
    simp [Progress.upload]
  · simp [Progress.upload, oneFile, own, others rel own]

theorem onePath_enumerate :
    onePath.Enumerate (.twoWay .lastWriteWins) (plainEnv 3)
      (oneFile files) where
  push := by
    refine ⟨List.nodup_singleton _, fun rel => ?_⟩
    by_cases own : rel = "a"
    · subst own
      simp [onePath, localFiles, Options.twoWay, oneFile, hidden_a]
    · simp [onePath, localFiles, oneFile, own]
  pull := ⟨List.nodup_nil, fun rel => by simp [onePath, oneFile]⟩
  delete := by
    refine ⟨List.nodup_singleton _, fun rel => ?_⟩
    rw [oneFile_files files others]
    exact List.mem_singleton

end

/-- A new file is uploaded and then deleted from the folder. -/
theorem two_way_run_deletes_new_file :
    onePath.Enumerate (.twoWay .lastWriteWins) (plainEnv 3)
        (oneFile fun _ => none) ∧
      HashesApart (plainEnv 3) (oneFile fun _ => none) ∧
      (oneFile fun _ => none).OneSided "a" ∧
      (runOnce (.twoWay .lastWriteWins) (plainEnv 3) onePath
        (oneFile fun _ => none)).events =
          [("a", .uploaded), ("a", .deletedLocal)] ∧
      (runOnce (.twoWay .lastWriteWins) (plainEnv 3) onePath
        (oneFile fun _ => none)).folder "a" = none ∧
      ¬ Lossless (oneFile fun _ => none)
        (runOnce (.twoWay .lastWriteWins) (plainEnv 3) onePath
          (oneFile fun _ => none)) := by
  have enumerate := onePath_enumerate (fun _ => none) fun _ _ => rfl
  have oneSided : (oneFile fun _ => none).OneSided "a" := by
    simp [Progress.OneSided, oneFile]
  refine ⟨enumerate, oneFile_apart _, oneSided, by decide,
    by decide, fun lossless => ?_⟩
  exact not_copied enumerate (oneFile_apart _) oneSided
    (lossless.copied "a" oneSided rfl)

/-- A file that was synchronised before and is gone from the bucket is deleted
from the folder, and nothing is lost by that. -/
theorem two_way_run_deletes_known_file :
    Lossless (oneFile onlyRecord)
        (runOnce (.twoWay .lastWriteWins) (plainEnv 3) onePath
          (oneFile onlyRecord)) ∧
      ("a", .deletedLocal) ∈ (runOnce (.twoWay .lastWriteWins) (plainEnv 3)
        onePath (oneFile onlyRecord)).events := by
  have others : ∀ rel, rel ≠ "a" → onlyRecord rel = none :=
    fun rel apart => Function.update_of_ne apart _ _
  refine ⟨(two_way_run_lossless (onePath_enumerate onlyRecord others)
    (oneFile_apart _) rfl).mpr ⟨fun rel oneSided => ?_, fun _ _ listed => by
      cases listed⟩, by decide⟩
  by_contra unrecorded
  have apart : rel ≠ "a" := by
    rintro rfl
    exact unrecorded rfl
  simp [Progress.OneSided, oneFile, apart] at oneSided

end DataSafe.Sync
