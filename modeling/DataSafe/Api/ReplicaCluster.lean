import DataSafe.Auth.Token
import DataSafe.Base.Machine
import DataSafe.Storage.FSBackend

/-!
# Copies of one object on several nodes

The nodes of a group share one metadata store, and each has a disk of its own.
The leader stores an object on its disk, commits the row and pushes the stored
bytes to its peers.  A node that finds no file for a row pulls one from a
peer.  Push and pull compare the bytes with the row before they are stored.

The model has one key of a bucket without versioning.  Each access to a disk
and each metadata call is a step of its own.  What was sent stays on the wire:
it may arrive late, more than once or never, and a call may end at any step.
The authentication of peers and the proxy in front of followers are left out,
so every node may be asked for the object.
-/

namespace DataSafe.Api

open Base Metadata Storage

/-! ## Checks of stored bytes -/

/-- `strings.Trim(text, "\"")` -/
def trimQuotes (text : String) : String :=
  String.ofList (((text.toList.dropWhile (· = '"')).reverse.dropWhile
    (· = '"')).reverse)

/-- `strings.EqualFold` with a text of ASCII letters and digits -/
def equalFold (left right : String) : Bool :=
  left.toList.map Auth.foldRune = right.toList.map Auth.foldRune

/-- `etagEqual` -/
def etagEqual (stored md5hex : String) : Bool :=
  let stored := trimQuotes stored
  stored ≠ "" && equalFold stored md5hex

/-- `replicaPayloadOK` -/
def replicaPayloadOK (record : ObjectRecord) (size : Nat)
    (md5hex : String) : Bool :=
  if etagEqual record.etag md5hex = false then false
  else if record.encryption.any ObjectEncryption.sealed then true
  else record.size = size

/-- A digest in hexadecimal digits. -/
def HexDigest (digest : String) : Prop :=
  digest ≠ "" ∧ '"' ∉ digest.toList

theorem dropWhile_quote
    {runes : List Char} (free : '"' ∉ runes) :
    runes.dropWhile (· = '"') = runes := by
  cases runes with
  | nil => rfl
  | cons rune runes =>
    refine List.dropWhile_cons_of_neg ?_
    simp only [decide_eq_true_eq]
    rintro rfl
    exact free List.mem_cons_self

theorem trimQuotes_quoteETag
    {digest : String} (hex : HexDigest digest) :
    trimQuotes (quoteETag digest) = digest := by
  have free := hex.2
  have quoted : (quoteETag digest).toList =
      '"' :: (digest.toList ++ ['"']) := by
    simp [quoteETag]
  have stripped : (digest.toList ++ ['"']).dropWhile (· = '"') =
      digest.toList ++ ['"'] := by
    cases runes : digest.toList with
    | nil => exact absurd (String.toList_eq_nil_iff.mp runes) hex.1
    | cons rune rest =>
      refine List.dropWhile_cons_of_neg ?_
      simp only [decide_eq_true_eq]
      rintro rfl
      exact free (runes ▸ List.mem_cons_self)
  rw [trimQuotes, quoted, List.dropWhile_cons_of_pos (by simp), stripped,
    List.reverse_append, List.reverse_singleton, List.singleton_append,
    List.dropWhile_cons_of_pos (by simp),
    dropWhile_quote (by simpa using free), List.reverse_reverse,
    String.ofList_toList]

/-- The ETag that the backend reports is that of the bytes. -/
theorem etagEqual_quoteETag
    {digest : String} (hex : HexDigest digest) :
    etagEqual (quoteETag digest) digest = true := by
  simp [etagEqual, trimQuotes_quoteETag hex, hex.1, equalFold]

theorem etagEqual_of_payload
    {record : ObjectRecord} {size : Nat} {md5hex : String}
    (accepted : replicaPayloadOK record size md5hex = true) :
    etagEqual record.etag md5hex = true := by
  unfold replicaPayloadOK at accepted
  split_ifs at accepted with differs
  all_goals exact Bool.eq_true_of_not_eq_false differs

/-! ## Nodes and calls -/

abbrev NodeID := Nat

/-- What a put stores, with the fields of its row that do not depend on it. -/
structure StoredUpload where
  stored : Bytes
  /-- The count of plain bytes when the object is sealed. -/
  plainSize : Option Int
  draft : ObjectRecord

/-- The next step of a call. -/
inductive ReplicaStage where
  /-- `putObject` waits for the lock of the key. -/
  | putLock (upload : StoredUpload)
  | putPurge (upload : StoredUpload)
  | putWrite (upload : StoredUpload)
  | putStat (upload : StoredUpload) (etag : String)
  | putCommit (record : ObjectRecord)
  /-- `replicateStoredObject` reads the file for the peers. -/
  | putReplicate
  /-- `deleteObject` has found the row. -/
  | deleteCommit
  | deleteFile
  /-- `handleObjectReplica` has read the body of a push. -/
  | receiveCheck (bytes : Bytes)
  | receiveStore (checked : ObjectRecord) (bytes : Bytes)
  | receiveUndo
  | getLookup
  | getOpen (record : ObjectRecord)
  /-- The file is missing and peers are asked. -/
  | getFetch (record : ObjectRecord)
  | pullCheck (record : ObjectRecord) (bytes : Bytes)
  | pullStore (record checked : ObjectRecord) (bytes : Bytes)
  | getReopen (record : ObjectRecord)
  /-- `handleObjectReplica` answers a pull of a node. -/
  | serveLookup (puller : NodeID)
  | serveOpen (puller : NodeID) (record : ObjectRecord)

/-- What a node has sent to another one. -/
inductive ReplicaMessage where
  | push (receiver : NodeID) (bytes : Bytes)
  | answer (receiver : NodeID) (bytes : Bytes)

/-- Where the file of a node stands against the row. -/
inductive CopyState where
  | behind
  /-- Written by a put that has not committed. -/
  | writing (call : Nat)
  /-- Stored since the row was last changed. -/
  | current
deriving DecidableEq

/-- The nodes, the calls on them and what `GetObject` has returned. -/
structure Cluster where
  row : Option ObjectRecord
  files : NodeID → Option Bytes
  /-- The call that holds the lock of the key on a node. -/
  locks : NodeID → Option Nat
  leader : NodeID
  calls : Nat → Option (NodeID × ReplicaStage)
  wire : List ReplicaMessage
  served : List (ObjectRecord × Bytes)
  /-- No call reads this; it says what came after what. -/
  copies : NodeID → CopyState

def Cluster.started (leader : NodeID) : Cluster where
  row := none
  files := fun _ => none
  locks := fun _ => none
  leader := leader
  calls := fun _ => none
  wire := []
  served := []
  copies := fun _ => .behind

inductive ClusterEvent where
  | elect (node : NodeID)
  | put (call : Nat) (node : NodeID) (upload : StoredUpload)
  | delete (call : Nat) (node : NodeID)
  | get (call : Nat) (node : NodeID)
  /-- A waiting read asks a peer. -/
  | ask (call : Nat) (peer : NodeID) (serving : Nat)
  /-- A push arrives. -/
  | deliver (place : Nat) (call : Nat)
  /-- The answer of a peer arrives. -/
  | answer (place : Nat) (call : Nat)
  /-- A call goes on; the error of a purge is ignored. -/
  | advance (call : Nat) (peers : List NodeID) (purgeFails : Bool)
  /-- A call ends with an error, or its node stops. -/
  | giveUp (call : Nat)

namespace Cluster

/-- Begin a call under a number that no other call has. -/
def begin (state : Cluster) (call : Nat) (node : NodeID)
    (stage : ReplicaStage) : Cluster :=
  match state.calls call with
  | some _ => state
  | none =>
    { state with
      calls := Function.update state.calls call (some (node, stage)) }

def moveTo (state : Cluster) (call : Nat) (node : NodeID)
    (stage : ReplicaStage) : Cluster :=
  { state with
    calls := Function.update state.calls call (some (node, stage)) }

/-- A call returns and gives back its lock. -/
def finish (state : Cluster) (call : Nat) (node : NodeID) : Cluster :=
  { state with
    calls := Function.update state.calls call none
    locks :=
      if state.locks node = some call then
        Function.update state.locks node none
      else state.locks }

def setFile (state : Cluster) (node : NodeID) (file : Option Bytes) :
    Cluster :=
  { state with files := Function.update state.files node file }

/-- A replica is stored on a node. -/
def storeCopy (state : Cluster) (node : NodeID) (bytes : Bytes) : Cluster :=
  { state.setFile node (some bytes) with
    copies := Function.update state.copies node .current }

/-- A put writes its bytes. -/
def writeCopy (state : Cluster) (node : NodeID) (call : Nat) (bytes : Bytes) :
    Cluster :=
  { state.setFile node (some bytes) with
    copies := Function.update state.copies node (.writing call) }

/-- A put commits its row. -/
def commitRow (state : Cluster) (node : NodeID) (call : Nat)
    (record : ObjectRecord) : Cluster :=
  { state with
    row := some record
    copies := fun other =>
      if other = node ∧ state.copies node = .writing call then .current
      else .behind }

/-- A delete commits. -/
def dropRow (state : Cluster) : Cluster :=
  { state with row := none, copies := fun _ => .behind }

def send (state : Cluster) (messages : List ReplicaMessage) : Cluster :=
  { state with wire := state.wire ++ messages }

def serve (state : Cluster) (record : ObjectRecord) (bytes : Bytes) :
    Cluster :=
  { state with served := (record, bytes) :: state.served }

/-- The next step of a call. -/
def advance (md5 : Bytes → String) (state : Cluster) (call : Nat)
    (peers : List NodeID) (purgeFails : Bool) (node : NodeID) :
    ReplicaStage → Cluster
  | .putLock upload =>
    match state.locks node with
    | some _ => state
    | none =>
      { state.moveTo call node (.putPurge upload) with
        locks := Function.update state.locks node (some call) }
  | .putPurge upload =>
    if purgeFails then state.moveTo call node (.putWrite upload)
    else (state.setFile node none).moveTo call node (.putWrite upload)
  | .putWrite upload =>
    (state.writeCopy node call upload.stored).moveTo call node
      (.putStat upload (quoteETag (md5 upload.stored)))
  | .putStat upload etag =>
    match state.files node with
    | none => state.finish call node
    | some bytes =>
      state.moveTo call node (.putCommit
        { upload.draft with
          etag := etag
          size := upload.plainSize.getD bytes.length })
  | .putCommit record =>
    (state.commitRow node call record).moveTo call node .putReplicate
  | .putReplicate =>
    match state.files node with
    | none => state.finish call node
    | some bytes =>
      (state.send (peers.map (ReplicaMessage.push · bytes))).finish call node
  | .deleteCommit =>
    match state.row with
    | none => state.finish call node
    | some _ => state.dropRow.moveTo call node .deleteFile
  | .deleteFile => (state.setFile node none).finish call node
  | .receiveCheck bytes =>
    match state.row with
    | none => state.finish call node
    | some record =>
      if replicaPayloadOK record bytes.length (md5 bytes) then
        state.moveTo call node (.receiveStore record bytes)
      else state.finish call node
  | .receiveStore _ bytes =>
    if etagEqual (quoteETag (md5 bytes)) (md5 bytes) then
      (state.storeCopy node bytes).finish call node
    else (state.storeCopy node bytes).moveTo call node .receiveUndo
  | .receiveUndo => (state.setFile node none).finish call node
  | .getLookup =>
    match state.row with
    | none => state.finish call node
    | some record => state.moveTo call node (.getOpen record)
  | .getOpen record =>
    match state.files node with
    | none => state.moveTo call node (.getFetch record)
    | some bytes => (state.serve record bytes).finish call node
  | .getFetch _ => state
  | .pullCheck record bytes =>
    match state.row with
    | none => state.moveTo call node (.getFetch record)
    | some checked =>
      if replicaPayloadOK checked bytes.length (md5 bytes) then
        state.moveTo call node (.pullStore record checked bytes)
      else state.moveTo call node (.getFetch record)
  | .pullStore record _ bytes =>
    if etagEqual (quoteETag (md5 bytes)) (md5 bytes) then
      (state.storeCopy node bytes).moveTo call node (.getReopen record)
    else (state.storeCopy node bytes).moveTo call node (.getFetch record)
  | .getReopen record =>
    match state.files node with
    | none => state.finish call node
    | some bytes => (state.serve record bytes).finish call node
  | .serveLookup puller =>
    match state.row with
    | none => state.finish call node
    | some record => state.moveTo call node (.serveOpen puller record)
  | .serveOpen puller record =>
    match state.files node with
    | none => state.finish call node
    | some bytes =>
      if replicaPayloadOK record bytes.length (md5 bytes) then
        (state.send [.answer puller bytes]).finish call node
      else state.finish call node

end Cluster

/-- A follower refuses writes. -/
def Cluster.write (state : Cluster) (call : Nat) (node : NodeID)
    (stage : ReplicaStage) : Cluster :=
  if node = state.leader then state.begin call node stage else state

def clusterStep (md5 : Bytes → String) (state : Cluster) :
    ClusterEvent → Cluster
  | .elect node => { state with leader := node }
  | .put call node upload => state.write call node (.putLock upload)
  | .delete call node => state.write call node .deleteCommit
  | .get call node => state.begin call node .getLookup
  | .ask call peer serving =>
    match state.calls call with
    | some (node, .getFetch _) =>
      state.begin serving peer (.serveLookup node)
    | _ => state
  | .deliver place call =>
    match state.wire[place]? with
    | some (.push node bytes) => state.begin call node (.receiveCheck bytes)
    | _ => state
  | .answer place call =>
    match state.calls call, state.wire[place]? with
    | some (node, .getFetch record), some (.answer puller bytes) =>
      if puller = node then
        state.moveTo call node (.pullCheck record bytes)
      else state
    | _, _ => state
  | .advance call peers purgeFails =>
    match state.calls call with
    | some (node, stage) =>
      state.advance md5 call peers purgeFails node stage
    | none => state
  | .giveUp call =>
    match state.calls call with
    | some (node, _) => state.finish call node
    | none => state

/-! ## Copies that have caught up -/

/-- The bytes have the ETag of the record. -/
def MatchesETag (md5 : Bytes → String) (record : ObjectRecord)
    (bytes : Bytes) : Prop :=
  etagEqual record.etag (md5 bytes) = true

instance (md5 : Bytes → String) (record : ObjectRecord) (bytes : Bytes) :
    Decidable (MatchesETag md5 record bytes) :=
  inferInstanceAs (Decidable (_ = _))

/--
A file is opened on a node that has stored it since the row was last changed,
for a record that is still the row.  A replica is stored under the row that it
was compared with.
-/
def StageInStep (state : Cluster) (node : NodeID) : ReplicaStage → Prop
  | .getOpen record | .getReopen record =>
    (state.files node).isSome →
      state.row = some record ∧ state.copies node = .current
  | .receiveStore checked _ | .pullStore _ checked _ =>
    state.row = some checked
  | _ => True

def InStep (state : Cluster) : ClusterEvent → Prop
  | .advance call _ _ => ∀ place ∈ state.calls call,
      StageInStep state place.1 place.2
  | _ => True

instance (state : Cluster) (node : NodeID) :
    (stage : ReplicaStage) → Decidable (StageInStep state node stage)
  | .getOpen _ | .getReopen _ => inferInstanceAs (Decidable (_ → _))
  | .receiveStore _ _ | .pullStore _ _ _ =>
    inferInstanceAs (Decidable (_ = _))
  | .putLock _ | .putPurge _ | .putWrite _ | .putStat _ _ | .putCommit _
  | .putReplicate | .deleteCommit | .deleteFile | .receiveCheck _
  | .receiveUndo | .getLookup | .getFetch _ | .pullCheck _ _
  | .serveLookup _ | .serveOpen _ _ => inferInstanceAs (Decidable True)

instance (state : Cluster) :
    (event : ClusterEvent) → Decidable (InStep state event)
  | .advance call _ _ => inferInstanceAs (Decidable
      (∀ place ∈ state.calls call, StageInStep state place.1 place.2))
  | .elect _ | .put _ _ _ | .delete _ _ | .get _ _ | .ask _ _ _
  | .deliver _ _ | .answer _ _ | .giveUp _ =>
    inferInstanceAs (Decidable True)

/-- What a call knows about the file of its node and about its bytes. -/
def StageMatches (md5 : Bytes → String) (copy : CopyState)
    (file : Option Bytes) (call : Nat) : ReplicaStage → Prop
  | .putStat _ etag => copy = .writing call →
      ∀ bytes ∈ file, etag = quoteETag (md5 bytes)
  | .putCommit record => copy = .writing call →
      ∀ bytes ∈ file, record.etag = quoteETag (md5 bytes)
  | .receiveStore checked bytes | .pullStore _ checked bytes =>
    MatchesETag md5 checked bytes
  | _ => True

/-- A copy that has caught up has the ETag of the row. -/
structure CaughtUp (md5 : Bytes → String) (state : Cluster) : Prop where
  files : ∀ record ∈ state.row, ∀ node, state.copies node = .current →
    ∀ bytes ∈ state.files node, MatchesETag md5 record bytes
  calls : ∀ call, ∀ place ∈ state.calls call,
    StageMatches md5 (state.copies place.1) (state.files place.1) call
      place.2
  served : ∀ pair ∈ state.served, MatchesETag md5 pair.1 pair.2

variable {md5 : Bytes → String} {state : Cluster}

theorem caughtUp_started (leader : NodeID) :
    CaughtUp md5 (.started leader) where
  files := fun _ member => by cases member
  calls := fun _ _ member => by cases member
  served := fun _ member => by cases member

/-- A call that no longer has the file of its node knows nothing of it. -/
theorem StageMatches.other
    {copy other : CopyState} {file changed : Option Bytes} {call : Nat}
    {stage : ReplicaStage} (known : StageMatches md5 copy file call stage)
    (apart : other = .writing call →
      copy = .writing call ∧ ∀ bytes ∈ changed, bytes ∈ file) :
    StageMatches md5 other changed call stage := by
  cases stage with
  | putStat upload etag =>
    exact fun writing bytes member =>
      known (apart writing).1 bytes ((apart writing).2 bytes member)
  | putCommit record =>
    exact fun writing bytes member =>
      known (apart writing).1 bytes ((apart writing).2 bytes member)
  | _ => exact known

namespace CaughtUp

variable {call : Nat} {node : NodeID} {stage : ReplicaStage}
  {record : ObjectRecord} {bytes : Bytes}

theorem moveTo
    (caught : CaughtUp md5 state)
    (known : StageMatches md5 (state.copies node) (state.files node) call
      stage) :
    CaughtUp md5 (state.moveTo call node stage) where
  files := caught.files
  served := caught.served
  calls := by
    intro other place member
    simp only [Cluster.moveTo, Function.update_apply] at member
    split_ifs at member with same
    · obtain rfl := Option.mem_some_iff.mp member
      exact same ▸ known
    · exact caught.calls other place member

theorem begin
    (caught : CaughtUp md5 state)
    (known : StageMatches md5 (state.copies node) (state.files node) call
      stage) :
    CaughtUp md5 (state.begin call node stage) := by
  unfold Cluster.begin
  cases state.calls call with
  | some _ => exact caught
  | none => exact caught.moveTo known

theorem finish (caught : CaughtUp md5 state) :
    CaughtUp md5 (state.finish call node) where
  files := caught.files
  served := caught.served
  calls := by
    intro other place member
    simp only [Cluster.finish, Function.update_apply] at member
    split_ifs at member with same
    · cases member
    · exact caught.calls other place member

theorem removeFile (caught : CaughtUp md5 state) :
    CaughtUp md5 (state.setFile node none) where
  served := caught.served
  files := by
    intro record present other current bytes member
    simp only [Cluster.setFile, Function.update_apply] at member
    split_ifs at member
    · cases member
    · exact caught.files record present other current bytes member
  calls := by
    intro other place member
    refine (caught.calls other place member).other fun writing =>
      ⟨writing, fun bytes member => ?_⟩
    simp only [Cluster.setFile, Function.update_apply] at member
    split_ifs at member
    · cases member
    · exact member

/-- A replica that was compared with the row takes the place of the file. -/
theorem storeCopy
    (caught : CaughtUp md5 state) (row : state.row = some record)
    (fits : MatchesETag md5 record bytes) :
    CaughtUp md5 (state.storeCopy node bytes) where
  served := caught.served
  files := by
    intro committed present other current found member
    obtain rfl := Option.some.inj (row.symm.trans present)
    simp only [Cluster.storeCopy, Cluster.setFile, Function.update_apply]
      at current member
    split_ifs at current member
    · obtain rfl := Option.mem_some_iff.mp member
      exact fits
    · exact caught.files record row other current found member
  calls := by
    intro other place member
    refine (caught.calls other place member).other fun writing => ?_
    simp only [Cluster.storeCopy, Cluster.setFile, Function.update_apply]
      at writing ⊢
    split_ifs at writing ⊢
    exact ⟨writing, fun _ => id⟩

/-- A put writes a file that does not count before its commit. -/
theorem writeCopy
    (caught : CaughtUp md5 state) (mine : NodeID × ReplicaStage)
    (own : state.calls call = some mine)
    (before : ∀ copy file, StageMatches md5 copy file call mine.2) :
    CaughtUp md5 (state.writeCopy node call bytes) where
  served := caught.served
  files := by
    intro committed present other current found member
    simp only [Cluster.writeCopy, Cluster.setFile, Function.update_apply]
      at current member
    split_ifs at current member
    exact caught.files committed present other current found member
  calls := by
    intro other place member
    by_cases same : other = call
    · subst same
      obtain rfl := Option.some.inj (own.symm.trans member)
      exact before _ _
    · refine (caught.calls other place member).other fun writing => ?_
      simp only [Cluster.writeCopy, Cluster.setFile, Function.update_apply]
        at writing ⊢
      split_ifs at writing ⊢
      · exact absurd (CopyState.writing.inj writing).symm same
      · exact ⟨writing, fun _ => id⟩

/-- A commit leaves only the file of its own put as a current one. -/
theorem commitRow
    (hex : ∀ bytes, HexDigest (md5 bytes)) (caught : CaughtUp md5 state)
    (known : StageMatches md5 (state.copies node) (state.files node) call
      (.putCommit record)) :
    CaughtUp md5 (state.commitRow node call record) where
  served := caught.served
  files := by
    intro committed present other current found member
    obtain rfl := Option.some.inj present
    simp only [Cluster.commitRow] at current
    split_ifs at current with own
    obtain ⟨rfl, writing⟩ := own
    rw [MatchesETag, known writing found member]
    exact etagEqual_quoteETag (hex found)
  calls := by
    intro other place member
    refine (caught.calls other place member).other fun writing => ?_
    simp only [Cluster.commitRow] at writing
    split_ifs at writing

theorem dropRow (caught : CaughtUp md5 state) :
    CaughtUp md5 state.dropRow where
  served := caught.served
  files := fun _ present => by cases present
  calls := fun other place member =>
    (caught.calls other place member).other fun writing => by
      cases writing

theorem serve (caught : CaughtUp md5 state)
    (fits : MatchesETag md5 record bytes) :
    CaughtUp md5 (state.serve record bytes) where
  files := caught.files
  calls := caught.calls
  served := by
    rw [Cluster.serve, List.forall_mem_cons]
    exact ⟨fits, caught.served⟩

/-- One step of a call. -/
theorem advance
    (hex : ∀ bytes, HexDigest (md5 bytes)) (caught : CaughtUp md5 state)
    (own : state.calls call = some (node, stage))
    (inStep : StageInStep state node stage) (peers : List NodeID)
    (purgeFails : Bool) :
    CaughtUp md5 (state.advance md5 call peers purgeFails node stage) := by
  have known := caught.calls call (node, stage) own
  cases stage with
  | putLock upload =>
    simp only [Cluster.advance]
    cases state.locks node with
    | some _ => exact caught
    | none =>
      have moved : CaughtUp md5
          (state.moveTo call node (.putPurge upload)) :=
        caught.moveTo trivial
      exact { moved with }
  | putPurge upload =>
    simp only [Cluster.advance]
    split_ifs
    · exact caught.moveTo trivial
    · exact caught.removeFile.moveTo trivial
  | putWrite upload =>
    refine (caught.writeCopy (node, .putWrite upload) own fun _ _ =>
      trivial).moveTo fun writing bytes member => ?_
    simp only [Cluster.writeCopy, Cluster.setFile, Function.update_self,
      Option.mem_some_iff] at member
    rw [member]
  | putStat upload etag =>
    simp only [Cluster.advance]
    cases file : state.files node with
    | none => exact caught.finish
    | some bytes =>
      refine caught.moveTo fun writing found member => ?_
      exact known writing found member
  | putCommit record => exact (caught.commitRow hex known).moveTo trivial
  | putReplicate =>
    simp only [Cluster.advance]
    cases state.files node with
    | none => exact caught.finish
    | some bytes =>
      have sent : CaughtUp md5
          (state.send (peers.map (ReplicaMessage.push · bytes))) :=
        { caught with }
      exact sent.finish
  | deleteCommit =>
    simp only [Cluster.advance]
    cases state.row with
    | none => exact caught.finish
    | some record => exact caught.dropRow.moveTo trivial
  | deleteFile => exact caught.removeFile.finish
  | receiveCheck bytes =>
    simp only [Cluster.advance]
    cases state.row with
    | none => exact caught.finish
    | some record =>
      simp only
      split_ifs with accepted
      · exact caught.moveTo (etagEqual_of_payload accepted)
      · exact caught.finish
  | receiveStore checked bytes =>
    rw [Cluster.advance, if_pos (etagEqual_quoteETag (hex bytes))]
    exact (caught.storeCopy inStep known).finish
  | receiveUndo => exact caught.removeFile.finish
  | getLookup =>
    simp only [Cluster.advance]
    cases state.row with
    | none => exact caught.finish
    | some record => exact caught.moveTo trivial
  | getOpen record =>
    simp only [Cluster.advance]
    cases file : state.files node with
    | none => exact caught.moveTo trivial
    | some bytes =>
      obtain ⟨row, current⟩ := inStep (by rw [file]; rfl)
      exact (caught.serve (caught.files record row node current bytes
        file)).finish
  | getFetch record => exact caught
  | pullCheck record bytes =>
    simp only [Cluster.advance]
    cases state.row with
    | none => exact caught.moveTo trivial
    | some checked =>
      simp only
      split_ifs with accepted
      · exact caught.moveTo (etagEqual_of_payload accepted)
      · exact caught.moveTo trivial
  | pullStore record checked bytes =>
    rw [Cluster.advance, if_pos (etagEqual_quoteETag (hex bytes))]
    exact (caught.storeCopy inStep known).moveTo trivial
  | getReopen record =>
    simp only [Cluster.advance]
    cases file : state.files node with
    | none => exact caught.finish
    | some bytes =>
      obtain ⟨row, current⟩ := inStep (by rw [file]; rfl)
      exact (caught.serve (caught.files record row node current bytes
        file)).finish
  | serveLookup puller =>
    simp only [Cluster.advance]
    cases state.row with
    | none => exact caught.finish
    | some record => exact caught.moveTo trivial
  | serveOpen puller record =>
    simp only [Cluster.advance]
    cases state.files node with
    | none => exact caught.finish
    | some bytes =>
      simp only
      split_ifs
      · have sent : CaughtUp md5 (state.send [.answer puller bytes]) :=
          { caught with }
        exact sent.finish
      · exact caught.finish

theorem write (caught : CaughtUp md5 state)
    (known : StageMatches md5 (state.copies node) (state.files node) call
      stage) :
    CaughtUp md5 (state.write call node stage) := by
  unfold Cluster.write
  split_ifs
  · exact caught.begin known
  · exact caught

/-- One event on the nodes. -/
theorem step
    (hex : ∀ bytes, HexDigest (md5 bytes)) (caught : CaughtUp md5 state)
    {event : ClusterEvent} (inStep : InStep state event) :
    CaughtUp md5 (clusterStep md5 state event) := by
  cases event with
  | elect node => exact { caught with }
  | put call node upload => exact caught.write trivial
  | delete call node => exact caught.write trivial
  | get call node => exact caught.begin trivial
  | ask call peer serving =>
    simp only [clusterStep]
    split
    · exact caught.begin trivial
    · exact caught
  | deliver place call =>
    simp only [clusterStep]
    split
    · exact caught.begin trivial
    · exact caught
  | answer place call =>
    simp only [clusterStep]
    split
    · split_ifs
      · exact caught.moveTo trivial
      · exact caught
    · exact caught
  | advance call peers purgeFails =>
    simp only [clusterStep]
    cases own : state.calls call with
    | none => exact caught
    | some place =>
      exact caught.advance hex own (inStep place own) peers purgeFails
  | giveUp call =>
    simp only [clusterStep]
    cases state.calls call with
    | none => exact caught
    | some place => exact caught.finish

end CaughtUp

/--
In a run whose reads open files that have caught up, and whose replicas are
stored under the row that they were compared with, what `GetObject` returns
has the ETag of its record.
-/
theorem served_bytes_match_record
    (md5 : Bytes → String) (hex : ∀ bytes, HexDigest (md5 bytes))
    (leader : NodeID) (events : List ClusterEvent)
    (inStep : Guarded (clusterStep md5) InStep (.started leader) events) :
    ∀ pair ∈ (runAll (clusterStep md5) (.started leader) events).served,
      MatchesETag md5 pair.1 pair.2 :=
  (inStep.invariant (caughtUp_started leader) fun _ _ caught inStep =>
    caught.step hex inStep).served

/-- A digest that is the bytes themselves behind a zero. -/
def spelledDigest (bytes : Bytes) : String :=
  hexEncode (0 :: bytes)

theorem spelledDigest_hex (bytes : Bytes) :
    HexDigest (spelledDigest bytes) := by
  refine ⟨by simp [spelledDigest, hexEncode], fun quote => ?_⟩
  exact absurd (hexEncode_ge quote) (by decide)

/-- A put of plain bytes by node 0, which pushes them to node 1. -/
def pushedPut (bytes : Bytes) : List ClusterEvent :=
  .put 0 0
    { stored := bytes
      plainSize := none
      draft :=
        { bucket := "b", key := "k", size := 0, etag := "", contentType := "",
          versionID := .null, lastModified := 0 } } ::
    List.replicate 6 (.advance 0 [1] false)

/-- The first push arrives and is stored. -/
def firstPushArrives : List ClusterEvent :=
  [.deliver 0 1, .advance 1 [] false, .advance 1 [] false]

/-- A read of node 1. -/
def readFollower : List ClusterEvent :=
  [.get 1 1, .advance 1 [] false, .advance 1 [] false]

/-- A read behind the push of the only put returns its bytes. -/
theorem served_pushed_bytes :
    let events := pushedPut [1] ++ firstPushArrives ++ readFollower
    let final := runAll (clusterStep spelledDigest) (.started 0) events
    final.served.map Prod.snd = [[1]] ∧
      ∀ pair ∈ final.served, MatchesETag spelledDigest pair.1 pair.2 :=
  ⟨by decide,
    served_bytes_match_record spelledDigest spelledDigest_hex 0 _
      (by decide)⟩

/-- When the push of an overwrite is lost, a node serves its older file. -/
theorem served_older_bytes :
    let events := pushedPut [1] ++ firstPushArrives ++ pushedPut [2] ++
      readFollower
    let final := runAll (clusterStep spelledDigest) (.started 0) events
    final.served.map Prod.snd = [[1]] ∧ ¬ ∀ pair ∈ final.served,
        MatchesETag spelledDigest pair.1 pair.2 := by
  decide +kernel

end DataSafe.Api
