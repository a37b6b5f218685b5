import DataSafe.Base.Machine
import Mathlib.Logic.Function.Basic

/-!
# The bridge to Kafka

`execSink` hands events to a child process over a pipe and waits for an
answer.  Requests carry no number: an answer belongs to the request whose turn
it is.  A call that gives up leaves its read behind as `late`, and the next
call waits for that frame and discards it before it writes.  When a child is
replaced, its pipe and a late read of it are forgotten with it.

The model is one of messages: a child answers each request that it received
once and in order, or exits.  A call holds the lock from its first check to
its return, so that calls, restarts and the watcher of a child come one after
the other, while the children, the reads and the clock go on.
-/

namespace DataSafe.Events

open Base

/-! ## Messages -/

/-- The kinds of requests that a call writes. -/
inductive RequestKind where
  | pub
  | health
deriving DecidableEq

inductive ReplyKind where
  | ready
  | fail
  | ok
  | err
  | status
deriving DecidableEq

structure Message where
  kind : ReplyKind
  parts : List String
deriving DecidableEq

/-- The request of a call.  The number is not on the wire. -/
structure Request where
  call : Nat
  kind : RequestKind
deriving DecidableEq

/-! ## Children -/

/-- A child: what it was asked, what it answered, and what was read of it. -/
structure Child where
  asked : List Request := []
  replies : List Message := []
  /-- The number of frames that were read from its output. -/
  taken : Nat := 0
  exited : Bool := false

/-- What `bridgeproto.Read` gives; the index is that of the frame. -/
inductive BridgeRead where
  | failed
  | frame (index : Nat) (message : Message)
deriving DecidableEq

/-- A read of a child's output, and what its channel holds. -/
structure PendingRead where
  child : Nat
  result : Option BridgeRead := none
deriving DecidableEq

/-- What holds the lock. -/
inductive Busy where
  | draining (request : Request)
  | sending (request : Request)
  | waiting (request : Request) (read : PendingRead)
deriving DecidableEq

structure ExecSink where
  children : Nat → Child
  /-- The number of children that were started. -/
  started : Nat
  /-- `cmd`, with its pipes and `waited`. -/
  cmd : Option Nat
  late : Option PendingRead
  quiesced : Bool
  backingOff : Bool
  generation : Nat
  /-- The generation that the timer restarts. -/
  timer : Option Nat
  /-- The number of calls so far. -/
  calls : Nat
  busy : Option Busy

/-- `NewKafkaSink`, once its first child is ready. -/
def ExecSink.initial : ExecSink where
  children := fun _ => {}
  started := 1
  cmd := some 0
  late := none
  quiesced := false
  backingOff := false
  generation := 0
  timer := none
  calls := 0
  busy := none

/-- Why a round trip fails. -/
inductive CallErr where
  | deadline
  | stopped
  | down
  | timedOut (kind : RequestKind)
  | exited
  | unavailable
deriving DecidableEq

/-- What `roundTrip` returns to its call. -/
structure Return where
  request : Request
  result : Except CallErr Message

/-- The error of `Publish` after its round trip: none, or its text. -/
def publishErr (describe : CallErr → String) :
    Except CallErr Message → Option String
  | .error err => some (describe err)
  | .ok message =>
    if message.kind = .ok then none
    else
      match message.parts with
      | text :: _ => some (if text = "" then "produce failed" else text)
      | [] => some "produce failed"

inductive BridgeAction where
  /-- `Publish` begins and ends the quiet of a closed sink. -/
  | wake
  /-- `roundTrip` takes the lock, perhaps too late. -/
  | call (kind : RequestKind) (expired : Bool)
  /-- `drainLateLocked` gets the late frame, sees the exit, or gives up. -/
  | drained
  | drainExit
  | drainTimeout
  /-- The request is written, to a new child if there is none. -/
  | send (starts : Bool) (writes : Bool)
  | receive
  | timeout
  | answer (child : Nat) (message : Message)
  | exit (child : Nat)
  /-- The read that the call waits for, or the late one, comes to an end. -/
  | readWaiting
  | readLate
  | watch (child : Nat)
  | restart (starts : Bool)
  | close
deriving DecidableEq

namespace ExecSink

/-! ## The pieces of a call -/

def setChild (sink : ExecSink) (child : Nat) (value : Child) : ExecSink :=
  { sink with children := Function.update sink.children child value }

/-- `stopLocked`: the child is gone when it returns. -/
def stopLocked (sink : ExecSink) : ExecSink :=
  match sink.cmd with
  | none => { sink with late := none }
  | some child =>
    { sink.setChild child { sink.children child with exited := true } with
      late := none
      cmd := none }

/-- `childAliveLocked` -/
def childAlive (sink : ExecSink) : Bool :=
  sink.cmd.any (fun child => !(sink.children child).exited)

/-- `noteChildDownLocked` -/
def noteChildDown (sink : ExecSink) : ExecSink :=
  { sink with
    generation := sink.generation + 1
    backingOff := true
    timer := some (sink.generation + 1) }

/-- `childFailedLocked`, after which the call returns. -/
def childFailed (sink : ExecSink) : ExecSink :=
  { sink.stopLocked.noteChildDown with busy := none }

/-- `start`, when the child reports that it is ready. -/
def start (sink : ExecSink) : ExecSink :=
  { sink with cmd := some sink.started, started := sink.started + 1 }

/-- The request is in the pipe and a read is on its way. -/
def write (sink : ExecSink) (child : Nat) (request : Request) : ExecSink :=
  { sink.setChild child
      { sink.children child with
        asked := (sink.children child).asked ++ [request] } with
    busy := some (.waiting request ⟨child, none⟩) }

/-- A frame that a read takes, or the end of an output. -/
def frameOf (sink : ExecSink) (number : Nat) : Option BridgeRead :=
  let child := sink.children number
  match child.replies[child.taken]? with
  | some message => some (.frame child.taken message)
  | none => if child.exited then some .failed else none

/-- The frame of a read is gone from the output. -/
def afterRead (sink : ExecSink) (child : Nat) : BridgeRead → ExecSink
  | .failed => sink
  | .frame index _ =>
    sink.setChild child { sink.children child with taken := index + 1 }

/-- One action, with what it returns to a call. -/
def step (sink : ExecSink) : BridgeAction → ExecSink × Option Return
  | .wake =>
    if sink.busy = none then ({ sink with quiesced := false }, none)
    else (sink, none)
  | .call kind expired =>
    if sink.busy ≠ none then (sink, none)
    else
      let request : Request := ⟨sink.calls, kind⟩
      let entered := { sink with calls := sink.calls + 1 }
      if expired then (entered, some ⟨request, .error .deadline⟩)
      else if sink.quiesced then (entered, some ⟨request, .error .stopped⟩)
      else if sink.backingOff then (entered, some ⟨request, .error .down⟩)
      else if sink.late = none then
        ({ entered with busy := some (.sending request) }, none)
      else ({ entered with busy := some (.draining request) }, none)
  | .drained =>
    match sink.busy, sink.late with
    | some (.draining request), some ⟨_, some (.frame _ _)⟩ =>
      ({ sink with late := none, busy := some (.sending request) }, none)
    | some (.draining request), some ⟨_, some .failed⟩ =>
      (sink.childFailed, some ⟨request, .error .exited⟩)
    | _, _ => (sink, none)
  | .drainExit =>
    match sink.busy, sink.cmd with
    | some (.draining request), some child =>
      if (sink.children child).exited then
        (sink.childFailed, some ⟨request, .error .exited⟩)
      else (sink, none)
    | _, _ => (sink, none)
  | .drainTimeout =>
    match sink.busy with
    | some (.draining request) =>
      ({ sink with busy := none },
        some ⟨request, .error (.timedOut request.kind)⟩)
    | _ => (sink, none)
  | .send starts writes =>
    match sink.busy, sink.cmd with
    | some (.sending request), some child =>
      if writes then (sink.write child request, none)
      else (sink.childFailed, some ⟨request, .error .exited⟩)
    | some (.sending request), none =>
      if starts = false then
        ({ sink.noteChildDown with busy := none },
          some ⟨request, .error .unavailable⟩)
      else if writes then (sink.start.write sink.started request, none)
      else (sink.start.childFailed, some ⟨request, .error .exited⟩)
    | _, _ => (sink, none)
  | .receive =>
    match sink.busy with
    | some (.waiting request ⟨_, some (.frame _ message)⟩) =>
      ({ sink with busy := none }, some ⟨request, .ok message⟩)
    | some (.waiting request ⟨_, some .failed⟩) =>
      (sink.childFailed, some ⟨request, .error .exited⟩)
    | _ => (sink, none)
  | .timeout =>
    match sink.busy with
    -- An answer that has arrived is taken all the same.
    | some (.waiting request ⟨child, none⟩) =>
      if sink.childAlive then
        ({ sink with busy := none, late := some ⟨child, none⟩ },
          some ⟨request, .error (.timedOut request.kind)⟩)
      else (sink.childFailed, some ⟨request, .error .exited⟩)
    | _ => (sink, none)
  | .answer child message =>
    let asked := sink.children child
    if asked.exited = false ∧ asked.replies.length < asked.asked.length then
      (sink.setChild child
        { asked with replies := asked.replies ++ [message] }, none)
    else (sink, none)
  | .exit child =>
    if child < sink.started then
      (sink.setChild child { sink.children child with exited := true }, none)
    else (sink, none)
  | .readWaiting =>
    match sink.busy with
    | some (.waiting request ⟨child, none⟩) =>
      match sink.frameOf child with
      | some result =>
        ({ sink.afterRead child result with
          busy := some (.waiting request ⟨child, some result⟩) }, none)
      | none => (sink, none)
    | _ => (sink, none)
  | .readLate =>
    match sink.late with
    | some ⟨child, none⟩ =>
      match sink.frameOf child with
      | some result =>
        ({ sink.afterRead child result with
          late := some ⟨child, some result⟩ }, none)
      | none => (sink, none)
    | _ => (sink, none)
  | .watch child =>
    if sink.busy = none ∧ sink.cmd = some child ∧
        (sink.children child).exited = true then
      let forgotten := { sink with cmd := none, late := none }
      (if sink.quiesced then forgotten else forgotten.noteChildDown, none)
    else (sink, none)
  | .restart starts =>
    if sink.busy ≠ none then (sink, none)
    else
      let fired := { sink with timer := none }
      if sink.timer ≠ some sink.generation ∨ sink.quiesced = true then
        (fired, none)
      else
        let ready := { fired with backingOff := false }
        (if starts then ready.start else ready.noteChildDown, none)
  | .close =>
    if sink.busy ≠ none then (sink, none)
    else
      let closed := { sink with
        quiesced := true
        generation := sink.generation + 1
        backingOff := false
        timer := none }
      (closed.stopLocked, none)

end ExecSink

/-! ## One read at a time -/

/-- The read is the one of the answer to the last request of the child. -/
def Child.Expects (child : Child) : Option BridgeRead → Prop
  | none => child.taken + 1 = child.asked.length
  | some .failed => True
  | some (.frame index message) => index + 1 = child.asked.length ∧
      child.taken = child.asked.length ∧
      child.replies[index]? = some message

/-- No read of the child is on its way, and its answers have been read. -/
def Child.Settled (child : Child) : Prop := child.taken = child.asked.length

variable {child : Nat}

namespace ExecSink

/-- What the lock and a late read say about the current child. -/
def Tracked (sink : ExecSink) : Prop :=
  match sink.busy, sink.late with
  | some (.waiting request read), late => late = none ∧
      sink.cmd = some read.child ∧
      (sink.children read.child).Expects read.result ∧
      (sink.children read.child).asked.getLast? = some request
  | some (.sending _), late => late = none ∧
      ∀ child, sink.cmd = some child → (sink.children child).Settled
  | _, some read => sink.cmd = some read.child ∧
      (sink.children read.child).Expects read.result
  | _, none =>
    ∀ child, sink.cmd = some child → (sink.children child).Settled

structure Ordered (sink : ExecSink) : Prop where
  tracked : sink.Tracked
  /-- A timer that will start a child finds none. -/
  timer : sink.timer = some sink.generation →
    sink.busy = none ∧ sink.backingOff = true ∧ sink.cmd = none ∧
      sink.late = none
  stale : ∀ generation, sink.timer = some generation →
    generation ≤ sink.generation
  fresh : ∀ child, sink.started ≤ child → sink.children child = {}
  running : ∀ child, sink.cmd = some child → child < sink.started

section Steps

variable {sink : ExecSink}

@[simp]
theorem children_setChild (child other : Nat) (value : Child) :
    (sink.setChild child value).children other =
      if other = child then value else sink.children other := by
  simp only [setChild, Function.update_apply]

@[simp]
theorem setChild_busy (child : Nat) (value : Child) :
    (sink.setChild child value).busy = sink.busy := rfl

@[simp]
theorem setChild_late (child : Nat) (value : Child) :
    (sink.setChild child value).late = sink.late := rfl

@[simp]
theorem setChild_cmd (child : Nat) (value : Child) :
    (sink.setChild child value).cmd = sink.cmd := rfl

theorem initial_ordered : initial.Ordered where
  tracked := fun _ _ => rfl
  timer := nofun
  stale := nofun
  fresh := fun _ _ => rfl
  running := by
    rintro child ⟨⟩
    exact Nat.zero_lt_one

/-- A child that changes without its requests and reads keeps the track. -/
theorem Tracked.setChild
    (tracked : sink.Tracked) (child : Nat) {value : Child}
    (asked : value.asked = (sink.children child).asked)
    (taken : value.taken = (sink.children child).taken)
    (replies : ∀ (index : Nat) (message : Message),
      (sink.children child).replies[index]? = some message →
      value.replies[index]? = some message) :
    (sink.setChild child value).Tracked := by
  have settled : ∀ other, (sink.children other).Settled →
      ((sink.setChild child value).children other).Settled := by
    intro other held
    rw [children_setChild]
    split_ifs with same
    · subst same
      rw [Child.Settled, asked, taken]
      exact held
    · exact held
  have expects : ∀ other result, (sink.children other).Expects result →
      ((sink.setChild child value).children other).Expects result := by
    intro other result held
    rw [children_setChild]
    split_ifs with same
    · subst same
      cases result with
      | none =>
        rw [Child.Expects, asked, taken]
        exact held
      | some read =>
        cases read with
        | failed => trivial
        | frame index message =>
          rw [Child.Expects, asked, taken]
          exact ⟨held.1, held.2.1, replies index message held.2.2⟩
    · exact held
  have last : ∀ other, ((sink.setChild child value).children other).asked =
      (sink.children other).asked := by
    intro other
    rw [children_setChild]
    split_ifs with same
    · rw [same, asked]
    · rfl
  unfold Tracked at tracked ⊢
  simp only [setChild_busy, setChild_late, last]
  split at tracked
  · exact ⟨tracked.1, tracked.2.1, expects _ _ tracked.2.2.1, tracked.2.2.2⟩
  · exact ⟨tracked.1, fun other current =>
      settled other (tracked.2 other current)⟩
  · exact ⟨tracked.1, expects _ _ tracked.2⟩
  · exact fun other current => settled other (tracked other current)

/-- A change of a child that has been started keeps the order. -/
theorem Ordered.setChild
    (ordered : sink.Ordered) (known : child < sink.started)
    {value : Child} (tracked : (sink.setChild child value).Tracked) :
    (sink.setChild child value).Ordered where
  tracked := tracked
  timer := ordered.timer
  stale := ordered.stale
  fresh := by
    intro other later
    rw [children_setChild, if_neg (Nat.ne_of_gt
      (Nat.lt_of_lt_of_le known later))]
    exact ordered.fresh other later
  running := ordered.running

/-- Where there is no child and no call, all is in order. -/
theorem ordered_of_down
    (busy : sink.busy = none) (late : sink.late = none)
    (cmd : sink.cmd = none)
    (timer : sink.timer = some sink.generation → sink.backingOff = true)
    (stale : ∀ generation, sink.timer = some generation →
      generation ≤ sink.generation)
    (fresh : ∀ child, sink.started ≤ child → sink.children child = {}) :
    sink.Ordered where
  tracked := by
    unfold Tracked
    rw [busy, late, cmd]
    intro child absent
    cases absent
  timer := fun set => ⟨busy, timer set, cmd, late⟩
  stale := stale
  fresh := fresh
  running := by
    intro child present
    rw [cmd] at present
    cases present

theorem stopLocked_spec
    (sink : ExecSink)
    (running : ∀ child, sink.cmd = some child → child < sink.started)
    (fresh : ∀ child, sink.started ≤ child → sink.children child = {}) :
    sink.stopLocked.cmd = none ∧ sink.stopLocked.late = none ∧
      sink.stopLocked.busy = sink.busy ∧
      sink.stopLocked.timer = sink.timer ∧
      ∀ child, sink.stopLocked.started ≤ child →
        sink.stopLocked.children child = {} := by
  unfold stopLocked
  cases current : sink.cmd with
  | none => exact ⟨rfl, rfl, rfl, rfl, fresh⟩
  | some child =>
    refine ⟨rfl, rfl, rfl, rfl, fun other later => ?_⟩
    have apart : other ≠ child := Nat.ne_of_gt
      (Nat.lt_of_lt_of_le (running child current) later)
    exact (Function.update_of_ne apart _ _).trans (fresh other later)

theorem childFailed_ordered
    (running : ∀ child, sink.cmd = some child → child < sink.started)
    (fresh : ∀ child, sink.started ≤ child → sink.children child = {}) :
    sink.childFailed.Ordered := by
  rcases stopLocked_spec sink running fresh with ⟨cmd, late, _, _, gone⟩
  refine ordered_of_down rfl late cmd (fun _ => rfl) ?_ gone
  rintro generation ⟨⟩
  exact Nat.le_refl _

/-- With a call at work no timer is due. -/
theorem Ordered.stale_of_busy
    (ordered : sink.Ordered) (busy : sink.busy ≠ none) :
    sink.timer ≠ some sink.generation :=
  fun due => busy (ordered.timer due).1

/-- Writing to a child whose answers have been read. -/
theorem write_ordered
    {request : Request} (running : sink.cmd = some child)
    (known : child < sink.started) (settled : (sink.children child).Settled)
    (late : sink.late = none) (due : sink.timer ≠ some sink.generation)
    (stale : ∀ generation, sink.timer = some generation → generation ≤
      sink.generation)
    (fresh : ∀ child, sink.started ≤ child → sink.children child = {}) :
    (sink.write child request).Ordered where
  tracked := by
    have same : (sink.write child request).children child =
        { sink.children child with
          asked := (sink.children child).asked ++ [request] } :=
      Function.update_self _ _ _
    show _ ∧ _ ∧ Child.Expects _ _ ∧ _
    rw [same]
    refine ⟨late, running, ?_, List.getLast?_concat⟩
    rw [Child.Settled] at settled
    simp [Child.Expects, settled]
  timer := fun set => absurd set due
  stale := stale
  fresh := by
    intro other later
    have apart : other ≠ child :=
      Nat.ne_of_gt (Nat.lt_of_lt_of_le known later)
    exact (Function.update_of_ne apart _ _).trans (fresh other later)
  running := by
    intro other current
    rw [show (sink.write child request).cmd = sink.cmd from rfl,
      running] at current
    cases current
    exact known

/-- A read of the expected answer leaves what the channel holds. -/
theorem expects_afterRead
    {result : BridgeRead} (expected : (sink.children child).Expects none)
    (read : sink.frameOf child = some result) :
    ((sink.afterRead child result).children child).Expects (some result) ∧
      ((sink.afterRead child result).children child).asked =
        (sink.children child).asked := by
  rw [frameOf] at read
  cases found :
      (sink.children child).replies[(sink.children child).taken]? with
  | none =>
    rw [found] at read
    split_ifs at read
    cases read
    exact ⟨trivial, rfl⟩
  | some message =>
    rw [found] at read
    cases read
    simp only [afterRead, children_setChild, if_true]
    exact ⟨⟨expected, expected, found⟩, trivial⟩

@[simp]
theorem afterRead_busy (number : Nat) (result : BridgeRead) :
    (sink.afterRead number result).busy = sink.busy := by
  cases result <;> rfl

@[simp]
theorem afterRead_late (number : Nat) (result : BridgeRead) :
    (sink.afterRead number result).late = sink.late := by
  cases result <;> rfl

@[simp]
theorem afterRead_cmd (number : Nat) (result : BridgeRead) :
    (sink.afterRead number result).cmd = sink.cmd := by
  cases result <;> rfl

/-- A read comes to an end; no timer is due meanwhile. -/
theorem Ordered.afterRead
    (ordered : sink.Ordered) {number : Nat} (known : number < sink.started)
    (result : BridgeRead) {late : Option PendingRead} {busy : Option Busy}
    (tracked : Tracked { sink.afterRead number result with late, busy })
    (due : sink.timer ≠ some sink.generation) :
    Ordered { sink.afterRead number result with late, busy } := by
  cases result with
  | failed =>
    exact ⟨tracked, fun set => absurd set due, ordered.stale,
      ordered.fresh, ordered.running⟩
  | frame index message =>
    refine ⟨tracked, fun set => absurd set due, ordered.stale, ?_,
      ordered.running⟩
    intro other later
    have apart : other ≠ number :=
      Nat.ne_of_gt (Nat.lt_of_lt_of_le known later)
    exact (Function.update_of_ne apart _ _).trans (ordered.fresh other later)

/-- A call moves on; no timer is due meanwhile. -/
theorem Ordered.relock
    (ordered : sink.Ordered) {late : Option PendingRead} {calls : Nat}
    {busy : Option Busy} (tracked : Tracked { sink with late, calls, busy })
    (due : sink.timer ≠ some sink.generation) :
    Ordered { sink with late, calls, busy } where
  tracked := tracked
  timer := fun set => absurd set due
  stale := ordered.stale
  fresh := ordered.fresh
  running := ordered.running

theorem Ordered.childFailed (ordered : sink.Ordered) :
    sink.childFailed.Ordered :=
  childFailed_ordered ordered.running ordered.fresh

theorem Ordered.step_call
    (ordered : sink.Ordered) (kind : RequestKind) (expired : Bool) :
    (sink.step (.call kind expired)).1.Ordered := by
  have tracked := ordered.tracked
  unfold Tracked at tracked
  unfold ExecSink.step
  dsimp only
  split_ifs with busy gone quiet down clear
  · exact ordered
  · exact ⟨ordered.tracked, ordered.timer, ordered.stale, ordered.fresh,
      ordered.running⟩
  · exact ⟨ordered.tracked, ordered.timer, ordered.stale, ordered.fresh,
      ordered.running⟩
  · exact ⟨ordered.tracked, ordered.timer, ordered.stale, ordered.fresh,
      ordered.running⟩
  all_goals
    have due : sink.timer ≠ some sink.generation :=
      fun set => down (ordered.timer set).2.1
    rw [not_not.mp busy] at tracked
    refine ordered.relock ?_ due
  · rw [clear] at tracked
    exact ⟨clear, tracked⟩
  · cases left : sink.late with
    | none => exact absurd left clear
    | some read =>
      rw [left] at tracked
      exact tracked

theorem Ordered.step_drained
    (ordered : sink.Ordered) :
    (sink.step .drained).1.Ordered := by
  have tracked := ordered.tracked
  unfold Tracked at tracked
  unfold ExecSink.step
  dsimp only
  split
  · next request number index message busy left =>
      rw [busy, left] at tracked
      refine ordered.relock ?_ (ordered.stale_of_busy (by simp [busy]))
      refine ⟨rfl, fun child current => ?_⟩
      rw [show sink.cmd = some child from current] at tracked
      rcases tracked with ⟨same, _, settled, _⟩
      cases same
      exact settled
  · exact ordered.childFailed
  · exact ordered

theorem Ordered.step_drainTimeout
    (ordered : sink.Ordered) :
    (sink.step .drainTimeout).1.Ordered := by
  have tracked := ordered.tracked
  unfold Tracked at tracked
  unfold ExecSink.step
  dsimp only
  split
  · next request busy =>
      refine ordered.relock ?_ (ordered.stale_of_busy (by simp [busy]))
      rw [busy] at tracked
      cases left : sink.late with
      | none =>
        rw [left] at tracked
        exact tracked
      | some read =>
        rw [left] at tracked
        exact tracked
  · exact ordered

theorem Ordered.step_send
    (ordered : sink.Ordered) (starts : Bool) (writes : Bool) :
    (sink.step (.send starts writes)).1.Ordered := by
  have tracked := ordered.tracked
  unfold Tracked at tracked
  unfold ExecSink.step
  dsimp only
  split
  · next request child busy current =>
      rw [busy] at tracked
      split_ifs
      · exact write_ordered current (ordered.running child current)
          (tracked.2 child current) tracked.1
          (ordered.stale_of_busy (by simp [busy])) ordered.stale
          ordered.fresh
      · exact ordered.childFailed
  · next request busy absent =>
      rw [busy] at tracked
      split_ifs
      · refine ordered_of_down rfl tracked.1 absent (fun _ => rfl) ?_
          ordered.fresh
        rintro generation ⟨⟩
        exact Nat.le_refl _
      · refine write_ordered rfl (Nat.lt_succ_self _) ?_ tracked.1
          (ordered.stale_of_busy (by simp [busy])) ordered.stale ?_
        · rw [show sink.start.children sink.started = {} from
            ordered.fresh _ (Nat.le_refl _)]
          rfl
        · exact fun child later =>
            ordered.fresh child (Nat.le_of_succ_le later)
      · apply childFailed_ordered
        · rintro child ⟨⟩
          exact Nat.lt_succ_self _
        · exact fun child later =>
            ordered.fresh child (Nat.le_of_succ_le later)
  · exact ordered

theorem Ordered.step_receive
    (ordered : sink.Ordered) :
    (sink.step .receive).1.Ordered := by
  have tracked := ordered.tracked
  unfold Tracked at tracked
  unfold ExecSink.step
  dsimp only
  split
  · next request number index message busy =>
      rw [busy] at tracked
      rcases tracked with ⟨clear, running, ⟨_, settled, _⟩, _⟩
      refine ordered.relock ?_ (ordered.stale_of_busy (by simp [busy]))
      rw [clear]
      intro child current
      rw [running] at current
      cases current
      exact settled
  · exact ordered.childFailed
  · exact ordered

theorem Ordered.step_answer
    (ordered : sink.Ordered) (child : Nat) (message : Message) :
    (sink.step (.answer child message)).1.Ordered := by
  unfold ExecSink.step
  dsimp only
  split_ifs with pending
  · have known : child < sink.started := by
      by_contra unknown
      rw [ordered.fresh child (Nat.not_lt.mp unknown)] at pending
      exact absurd pending.2 (Nat.lt_irrefl 0)
    apply ordered.setChild known
    refine ordered.tracked.setChild child rfl rfl ?_
    intro index other found
    have inside := (List.getElem?_eq_some_iff.mp found).1
    rw [List.getElem?_append_left inside]
    exact found
  · exact ordered

theorem Ordered.step_readWaiting
    (ordered : sink.Ordered) :
    (sink.step .readWaiting).1.Ordered := by
  have tracked := ordered.tracked
  unfold Tracked at tracked
  unfold ExecSink.step
  dsimp only
  split
  · next request number busy =>
      rw [busy] at tracked
      rcases tracked with ⟨clear, running, expected, last⟩
      split
      · next result read =>
          rcases expects_afterRead expected read with ⟨held, same⟩
          refine ordered.afterRead (ordered.running number running)
            result ?_ (ordered.stale_of_busy (by simp [busy]))
          simp only [afterRead_late, afterRead_cmd]
          exact ⟨clear, running, held,
            (congrArg List.getLast? same).trans last⟩
      · exact ordered
  · exact ordered

theorem Ordered.step_readLate
    (ordered : sink.Ordered) :
    (sink.step .readLate).1.Ordered := by
  have tracked := ordered.tracked
  unfold Tracked at tracked
  unfold ExecSink.step
  dsimp only
  split
  · next number left =>
      have due : sink.timer ≠ some sink.generation := by
        intro set
        rw [(ordered.timer set).2.2.2] at left
        cases left
      rw [left] at tracked
      split
      · next result read =>
          -- Only a call that drains, or none, leaves a read behind.
          have held : (sink.busy = none ∨
              ∃ request, sink.busy = some (.draining request)) ∧
              sink.cmd = some number ∧
              (sink.children number).Expects none := by
            rcases busy : sink.busy with _ | (request | request | _)
            all_goals rw [busy] at tracked
            · exact ⟨.inl rfl, tracked⟩
            · exact ⟨.inr ⟨request, rfl⟩, tracked⟩
            · cases tracked.1
            · cases tracked.1
          rcases held with ⟨free, running, expected⟩
          refine ordered.afterRead (ordered.running number running)
            result ?_ due
          simp only [afterRead_busy, afterRead_cmd]
          rcases free with free | ⟨request, free⟩
          all_goals
            rw [free]
            exact ⟨running, (expects_afterRead expected read).1⟩
      · exact ordered
  · exact ordered

theorem Ordered.step_restart
    (ordered : sink.Ordered) (starts : Bool) :
    (sink.step (.restart starts)).1.Ordered := by
  unfold ExecSink.step
  dsimp only
  split_ifs with busy idle ready
  · exact ordered
  · exact ⟨ordered.tracked, nofun, nofun, ordered.fresh, ordered.running⟩
  all_goals
    rcases ordered.timer (not_not.mp (not_or.mp idle).1) with
      ⟨free, _, absent, clear⟩
  · refine ⟨?_, nofun, nofun, fun child later =>
      ordered.fresh child (Nat.le_of_succ_le later), ?_⟩
    · simp only [ExecSink.start, free, clear]
      rintro child ⟨⟩
      rw [ordered.fresh _ (Nat.le_refl _)]
      rfl
    · rintro child ⟨⟩
      exact Nat.lt_succ_self _
  · refine ordered_of_down free clear absent (fun _ => rfl) ?_ ordered.fresh
    rintro generation ⟨⟩
    exact Nat.le_refl _

theorem Ordered.step_close
    (ordered : sink.Ordered) :
    (sink.step .close).1.Ordered := by
  unfold ExecSink.step
  dsimp only
  split_ifs with busy
  · exact ordered
  · have stopped := stopLocked_spec { sink with
      quiesced := true
      generation := sink.generation + 1
      backingOff := false
      timer := none } ordered.running ordered.fresh
    rcases stopped with ⟨cmd, late, free, timer, fresh⟩
    refine ordered_of_down (free.trans (not_not.mp busy)) late cmd ?_ ?_
      fresh
    · rw [timer]
      nofun
    · rw [timer]
      nofun

theorem Ordered.step
    (ordered : sink.Ordered) (action : BridgeAction) :
    (sink.step action).1.Ordered := by
  cases action with
  | wake =>
    unfold ExecSink.step
    dsimp only
    split_ifs
    · exact ⟨ordered.tracked, ordered.timer, ordered.stale, ordered.fresh,
        ordered.running⟩
    · exact ordered
  | call kind expired => exact ordered.step_call kind expired
  | drained => exact ordered.step_drained
  | drainExit =>
    unfold ExecSink.step
    dsimp only
    split
    · split_ifs
      · exact ordered.childFailed
      · exact ordered
    · exact ordered
  | drainTimeout => exact ordered.step_drainTimeout
  | send starts writes => exact ordered.step_send starts writes
  | receive => exact ordered.step_receive
  | timeout =>
    have tracked := ordered.tracked
    unfold Tracked at tracked
    unfold ExecSink.step
    dsimp only
    split
    · next request number busy =>
        rw [busy] at tracked
        split_ifs
        · exact ordered.relock ⟨tracked.2.1, tracked.2.2.1⟩
            (ordered.stale_of_busy (by simp [busy]))
        · exact ordered.childFailed
    · exact ordered
  | answer child message => exact ordered.step_answer child message
  | exit child =>
    unfold ExecSink.step
    dsimp only
    split_ifs with known
    · apply ordered.setChild known
      exact ordered.tracked.setChild child rfl rfl fun _ _ found => found
    · exact ordered
  | readWaiting => exact ordered.step_readWaiting
  | readLate => exact ordered.step_readLate
  | watch child =>
    unfold ExecSink.step
    dsimp only
    split_ifs with free quiet
    · refine ordered_of_down free.1 rfl rfl ?_ ordered.stale ordered.fresh
      exact fun set => (ordered.timer set).2.1
    · refine ordered_of_down free.1 rfl rfl (fun _ => rfl) ?_ ordered.fresh
      rintro generation ⟨⟩
      exact Nat.le_refl _
    · exact ordered
  | restart starts => exact ordered.step_restart starts
  | close => exact ordered.step_close

/-- The child answered the request, the last that it was asked, with this. -/
def Answered (sink : ExecSink) (request : Request) (message : Message) :
    Prop :=
  ∃ child index, sink.cmd = some child ∧
    index + 1 = (sink.children child).asked.length ∧
    (sink.children child).asked[index]? = some request ∧
    (sink.children child).replies[index]? = some message

theorem ordered_run (actions : List BridgeAction) :
    (runAll (fun sink action => (sink.step action).1) initial
      actions).Ordered :=
  runAll_invariant initial_ordered (fun _ action ordered =>
    ordered.step action) actions

/-- An answer is returned to the call that wrote the last request. -/
theorem Ordered.returns
    (ordered : sink.Ordered) {action : BridgeAction} {request : Request}
    {message : Message}
    (returned : (sink.step action).2 = some ⟨request, .ok message⟩) :
    sink.Answered request message := by
  have tracked := ordered.tracked
  cases action with
  | receive =>
    unfold ExecSink.step at returned
    dsimp only at returned
    split at returned
    · next asker number index reply busy =>
        cases returned
        unfold Tracked at tracked
        rw [busy] at tracked
        rcases tracked with ⟨_, running, ⟨last, _, answered⟩, asked⟩
        refine ⟨number, index, running, last, ?_, answered⟩
        rw [List.getLast?_eq_getElem?, ← last] at asked
        exact asked
    · cases returned
    · cases returned
  | _ =>
    -- No other action returns a message.
    unfold ExecSink.step at returned
    dsimp only at returned
    repeat' split at returned
    all_goals cases returned

end Steps

end ExecSink

/-! ## Answers of their own -/

/--
Whatever calls, probes, timeouts, answers, exits and restarts came before: a
`Publish` returns no error only if the child answered `KindOK` to the request
that this call wrote; and an answer that a probe takes for its own is the one
to the request for the health that this probe wrote.
-/
theorem bridge_answers_not_mixed_up
    (describe : CallErr → String) (front : List BridgeAction)
    (action : BridgeAction) (returned : Return)
    (returns : ((runAll (fun sink action => (ExecSink.step sink action).1)
      ExecSink.initial front).step action).2 = some returned) :
    (returned.request.kind = .pub →
      publishErr describe returned.result = none →
      ∃ message, message.kind = .ok ∧
        (runAll (fun sink action => (ExecSink.step sink action).1)
          ExecSink.initial front).Answered returned.request message) ∧
    (returned.request.kind = .health →
      ∀ message, returned.result = .ok message →
        (runAll (fun sink action => (ExecSink.step sink action).1)
          ExecSink.initial front).Answered returned.request message) := by
  have ordered := ExecSink.ordered_run front
  rcases returned with ⟨request, result⟩
  constructor
  · intro _ accepted
    cases result with
    | error err => cases accepted
    | ok message =>
      refine ⟨message, ?_, ordered.returns returns⟩
      by_contra other
      rw [publishErr, if_neg other] at accepted
      split at accepted <;> cases accepted
  · rintro _ message rfl
    exact ordered.returns returns

/-- A publish gives up; a probe discards its answer and waits for its own. -/
def lateAnswer : List BridgeAction :=
  [.call .pub false, .send false true, .timeout,
    .call .health false, .answer 0 ⟨.ok, []⟩, .readLate, .drained,
    .send false true, .answer 0 ⟨.status, ["connected", ""]⟩, .readWaiting]

theorem probe_after_late_answer :
    (runAll (fun sink action => (ExecSink.step sink action).1)
      ExecSink.initial lateAnswer).Answered ⟨1, .health⟩
      ⟨.status, ["connected", ""]⟩ :=
  (bridge_answers_not_mixed_up (fun _ => "") lateAnswer .receive
    ⟨⟨1, .health⟩, .ok ⟨.status, ["connected", ""]⟩⟩ rfl).2 rfl _ rfl

end DataSafe.Events
