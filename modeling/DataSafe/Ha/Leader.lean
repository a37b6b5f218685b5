import Mathlib.Logic.Function.Basic
import DataSafe.Base.Machine
import DataSafe.Metadata.Records

/-!
# The leader lease of a cluster

The processes of a cluster share the one row of `ha_leader_lock`.  A process
waits for the row, renews it on a ticker, and leads while the row names it,
has not expired and the process has not marked its lease as lost.  A
statement on the row is atomic, but the time it writes is sampled before it,
and its caller may miss the answer.
-/

namespace DataSafe.Ha

open Base Metadata

variable {Node : Type} [DecidableEq Node]

/-! ## The lease row -/

structure Lease (Node : Type) where
  holder : Node
  expiresAt : Time
  deriving DecidableEq

/-- The row after the statement, and whether it affected a row. -/
def tryAcquireLeader (row : Option (Lease Node)) (node : Node)
    (now ttl : Time) : Option (Lease Node) × Bool :=
  match row with
  | none => (some ⟨node, now + ttl⟩, true)
  | some lease =>
    if lease.expiresAt < now ∨ lease.holder = node then
      (some ⟨node, now + ttl⟩, true)
    else
      (row, false)

/-- The statement does not ask whether the lease has expired. -/
def renewLeader (row : Option (Lease Node)) (node : Node)
    (now ttl : Time) : Option (Lease Node) × Bool :=
  match row with
  | none => (row, false)
  | some lease =>
    if lease.holder = node then (some ⟨node, now + ttl⟩, true)
    else (row, false)

def releaseLeader (row : Option (Lease Node)) (node : Node) :
    Option (Lease Node) :=
  row.filter fun lease => lease.holder ≠ node

def currentLeader (row : Option (Lease Node)) (now : Time) :
    Option (Lease Node) :=
  row.filter fun lease => ¬lease.expiresAt < now

/-! ## The processes -/

/-- Where `Start` stands.  A statement under way has sampled its time. -/
inductive Stage where
  | waiting
  | acquiring (now : Time)
  | holding
  | renewing (now : Time)
  | releasing
  | stopped
  deriving DecidableEq

structure Process where
  stage : Stage := .waiting
  lost : Bool := false

/-- The renew loop has been left. -/
def Process.Ended (process : Process) : Prop :=
  process.stage = .releasing ∨ process.stage = .stopped

/-- What a process does next: begin a statement, see it end, carried out or
not and answered or not, have its context cancelled, or `Resign`. -/
inductive Move where
  | begin
  | finish (applied answered : Bool)
  | cancel
  | resign

def advance (node : Node) (ttl clock : Time) (row : Option (Lease Node))
    (process : Process) : Move → Option (Lease Node) × Process
  | .begin =>
    match process.stage with
    | .waiting => (row, { process with stage := .acquiring clock })
    | .holding => (row, { process with stage := .renewing clock })
    | _ => (row, process)
  | .finish applied answered =>
    match process.stage with
    | .acquiring now =>
      let result :=
        if applied then tryAcquireLeader row node now ttl
        else (row, false)
      if result.2 && answered then
        (result.1, { process with stage := .holding })
      else
        (result.1, { process with stage := .waiting })
    | .renewing now =>
      let result :=
        if applied then renewLeader row node now ttl else (row, false)
      if result.2 && answered then
        (result.1, { process with stage := .holding })
      else
        (result.1, { stage := .stopped, lost := true })
    | .releasing =>
      (if applied then releaseLeader row node else row,
        { process with stage := .stopped })
    | _ => (row, process)
  | .cancel =>
    match process.stage with
    | .waiting => (row, { process with stage := .stopped })
    | .holding => (row, { process with stage := .releasing })
    | _ => (row, process)
  -- `markLost` alone: the renew loop goes on and does not read the flag.
  | .resign => (row, { process with lost := true })

structure Cluster (Node : Type) where
  clock : Time
  row : Option (Lease Node)
  process : Node → Process := fun _ => {}

inductive Action (Node : Type) where
  | tick (elapsed : Nat)
  | move (node : Node) (move : Move)

def step (ttl : Node → Time) (cluster : Cluster Node) :
    Action Node → Cluster Node
  | .tick elapsed => { cluster with clock := cluster.clock + elapsed }
  | .move node move =>
    let result := advance node (ttl node) cluster.clock cluster.row
      (cluster.process node) move
    { cluster with
      row := result.1
      process := Function.update cluster.process node result.2 }

def Cluster.isLeader (cluster : Cluster Node) (node : Node) : Bool :=
  !(cluster.process node).lost &&
    match currentLeader cluster.row cluster.clock with
    | none => false
    | some lease => lease.holder = node && cluster.clock < lease.expiresAt

theorem Cluster.isLeader_iff
    (cluster : Cluster Node) (node : Node) :
    cluster.isLeader node ↔ (cluster.process node).lost = false ∧
        ∃ lease, cluster.row = some lease ∧ lease.holder = node ∧
          cluster.clock < lease.expiresAt := by
  rcases cluster with ⟨clock, row | lease, process⟩
  · simp [Cluster.isLeader, currentLeader]
  · by_cases expired : lease.expiresAt < clock
    · have stale : ¬clock < lease.expiresAt := lt_asymm expired
      simp [Cluster.isLeader, currentLeader, Option.filter, expired, stale]
    · simp [Cluster.isLeader, currentLeader, Option.filter, expired]

/-! ## What one step does -/

/-- A lease in the row after a move was there before, or the process has
written it from within its loop, over a lease of its own or an expired
one. -/
theorem advance_row
    (node : Node) (ttl clock : Time) (row : Option (Lease Node))
    (process : Process) (move : Move) (next : Lease Node)
    (after : (advance node ttl clock row process move).1 = some next) :
    row = some next ∨ next.holder = node ∧ ¬process.Ended ∧
        ∀ lease, row = some lease → lease.holder = node ∨
          ∃ now, process.stage = .acquiring now ∧ lease.expiresAt < now := by
  rcases process with ⟨stage, lost⟩
  rcases move with _ | ⟨applied, answered⟩ | _ | _
  · cases stage <;> exact Or.inl after
  · cases stage with
    | acquiring now =>
      cases applied <;> rcases row with _ | lease <;>
        simp only [advance, tryAcquireLeader, Process.Ended] at after ⊢ <;>
        grind
    | renewing now =>
      cases applied <;> rcases row with _ | lease <;>
        simp only [advance, renewLeader, Process.Ended] at after ⊢ <;>
        grind
    | releasing =>
      cases applied
      · exact Or.inl after
      · exact Or.inl (Option.filter_eq_some_iff.mp after).1
    | waiting | holding | stopped => exact Or.inl after
  · cases stage <;> exact Or.inl after
  · exact Or.inl after

/-- The flag of a process is never cleared, a loop left is not entered
again, and the time of an acquisition is the one at its beginning. -/
theorem advance_process
    (node : Node) (ttl clock : Time) (row : Option (Lease Node))
    (process : Process) (move : Move) :
    let after := (advance node ttl clock row process move).2
    (process.lost = true → after.lost = true) ∧
      (process.Ended → after.Ended) ∧
      ∀ now, after.stage = .acquiring now →
        now = clock ∨ process.stage = .acquiring now := by
  rcases process with ⟨stage, lost⟩
  cases move <;> cases stage <;>
    simp only [advance, Process.Ended] <;> grind

theorem step_row
    (ttl : Node → Time) (cluster : Cluster Node) (action : Action Node)
    (next : Lease Node) (after : (step ttl cluster action).row = some next) :
    cluster.row = some next ∨ ¬(cluster.process next.holder).Ended ∧
        ∀ lease, cluster.row = some lease → lease.holder = next.holder ∨
          ∃ now, (cluster.process next.holder).stage = .acquiring now ∧
            lease.expiresAt < now := by
  cases action with
  | tick elapsed => exact Or.inl after
  | move node move =>
    rcases advance_row node _ _ _ _ move next after with
      kept | ⟨rfl, written⟩
    · exact Or.inl kept
    · exact Or.inr written

theorem step_process
    (ttl : Node → Time) (cluster : Cluster Node) (action : Action Node)
    (node : Node) :
    let before := cluster.process node
    let after := (step ttl cluster action).process node
    (before.lost = true → after.lost = true) ∧ (before.Ended → after.Ended) ∧
      ∀ now, after.stage = .acquiring now →
        now = cluster.clock ∨ before.stage = .acquiring now := by
  cases action with
  | tick elapsed => exact ⟨id, id, fun _ => Or.inr⟩
  | move other move =>
    by_cases same : node = other
    · subst same
      simp only [step, Function.update_self]
      exact advance_process node _ _ _ _ move
    · simp only [step, Function.update_of_ne same]
      exact ⟨id, id, fun _ => Or.inr⟩

/-! ## Whole runs -/

/-- No acquisition under way has sampled a time yet to come. -/
def Cluster.Sampled (cluster : Cluster Node) : Prop :=
  ∀ node now, (cluster.process node).stage = .acquiring now →
    now ≤ cluster.clock

theorem clock_le_step
    (ttl : Node → Time) (cluster : Cluster Node) (action : Action Node) :
    cluster.clock ≤ (step ttl cluster action).clock := by
  cases action with
  | tick elapsed => exact Int.le_add_of_nonneg_right (Int.natCast_nonneg _)
  | move node move => exact le_rfl

theorem step_sampled
    (ttl : Node → Time) (cluster : Cluster Node) (action : Action Node)
    (sampled : cluster.Sampled) : (step ttl cluster action).Sampled := by
  intro node now acquiring
  refine le_trans ?_ (clock_le_step ttl cluster action)
  rcases (step_process ttl cluster action node).2.2 now acquiring with
    fresh | before
  · exact fresh.le
  · exact sampled node now before

/-- Leadership is exclusive and handed over by a process out of its loop. -/
structure Exclusive (ttl : Node → Time) (cluster : Cluster Node) :
    Prop where
  one_leader : ∀ one two, cluster.isLeader one → cluster.isLeader two →
    one = two
  no_theft : ∀ action lease next, cluster.row = some lease →
    (step ttl cluster action).row = some next →
    next.holder ≠ lease.holder → lease.expiresAt < cluster.clock
  -- A renewal that ends without success loses the lease and the loop.
  failed_renew : ∀ node now applied answered,
    (cluster.process node).stage = .renewing now →
    let after := (step ttl cluster
      (.move node (.finish applied answered))).process node
    after.stage = .holding ∨ after.lost = true ∧ after.Ended
  resigned : ∀ node,
    ((step ttl cluster (.move node .resign)).process node).lost = true
  lost_for_good : ∀ node, (cluster.process node).lost = true →
    ∀ later, ¬(runAll (step ttl) cluster later).isLeader node
  never_extended : ∀ node, (cluster.process node).Ended → ∀ later expiresAt,
    (runAll (step ttl) cluster later).row = some ⟨node, expiresAt⟩ →
    cluster.row = some ⟨node, expiresAt⟩
  taken_over : ∀ node lease, (cluster.process node).stage = .waiting →
    cluster.row = some lease → lease.expiresAt < cluster.clock →
    (runAll (step ttl) cluster
      [.move node .begin, .move node (.finish true true)]).row =
      some ⟨node, cluster.clock + ttl node⟩

theorem leadership_exclusive
    (ttl : Node → Time) (clock : Time) (row : Option (Lease Node))
    (actions : List (Action Node)) :
    Exclusive ttl (runAll (step ttl) { clock, row } actions) := by
  have sampled : (runAll (step ttl) { clock, row } actions).Sampled :=
    runAll_invariant (by intro node now acquiring; cases acquiring)
      (step_sampled ttl) actions
  generalize runAll (step ttl) { clock, row } actions = cluster at sampled
  constructor
  case one_leader =>
    intro one two first second
    rcases (cluster.isLeader_iff one).mp first with ⟨_, lease, held, rfl, _⟩
    rcases (cluster.isLeader_iff two).mp second with ⟨_, other, also, rfl, _⟩
    rw [held, Option.some.injEq] at also
    rw [also]
  case no_theft =>
    intro action lease next before after differs
    rcases step_row ttl cluster action next after with kept | ⟨_, allowed⟩
    · rw [before, Option.some.injEq] at kept
      exact absurd (congrArg Lease.holder kept.symm) differs
    · rcases allowed lease before with own | ⟨now, stage, expired⟩
      · exact absurd own.symm differs
      · exact expired.trans_le (sampled next.holder now stage)
  case failed_renew =>
    intro node now applied answered stage
    simp only [step, Function.update_self, advance, stage]
    generalize (if applied then _ else _ : Option (Lease Node) × Bool) =
      result
    split
    · exact Or.inl rfl
    · exact Or.inr ⟨rfl, Or.inr rfl⟩
  case resigned =>
    intro node
    simp [step, advance]
  case lost_for_good =>
    intro node lost later leads
    have still := runAll_invariant
      (motive := fun state => (state.process node).lost = true) lost
      (fun state action => (step_process ttl state action node).1) later
    rw [Cluster.isLeader_iff, still] at leads
    exact absurd leads.1 (by decide)
  case never_extended =>
    intro node ended later expiresAt
    have kept := runAll_invariant
      (motive := fun state => (state.process node).Ended ∧
        (state.row = some ⟨node, expiresAt⟩ →
          cluster.row = some ⟨node, expiresAt⟩)) ⟨ended, id⟩
      (fun state action ⟨ended, held⟩ =>
        ⟨(step_process ttl state action node).2.1 ended, fun after =>
          (step_row ttl state action _ after).elim held
            (fun written => absurd ended written.1)⟩) later
    exact kept.2
  case taken_over =>
    intro node lease stage before expired
    simp [runAll, step, advance, stage, before, tryAcquireLeader, expired]

/-- A process that has resigned renews its row: the other still cannot
acquire it when the lease it resigned has expired. -/
theorem resigned_process_extends :
    let cluster := runAll (step fun _ => 30) ⟨0, none, fun _ => {}⟩
      [.move 1 .begin, .move 1 (.finish true true), .move 1 .resign,
        .tick 20, .move 1 .begin, .move 1 (.finish true true),
        .tick 15, .move 2 .begin, .move 2 (.finish true true)]
    cluster.clock = 35 ∧ cluster.row = some (⟨1, 50⟩ : Lease Nat) ∧
      (cluster.process 1).lost = true ∧
      (cluster.process 2).stage = .waiting := by
  decide

end DataSafe.Ha
