import Mathlib.Data.List.Induction

/-!
# Runs of a machine

A machine is a step function on states, and a run applies it to a list of
actions.  A guard is a condition on an action in the state before it.  What
holds at the start and is kept by every guarded action holds in every state
of a guarded run.
-/

namespace DataSafe.Base

variable {State Action : Type}

/-- The state after some actions. -/
def runAll (step : State → Action → State) (start : State)
    (actions : List Action) : State :=
  actions.foldl step start

/-- Every action of a run meets the guard when its turn comes. -/
def Guarded (step : State → Action → State)
    (guard : State → Action → Prop) (start : State)
    (actions : List Action) : Prop :=
  ∀ front action, front ++ [action] <+: actions →
    guard (runAll step start front) action

variable {step : State → Action → State} {guard : State → Action → Prop}
  {start : State}

theorem runAll_concat
    (step : State → Action → State) (start : State)
    (actions : List Action) (action : Action) :
    runAll step start (actions ++ [action]) =
      step (runAll step start actions) action := by
  simp [runAll]

theorem runAll_append
    (step : State → Action → State) (start : State)
    (front rest : List Action) :
    runAll step start (front ++ rest) =
      runAll step (runAll step start front) rest := by
  simp [runAll]

/-- A guarded run is guarded up to every point. -/
theorem Guarded.mono
    {actions front : List Action} (guarded : Guarded step guard start actions)
    (earlier : front <+: actions) : Guarded step guard start front :=
  fun before action made => guarded before action (made.trans earlier)

/-- The rest of a guarded run is guarded from the state it begins in. -/
theorem Guarded.rest
    {front rest : List Action}
    (guarded : Guarded step guard start (front ++ rest)) :
    Guarded step guard (runAll step start front) rest := by
  intro before action made
  rw [← runAll_append]
  refine guarded (front ++ before) action ?_
  rw [List.append_assoc]
  exact (List.prefix_append_right_inj front).mpr made

theorem guarded_nil : Guarded step guard start [] := by
  intro front action made
  simp at made

theorem guarded_cons_iff {action : Action} {rest : List Action} :
    Guarded step guard start (action :: rest) ↔
      guard start action ∧ Guarded step guard (step start action) rest := by
  constructor
  · intro guarded
    exact ⟨guarded [] action ⟨rest, rfl⟩,
      (show Guarded step guard start ([action] ++ rest) from guarded).rest⟩
  · rintro ⟨first, later⟩ front next made
    cases front with
    | nil =>
      obtain ⟨same, _⟩ := List.cons_prefix_cons.mp made
      exact same ▸ first
    | cons head front =>
      obtain ⟨same, shorter⟩ := List.cons_prefix_cons.mp made
      subst same
      exact later front next shorter

/-- Whether a run is guarded can be checked along it. -/
instance Guarded.decidable
    [∀ state action, Decidable (guard state action)] :
    (actions : List Action) → (start : State) →
      Decidable (Guarded step guard start actions)
  | [], _ => isTrue guarded_nil
  | action :: rest, start =>
    have := Guarded.decidable rest (step start action)
    decidable_of_iff _ guarded_cons_iff.symm

/-- What every guarded action keeps holds after a guarded run. -/
theorem Guarded.invariant
    {motive : State → Prop} {actions : List Action}
    (guarded : Guarded step guard start actions) (initial : motive start)
    (kept : ∀ state action, motive state → guard state action →
      motive (step state action)) :
    motive (runAll step start actions) := by
  induction actions using List.reverseRecOn with
  | nil => exact initial
  | append_singleton actions action induction =>
    rw [runAll_concat]
    exact kept _ action (induction (guarded.mono (List.prefix_append _ _)))
      (guarded actions action (List.prefix_refl _))

/-- What every action keeps holds after every run. -/
theorem runAll_invariant
    {motive : State → Prop} (initial : motive start)
    (kept : ∀ state action, motive state → motive (step state action))
    (actions : List Action) : motive (runAll step start actions) := by
  have free : Guarded step (fun _ _ => True) start actions :=
    fun _ _ _ => trivial
  exact free.invariant initial (fun state action held _ =>
    kept state action held)

end DataSafe.Base
