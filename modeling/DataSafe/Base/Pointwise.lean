import Mathlib.Data.List.Nodup

/-!
# Loops that visit places

A loop visits some places of a state once each, in any order.  If a visit
changes what is seen at its own place only, and if what it leaves there
depends only on what it found there, then each visited place is changed by its
own visit and every other one stays as it was.
-/

namespace DataSafe.Base

variable {State Place View : Type} {visit : State → Place → State}
  {view : State → Place → View}

/-- Places that are not visited stay as they were. -/
theorem foldl_unvisited
    {places : List Place} {place : Place} (unvisited : place ∉ places)
    (apart : ∀ state, ∀ other ∈ places, other ≠ place →
      view (visit state other) place = view state place) (state : State) :
    view (places.foldl visit state) place = view state place := by
  induction places generalizing state with
  | nil => rfl
  | cons first places induction =>
    obtain ⟨differs, later⟩ := List.ne_and_not_mem_of_not_mem_cons unvisited
    rw [List.foldl_cons, induction later fun state other member =>
      apart state other (List.mem_cons_of_mem _ member)]
    exact apart state first List.mem_cons_self (Ne.symm differs)

/-- A visited place is changed by its own visit. -/
theorem foldl_visited
    {places : List Place} {place : Place} (distinct : places.Nodup)
    (visited : place ∈ places) {effect : View → View}
    (apart : ∀ state, ∀ other ∈ places, other ≠ place →
      view (visit state other) place = view state place)
    (own : ∀ state, view (visit state place) place =
      effect (view state place)) (state : State) :
    view (places.foldl visit state) place = effect (view state place) := by
  induction places generalizing state with
  | nil => cases visited
  | cons first places induction =>
    obtain ⟨once, distinct⟩ := List.nodup_cons.mp distinct
    have later : ∀ state, ∀ other ∈ places, other ≠ place →
        view (visit state other) place = view state place :=
      fun state other member =>
        apart state other (List.mem_cons_of_mem _ member)
    rw [List.foldl_cons]
    by_cases same : first = place
    · subst same
      rw [foldl_unvisited once later]
      exact own state
    · rw [induction distinct
        ((List.mem_cons.mp visited).resolve_left (Ne.symm same)) later,
        apart state first List.mem_cons_self same]

/-- What every visit keeps holds in the end. -/
theorem foldl_keeps (kept : State → Prop)
    (keeps : ∀ state place, kept state → kept (visit state place))
    (places : List Place) {state : State} (start : kept state) :
    kept (places.foldl visit state) := by
  induction places generalizing state with
  | nil => exact start
  | cons first places induction => exact induction (keeps state first start)

/-- What the visit of a place brings about, and every visit keeps, holds in
the end. -/
theorem foldl_brings (before after : State → Prop) {places : List Place}
    {place : Place} (visited : place ∈ places)
    (keepsBefore : ∀ state other, other ≠ place → before state → before (visit
      state other)) (own : ∀ state, before state → after (visit state place))
    (keepsAfter : ∀ state other, after state → after (visit state other))
    {state : State} (start : before state) :
    after (places.foldl visit state) := by
  induction places generalizing state with
  | nil => cases visited
  | cons first places induction =>
    by_cases same : first = place
    · rw [same]
      exact foldl_keeps after keepsAfter places (own state start)
    · exact induction
        ((List.mem_cons.mp visited).resolve_left (Ne.symm same))
        (keepsBefore state first same start)

end DataSafe.Base
