import Mathlib.Algebra.Order.BigOperators.Group.List
import Mathlib.Algebra.Order.Ring.Nat

/-!
# Joined lists

Lists that are joined with a separator between them.  Two joins agree on the
parts before the first one that holds the separator.  Two joins of equally
many parts agree throughout as soon as one of them has no separator in its
parts.
-/

namespace DataSafe.Base

variable {Item : Type}

/-- What stands before the first separator is determined. -/
theorem append_cons_eq_of_notMem
    {separator : Item} {left right leftRest rightRest : List Item}
    (leftFree : separator ∉ left) (rightFree : separator ∉ right)
    (same : left ++ separator :: leftRest = right ++ separator :: rightRest) :
    left = right ∧ leftRest = rightRest := by
  induction left generalizing right with
  | nil =>
    cases right with
    | nil => exact ⟨rfl, (List.cons.inj same).2⟩
    | cons item right =>
      obtain ⟨rfl, -⟩ := List.cons.inj same
      exact absurd List.mem_cons_self rightFree
  | cons item left induction =>
    cases right with
    | nil =>
      obtain ⟨rfl, -⟩ := List.cons.inj same
      exact absurd List.mem_cons_self leftFree
    | cons other right =>
      obtain ⟨rfl, sameRest⟩ := List.cons.inj same
      obtain ⟨rfl, rest⟩ :=
        induction (fun member => leftFree (.tail _ member))
          (fun member => rightFree (.tail _ member)) sameRest
      exact ⟨rfl, rest⟩

/-- The first part of a join is determined when it has no separator. -/
theorem intercalate_cons_inj
    {separator : Item} {left right leftNext rightNext : List Item}
    {leftRest rightRest : List (List Item)}
    (leftFree : separator ∉ left) (rightFree : separator ∉ right)
    (same : [separator].intercalate (left :: leftNext :: leftRest) =
      [separator].intercalate (right :: rightNext :: rightRest)) :
    left = right ∧ [separator].intercalate (leftNext :: leftRest) =
        [separator].intercalate (rightNext :: rightRest) := by
  exact append_cons_eq_of_notMem leftFree rightFree same

/-- The join of two lists of parts. -/
theorem intercalate_append
    (separator : Item) {front back : List (List Item)}
    (frontParts : front ≠ []) (backParts : back ≠ []) :
    [separator].intercalate (front ++ back) =
      [separator].intercalate front ++
        separator :: [separator].intercalate back := by
  induction front with
  | nil => exact absurd rfl frontParts
  | cons part front induction =>
    cases front with
    | nil =>
      rw [List.singleton_append, List.intercalate_cons_of_ne_nil backParts]
      simp
    | cons next front =>
      rw [List.cons_append, List.intercalate_cons_of_ne_nil (by simp),
        induction (List.cons_ne_nil _ _)]
      simp

/-- An item of a join is the separator or an item of a part. -/
theorem mem_intercalate
    {separator item : Item} {parts : List (List Item)}
    (member : item ∈ [separator].intercalate parts) :
    item = separator ∨ ∃ part ∈ parts, item ∈ part := by
  induction parts with
  | nil => simp at member
  | cons part parts induction =>
    by_cases last : parts = []
    · rw [last, List.intercalate_singleton] at member
      exact .inr ⟨part, List.mem_cons_self, member⟩
    · rw [List.intercalate_cons_of_ne_nil last, List.mem_append,
        List.mem_append, List.mem_singleton] at member
      rcases member with (inside | same) | rest
      · exact .inr ⟨part, List.mem_cons_self, inside⟩
      · exact .inl same
      · rcases induction rest with same | ⟨other, present, inside⟩
        · exact .inl same
        · exact .inr ⟨other, .tail _ present, inside⟩

/-- The items of a part are items of the join. -/
theorem mem_intercalate_of_mem
    {separator item : Item} {parts : List (List Item)} {part : List Item}
    (present : part ∈ parts) (inside : item ∈ part) :
    item ∈ [separator].intercalate parts := by
  induction parts with
  | nil => cases present
  | cons first parts induction =>
    by_cases last : parts = []
    · rw [last, List.mem_singleton] at present
      rwa [last, List.intercalate_singleton, ← present]
    · rw [List.intercalate_cons_of_ne_nil last, List.mem_append,
        List.mem_append]
      rcases List.mem_cons.mp present with rfl | present
      · exact .inl (.inl inside)
      · exact .inr (induction present)

variable [DecidableEq Item]

/-- The items of what a list is split into are items of the list. -/
theorem mem_of_mem_splitOn
    {separator item : Item} {items part : List Item}
    (present : part ∈ items.splitOn separator) (inside : item ∈ part) :
    item ∈ items := by
  rw [← @List.intercalate_splitOn _ items _ _ separator]
  exact mem_intercalate_of_mem present inside

/-- Two joins of free parts are joins of the same parts. -/
theorem intercalate_free_inj
    {separator : Item} {left right : List (List Item)} (leftParts : left ≠ [])
    (rightParts : right ≠ []) (leftFree : ∀ part ∈ left, separator ∉ part)
    (rightFree : ∀ part ∈ right, separator ∉ part)
    (same : [separator].intercalate left = [separator].intercalate right) :
    left = right := by
  rw [← List.splitOn_intercalate separator leftFree leftParts, same,
    List.splitOn_intercalate separator rightFree rightParts]

/-- The separators in a join: those of the parts, and one between two. -/
theorem count_intercalate
    (separator : Item) (part : List Item) (parts : List (List Item)) :
    ([separator].intercalate (part :: parts)).count separator =
      ((part :: parts).map (List.count separator)).sum + parts.length := by
  induction parts generalizing part with
  | nil => simp
  | cons next parts induction =>
    rw [List.intercalate_cons_cons, List.count_append, List.count_append,
      induction next]
    simp only [List.map_cons, List.sum_cons, List.length_cons,
      List.count_singleton_self]
    omega

/-- A join of free parts is no join of equally many other parts. -/
theorem intercalate_inj
    {separator : Item} {left right : List (List Item)}
    (sameLength : left.length = right.length)
    (free : ∀ part ∈ left, separator ∉ part)
    (same : [separator].intercalate left = [separator].intercalate right) :
    left = right := by
  cases left with
  | nil => exact (List.length_eq_zero_iff.mp sameLength.symm).symm
  | cons leftPart leftRest =>
    cases right with
    | nil => cases sameLength
    | cons rightPart rightRest =>
      have counts := congrArg (List.count separator) same
      rw [count_intercalate, count_intercalate] at counts
      have leftZero :
          ((leftPart :: leftRest).map (List.count separator)).sum = 0 := by
        rw [List.sum_eq_zero_iff]
        intro number member
        obtain ⟨part, present, rfl⟩ := List.mem_map.mp member
        exact List.count_eq_zero.mpr (free part present)
      have rightZero :
          ((rightPart :: rightRest).map (List.count separator)).sum = 0 := by
        simp only [List.length_cons] at sameLength
        omega
      have rightFree : ∀ part ∈ rightPart :: rightRest,
          separator ∉ part := by
        intro part present
        exact List.count_eq_zero.mp (List.sum_eq_zero_iff.mp rightZero _
          (List.mem_map_of_mem present))
      rw [← List.splitOn_intercalate separator free (List.cons_ne_nil _ _),
        same,
        List.splitOn_intercalate separator rightFree (List.cons_ne_nil _ _)]

end DataSafe.Base
