import Mathlib.Data.List.Nodup
import Mathlib.Data.List.Perm.Basic

/-!
# Pairs grouped by key

A list of pairs read as a map from keys to lists of values.  Listing the
groups, with the values of each group in any order, permutes the pairs.
-/

namespace DataSafe.Base

variable {Key Value : Type} [DecidableEq Key]

/-- The values of one key, in their order. -/
def valuesOf (key : Key) (pairs : List (Key × Value)) : List Value :=
  (pairs.filter (fun pair => pair.1 = key)).map Prod.snd

/-- The groups of these keys, each with its values arranged. -/
def grouped
    (arrange : List Value → List Value) (keys : List Key)
    (pairs : List (Key × Value)) :
    List (Key × Value) :=
  keys.flatMap (fun key =>
    (arrange (valuesOf key pairs)).map (fun value => (key, value)))

theorem map_valuesOf
    (key : Key) (pairs : List (Key × Value)) :
    (valuesOf key pairs).map (fun value => (key, value)) =
      pairs.filter (fun pair => pair.1 = key) := by
  rw [valuesOf, List.map_map]
  conv_rhs => rw [← List.map_id (pairs.filter _)]
  apply List.map_congr_left
  intro pair member
  have sameKey := (List.mem_filter.mp member).2
  rw [decide_eq_true_eq] at sameKey
  exact Prod.ext sameKey.symm rfl

theorem grouped_perm_filter
    {arrange : List Value → List Value}
    (arranged : ∀ values, (arrange values).Perm values) {keys : List Key}
    (distinct : keys.Nodup) (pairs : List (Key × Value)) :
    (grouped arrange keys pairs).Perm
      (pairs.filter (fun pair => pair.1 ∈ keys)) := by
  induction keys with
  | nil => simp [grouped]
  | cons key keys induction =>
    obtain ⟨fresh, distinct⟩ := List.nodup_cons.mp distinct
    have first :
        ((arrange (valuesOf key pairs)).map (fun value => (key, value))).Perm
          (pairs.filter (fun pair => pair.1 = key)) := by
      rw [← map_valuesOf]
      exact (arranged _).map _
    refine (first.append (induction distinct)).trans ?_
    -- The pairs of the first key, then those of the others.
    have split := List.filter_append_perm (fun pair => pair.1 = key)
      (pairs.filter (fun pair => pair.1 ∈ key :: keys))
    rw [List.filter_filter, List.filter_filter] at split
    refine List.Perm.trans (List.Perm.of_eq ?_) split
    congr 1
    · apply List.filter_congr
      intro pair _
      by_cases same : pair.1 = key <;> simp [same]
    · apply List.filter_congr
      intro pair _
      by_cases same : pair.1 = key
      · simp [same, fresh]
      · simp [same]

/-- Grouping permutes the pairs when it covers their keys. -/
theorem grouped_perm
    {arrange : List Value → List Value}
    (arranged : ∀ values, (arrange values).Perm values) {keys : List Key}
    (distinct : keys.Nodup) {pairs : List (Key × Value)}
    (covers : ∀ pair ∈ pairs, pair.1 ∈ keys) :
    (grouped arrange keys pairs).Perm pairs := by
  have all : pairs.filter (fun pair => pair.1 ∈ keys) = pairs := by
    rw [List.filter_eq_self]
    intro pair member
    exact decide_eq_true (covers pair member)
  have perm := grouped_perm_filter arranged distinct pairs
  rwa [all] at perm

end DataSafe.Base
