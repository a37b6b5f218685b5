import Mathlib.Data.List.Nodup
import Mathlib.Data.List.Sort

/-!
# Keyed tables

A finite table with at most one entry for each key, as an embedded
key-value store presents one of its buckets.  The entries are kept in a
list without an order of their own; an ordered scan sorts them on demand.

Equality of tables is equality of their entry lists.  Everything a reader
can observe is `get`, so the laws below are stated through it.
-/

namespace DataSafe.Base

/-- A finite table whose keys are pairwise distinct. -/
structure Table (Key Value : Type) where
  entries : List (Key × Value)
  distinct : (entries.map Prod.fst).Nodup
deriving DecidableEq

namespace Table

variable {Key Value : Type}

/-- The table without entries. -/
def empty : Table Key Value :=
  ⟨[], List.nodup_nil⟩

variable (table : Table Key Value) {before : Key → Key → Bool} (key : Key)
  (value : Value)

theorem distinct_filter
    (keep : Key × Value → Bool) :
    ((table.entries.filter keep).map Prod.fst).Nodup :=
  table.distinct.sublist (List.filter_sublist.map Prod.fst)

/-- Keep the entries whose key satisfies `keep`. -/
def restrict (table : Table Key Value) (keep : Key → Bool) :
    Table Key Value :=
  ⟨table.entries.filter (fun entry => keep entry.1), distinct_filter table _⟩

variable [DecidableEq Key]

/-- The value stored under `key`. -/
def get (table : Table Key Value) (key : Key) : Option Value :=
  (table.entries.find? (fun entry => entry.1 = key)).map Prod.snd

/-- Remove the entry of `key`. -/
def delete (table : Table Key Value) (key : Key) : Table Key Value :=
  table.restrict (fun other => other ≠ key)

/-- Store `value` under `key`, replacing an earlier entry. -/
def put (table : Table Key Value) (key : Key) (value : Value) :
    Table Key Value :=
  ⟨(key, value) :: (table.delete key).entries, by
    rw [List.map_cons, List.nodup_cons]
    refine ⟨?_, (table.delete key).distinct⟩
    intro member
    obtain ⟨entry, entryMember, sameKey⟩ := List.mem_map.mp member
    have kept := (List.mem_filter.mp entryMember).2
    simp [sameKey] at kept⟩

@[simp]
theorem get_empty :
    (empty : Table Key Value).get key = none :=
  rfl

theorem get_restrict
    (keep : Key → Bool) (key : Key) :
    (table.restrict keep).get key =
      if keep key then table.get key else none := by
  unfold get restrict
  rw [List.find?_filter]
  by_cases kept : keep key = true
  · rw [if_pos kept]
    congr 2
    funext entry
    by_cases same : entry.1 = key
    · simp [same, kept]
    · simp [same]
  · rw [if_neg kept]
    have absent :
        table.entries.find?
            (fun entry => keep entry.1 && decide (entry.1 = key)) =
          none := by
      rw [List.find?_eq_none]
      intro entry _ accepted
      simp only [Bool.and_eq_true, decide_eq_true_eq] at accepted
      exact kept (accepted.2 ▸ accepted.1)
    simpa using absent

@[simp]
theorem get_delete_self :
    (table.delete key).get key = none := by
  simp [delete, get_restrict]

theorem get_delete_eq_some_iff
    {key other : Key} {value : Value} :
    (table.delete key).get other = some value ↔
      other ≠ key ∧ table.get other = some value := by
  simp [delete, get_restrict]

theorem get_delete_of_ne
    {key other : Key} (distinct : other ≠ key) :
    (table.delete key).get other = table.get other := by
  simp [delete, get_restrict, distinct]

@[simp]
theorem get_put_self :
    (table.put key value).get key = some value := by
  simp [get, put]

theorem get_put_of_ne
    {key other : Key} (distinct : other ≠ key) :
    (table.put key value).get other = table.get other := by
  have skipped :
      (table.put key value).get other = (table.delete key).get other := by
    simp [get, put, Ne.symm distinct]
  rw [skipped, get_delete_of_ne table distinct]

theorem get_put
    (key other : Key) (value : Value) :
    (table.put key value).get other =
      if other = key then some value else table.get other := by
  split_ifs with same
  · subst same
    exact get_put_self table other value
  · exact get_put_of_ne table value same

/-- An entry of the list is what `get` returns for its key. -/
theorem mem_entries_iff :
    (key, value) ∈ table.entries ↔ table.get key = some value := by
  constructor
  · intro member
    unfold get
    cases found : table.entries.find? (fun entry => entry.1 = key) with
    | none =>
      have rejected := List.find?_eq_none.mp found (key, value) member
      simp at rejected
    | some entry =>
      have entryKey : entry.1 = key := by
        simpa using List.find?_some found
      have entryMember := List.mem_of_find?_eq_some found
      have same : entry = (key, value) :=
        List.inj_on_of_nodup_map table.distinct entryMember member entryKey
      simp [same]
  · intro stored
    obtain ⟨entry, found, sameValue⟩ := Option.map_eq_some_iff.mp stored
    have entryKey : entry.1 = key := by
      simpa using List.find?_some found
    have entryMember := List.mem_of_find?_eq_some found
    rwa [← entryKey, ← sameValue]

/-- Deleting an entry takes away what it counted for. -/
theorem countP_delete
    (counts : Key × Value → Bool) :
    (table.delete key).entries.countP counts +
        (if (table.get key).any (fun value => counts (key, value)) then 1
          else 0) =
      table.entries.countP counts := by
  obtain ⟨entries, distinct⟩ := table
  simp only [delete, restrict, get]
  induction entries with
  | nil => simp
  | cons entry entries induction =>
    rw [List.map_cons, List.nodup_cons] at distinct
    have rest := induction distinct.2
    by_cases same : entry.1 = key
    · -- The other entries have other keys, so only this one is deleted.
      have others : entries.filter (fun other => decide (other.1 ≠ key)) =
          entries := by
        refine List.filter_eq_self.mpr fun other member => ?_
        refine decide_eq_true fun equal => distinct.1 ?_
        rw [same, ← equal]
        exact List.mem_map_of_mem member
      have pair : entry = (key, entry.2) := Prod.ext same rfl
      simp only [List.filter_cons, List.find?_cons, same, ne_eq,
        not_true_eq_false, decide_false, Bool.false_eq_true, if_false,
        decide_true, Option.map_some, Option.any_some, others,
        List.countP_cons]
      rw [pair]
    · simp only [List.filter_cons, List.find?_cons, same, ne_eq,
        not_false_eq_true, decide_true, if_true, List.countP_cons, ← rest]
      exact Nat.add_right_comm _ _ _

/-- The entries in the order of a scan. -/
def scan (table : Table Key Value) (before : Key → Key → Bool) :
    List (Key × Value) :=
  table.entries.insertionSort (fun left right => before left.1 right.1)

theorem mem_scan_iff
    (before : Key → Key → Bool) (key : Key) (value : Value) :
    (key, value) ∈ table.scan before ↔ table.get key = some value := by
  rw [← mem_entries_iff]
  exact (List.perm_insertionSort _ _).mem_iff

omit [DecidableEq Key] in
/-- A scan in a total order meets every key once, in this order. -/
theorem scan_pairwise
    (total : ∀ left right, before left right = true ∨ before right left = true)
    (transitive : ∀ left middle right, before left middle = true →
      before middle right = true → before left right = true) :
    (table.scan before).Pairwise (fun left right =>
      before left.1 right.1 = true ∧ left.1 ≠ right.1) := by
  have : Std.Total (fun left right : Key × Value =>
      before left.1 right.1 = true) := ⟨fun left right => total _ _⟩
  have : IsTrans (Key × Value) (fun left right =>
      before left.1 right.1 = true) :=
    ⟨fun left middle right => transitive _ _ _⟩
  have sorted : (table.scan before).Pairwise (fun left right =>
      before left.1 right.1 = true) :=
    List.pairwise_insertionSort _ table.entries
  have permuted : (table.scan before).Perm table.entries :=
    List.perm_insertionSort _ table.entries
  have keys := (permuted.map Prod.fst).nodup_iff.mpr table.distinct
  exact sorted.and (List.pairwise_map.mp keys)

/-- What a bounded walk along an ordered list meets. -/
theorem mem_take_takeWhile_iff
    {Item : Type} (before : Item → Item → Bool)
    (reflexive : ∀ item, before item item = true) (continues : Item → Bool)
    {items : List Item}
    (ordered : items.Pairwise (fun left right => before left right = true ∧
      before right left = false)) (limit : Nat) (item : Item) :
    item ∈ (items.takeWhile continues).take limit ↔ item ∈ items ∧
        (∀ other ∈ items, before other item = true →
          continues other = true) ∧
        items.countP (fun other =>
          before other item && !before item other) < limit := by
  induction items generalizing limit with
  | nil => simp
  | cons head items induction =>
    obtain ⟨first, later⟩ := List.pairwise_cons.mp ordered
    cases limit with
    | zero => simp
    | succ limit =>
      by_cases stays : continues head = true
      · rw [List.takeWhile_cons_of_pos stays, List.take_succ_cons,
          List.mem_cons, List.mem_cons, induction later limit]
        by_cases behind : item ∈ items
        · -- The head comes before every item behind it.
          obtain ⟨forth, back⟩ := first item behind
          have distinct : item ≠ head := by
            rintro rfl
            rw [reflexive] at back
            cases back
          simp [distinct, forth, back, stays]
        · have counted : items.countP (fun other =>
              before other head && !before head other) = 0 := by
            rw [List.countP_eq_zero]
            intro other member
            simp [first other member]
          constructor
          · rintro (rfl | ⟨listed, _⟩)
            · refine ⟨.inl rfl, ?_, ?_⟩
              · intro other member earlier
                rcases List.mem_cons.mp member with rfl | listed
                · exact stays
                · rw [(first other listed).2] at earlier
                  cases earlier
              · simp [counted]
            · exact absurd listed behind
          · rintro ⟨rfl | listed, _⟩
            · exact .inl rfl
            · exact absurd listed behind
      · rw [List.takeWhile_cons_of_neg stays]
        constructor
        · intro absent
          cases absent
        · rintro ⟨member, all, _⟩
          refine absurd (all head List.mem_cons_self ?_) stays
          rcases List.mem_cons.mp member with rfl | listed
          · exact reflexive item
          · exact (first item listed).1

/--
A scan in a linear order that goes on while a condition holds, up to a number
of entries, meets an entry when every entry up to it meets the condition and
fewer than that number come before it.
-/
theorem mem_take_takeWhile_scan_iff
    (total : ∀ left right, before left right = true ∨ before right left = true)
    (transitive : ∀ left middle right, before left middle = true →
      before middle right = true → before left right = true)
    (antisymmetric : ∀ left right, before left right = true →
      before right left = true → left = right)
    (continues : Key × Value → Bool) (limit : Nat)
    (key : Key) (value : Value) :
    (key, value) ∈ ((table.scan before).takeWhile continues).take limit ↔
      table.get key = some value ∧
        (∀ other found, table.get other = some found →
          before other key = true → continues (other, found) = true) ∧
        table.entries.countP (fun entry =>
          before entry.1 key && !before key entry.1) < limit := by
  have permuted : (table.scan before).Perm table.entries :=
    List.perm_insertionSort _ table.entries
  have ordered : (table.scan before).Pairwise (fun left right =>
      before left.1 right.1 = true ∧ before right.1 left.1 = false) := by
    refine (table.scan_pairwise total transitive).imp
      (fun {left right} both => ?_)
    refine ⟨both.1, Bool.eq_false_iff.mpr fun back => ?_⟩
    exact both.2 (antisymmetric _ _ both.1 back)
  rw [mem_take_takeWhile_iff (fun left right => before left.1 right.1)
    (fun item => (total item.1 item.1).elim id id) continues ordered,
    permuted.countP_eq]
  simp only [permuted.mem_iff, Prod.forall, mem_entries_iff]

end Table

end DataSafe.Base
