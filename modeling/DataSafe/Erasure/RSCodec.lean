import DataSafe.Erasure.XorCodec

/-!
# The Reed-Solomon codec

`RSCodec` wraps an encoder of the library `reedsolomon`.  The encoder stands
here as a parameter, with what its documentation says as a structure of laws:
how it splits a payload, that any shards of a set, as many as there are data
shards, give the set, and that a set of empty shards is an error.

`Encode` makes a set of empty shards for an empty payload by itself, and
`Decode` hands such a set to the library like any other.
-/

namespace DataSafe.Erasure

open Base

/-- An encoder of the library.  A call that changes the shards it is given
returns them. -/
structure ReedSolomon where
  split : Bytes → Except String (List Bytes)
  encode : List Bytes → Except String (List Bytes)
  reconstruct : List (Option Bytes) → Except String (List Bytes)
  verify : List Bytes → Except String Bool
  join : List Bytes → Nat → Except String Bytes

inductive RSErr where
  | invalidShardCount
  | missingShard
  | library (text : String)
deriving DecidableEq

/-- `RSCodec.Encode` -/
def rsEncode (layout : Layout) (encoder : ReedSolomon) (data : Bytes) :
    Except RSErr (List Bytes) :=
  if data.length = 0 then .ok (List.replicate layout.total [])
  else
    match encoder.split data with
    | .error err => .error (.library err)
    | .ok shards =>
      match encoder.encode shards with
      | .error err => .error (.library err)
      | .ok shards => .ok shards

/-- `RSCodec.Decode` -/
def rsDecode (layout : Layout) (encoder : ReedSolomon)
    (shards : List (Option Bytes)) (origLen : Int) : Except RSErr Bytes :=
  if shards.length ≠ layout.total then .error .invalidShardCount
  else
    match encoder.reconstruct shards with
    | .error err => .error (.library err)
    | .ok shards =>
      match encoder.verify shards with
      | .error err => .error (.library err)
      | .ok false => .error .missingShard
      | .ok true =>
        let outSize :=
          if origLen ≤ 0 then
            (shards.getD 0 []).length * layout.dataShards
          else origLen.toNat
        match encoder.join shards outSize with
        | .error err => .error (.library err)
        | .ok out =>
          if 0 ≤ origLen ∧ origLen ≤ out.length then
            .ok (out.take origLen.toNat)
          else .ok out

/-- Data shards of one size that is not zero. -/
structure DataShards (layout : Layout) (size : Nat) (shards : List Bytes) :
    Prop where
  positive : 0 < size
  count : shards.length = layout.dataShards
  sized : ∀ shard ∈ shards, shard.length = size

/-- What the library documents, for a code with the given parity shards. -/
structure ReedSolomon.Lawful (encoder : ReedSolomon) (layout : Layout)
    (parityOf : List Bytes → List Bytes) : Prop where
  parity : ∀ size shards, DataShards layout size shards →
    (parityOf shards).length = layout.parityShards
  split : ∀ data, data ≠ [] → ∃ parities, encoder.split data =
        .ok ((List.range layout.dataShards).map (dataShard layout data) ++
          parities) ∧
      parities.length = layout.parityShards ∧
      ∀ shard ∈ parities, shard.length = layout.chunk data.length
  encode : ∀ size shards parities, DataShards layout size shards →
    parities.length = layout.parityShards →
    (∀ shard ∈ parities, shard.length = size) →
    encoder.encode (shards ++ parities) = .ok (shards ++ parityOf shards)
  reconstruct : ∀ size shards missing, DataShards layout size shards →
    layout.dataShards ≤
      ((lose missing (shards ++ parityOf shards)).filterMap id).length →
    encoder.reconstruct (lose missing (shards ++ parityOf shards)) =
      .ok (shards ++ parityOf shards)
  reconstruct_empty : ∀ shards : List (Option Bytes),
    (∀ shard ∈ shards, shard.getD [] = []) →
      ∃ err, encoder.reconstruct shards = .error err
  verify : ∀ size shards, DataShards layout size shards →
    encoder.verify (shards ++ parityOf shards) = .ok true
  verify_empty : ∀ shards : List Bytes, (∀ shard ∈ shards, shard = []) →
    ∃ err, encoder.verify shards = .error err
  join : ∀ shards outSize,
    outSize ≤ (shards.take layout.dataShards).flatten.length →
    encoder.join shards outSize =
      .ok ((shards.take layout.dataShards).flatten.take outSize)

section

variable {layout : Layout} {encoder : ReedSolomon}
  {parityOf : List Bytes → List Bytes} {payload : Bytes}
  {missing : Finset Nat}

section

variable (lawful : encoder.Lawful layout parityOf)
  (data : 0 < layout.dataShards) (some : payload ≠ [])

include lawful data some

omit lawful in
theorem dataShards_of_payload :
    DataShards layout (layout.chunk payload.length)
      ((List.range layout.dataShards).map (dataShard layout payload)) where
  positive := by
    have := List.length_pos_iff.mpr some
    exact Nat.div_pos (by omega) data
  count := by simp
  sized shard member := by
    rcases List.mem_map.mp member with ⟨index, inside, rfl⟩
    exact length_dataShard data payload (List.mem_range.mp inside)

omit lawful data some in
/-- The loss of at most as many shards as there are parity shards leaves as
many as there are data shards. -/
theorem le_length_left
    {shards : List Bytes} (count : shards.length = layout.total)
    (few : missing.card ≤ layout.parityShards) :
    layout.dataShards ≤ ((lose missing shards).filterMap id).length := by
  have indexed : shards =
      (List.range layout.total).map fun index => shards.getD index [] := by
    apply List.ext_getElem
    · simp [count]
    · intro index inside _
      simp [inside]
  have gone : ((List.range layout.total).filter (· ∈ missing)).length ≤
      missing.card := by
    rw [← List.toFinset_card_of_nodup (List.nodup_range.filter _)]
    apply Finset.card_le_card
    intro index member
    simpa using (List.mem_filter.mp (List.mem_toFinset.mp member)).2
  have both := List.length_eq_length_filter_add
    (l := List.range layout.total) (· ∈ missing)
  rw [indexed, lose_map, filterMap_lost, List.length_map]
  simp only [List.length_range, Layout.total, decide_not] at both gone ⊢
  omega

theorem rsEncode_of_lawful :
    rsEncode layout encoder payload =
      .ok ((List.range layout.dataShards).map (dataShard layout payload) ++
        parityOf ((List.range layout.dataShards).map
          (dataShard layout payload))) := by
  rcases lawful.split payload some with ⟨parities, split, count, sized⟩
  rw [rsEncode, if_neg (by simpa using some), split]
  dsimp only
  rw [lawful.encode _ _ _ (dataShards_of_payload data some) count sized]

theorem rsDecode_of_lawful
    (few : missing.card ≤ layout.parityShards) :
    rsDecode layout encoder (lose missing ((List.range layout.dataShards).map
          (dataShard layout payload) ++
            parityOf ((List.range layout.dataShards).map
              (dataShard layout payload)))) payload.length =
      .ok payload := by
  have shards := dataShards_of_payload data some
  generalize cut : (List.range layout.dataShards).map
    (dataShard layout payload) = parts at shards
  have count : (parts ++ parityOf parts).length = layout.total := by
    rw [List.length_append, shards.count, lawful.parity _ _ shards]
    rfl
  have front : (parts ++ parityOf parts).take layout.dataShards = parts :=
    List.take_left' shards.count
  have whole : parts.flatten.take payload.length = payload := by
    rw [← cut]
    exact take_flatten_dataShards data
  have long : payload.length ≤ parts.flatten.length := by
    have := congrArg List.length whole
    rw [List.length_take] at this
    omega
  have positive := List.length_pos_iff.mpr some
  rw [rsDecode, if_neg (by simp [lose, count]),
    lawful.reconstruct _ _ _ shards (le_length_left count few)]
  dsimp only
  rw [lawful.verify _ _ shards]
  rw [if_neg (by omega), Int.toNat_natCast,
    lawful.join _ _ (by rw [front]; exact long), front, whole]
  simp

omit data some in
theorem rsDecode_of_empty
    (missing : Finset Nat) (origLen : Int) :
    ∃ err, rsDecode layout encoder
      (lose missing (List.replicate layout.total [])) origLen =
        .error err := by
  rcases lawful.reconstruct_empty
    (lose missing (List.replicate layout.total [])) (by
      intro shard member
      rcases List.mem_mapIdx.mp member with ⟨index, inside, rfl⟩
      split <;> simp) with ⟨err, failed⟩
  refine ⟨.library err, ?_⟩
  rw [rsDecode, if_neg (by simp [lose]), failed]

end

end

/--
A payload comes back after the loss of at most as many shards as there are
parity shards, just if it is not empty.
-/
theorem rs_round_trip_iff
    (layout : Layout) (data : 0 < layout.dataShards)
    (encoder : ReedSolomon) (parityOf : List Bytes → List Bytes)
    (lawful : encoder.Lawful layout parityOf) (payload : Bytes)
    (missing : Finset Nat) (few : missing.card ≤ layout.parityShards) :
    (∃ shards, rsEncode layout encoder payload = .ok shards ∧
      rsDecode layout encoder (lose missing shards) payload.length =
        .ok payload) ↔
      payload ≠ [] := by
  constructor
  · rintro ⟨shards, encoded, decoded⟩ rfl
    rw [← Except.ok.inj encoded] at decoded
    rcases rsDecode_of_empty lawful missing
      (List.length ([] : Bytes)) with ⟨err, failed⟩
    rw [failed] at decoded
    cases decoded
  · intro some
    exact ⟨_, rsEncode_of_lawful lawful data some,
      rsDecode_of_lawful lawful data some few⟩

/-- A code with one data shard and one parity shard that repeats it. -/
def repetition : ReedSolomon where
  split data := .ok [data, List.replicate data.length 0]
  encode shards := .ok [shards.getD 0 [], shards.getD 0 []]
  reconstruct shards :=
    match (shards.filterMap id).filter (· ≠ []) with
    | [] => .error "no shard data"
    | shard :: _ => .ok [shard, shard]
  verify shards :=
    if shards.getD 0 [] = [] then .error "no shard data"
    else .ok (decide (shards.getD 0 [] = shards.getD 1 []))
  join shards outSize := .ok ((shards.take 1).flatten.take outSize)

theorem repetition_shards
    {size : Nat} {shards : List Bytes}
    (valid : DataShards ⟨1, 1⟩ size shards) :
    ∃ shard, shards = [shard] ∧ shard ≠ [] := by
  rcases List.length_eq_one_iff.mp valid.count with ⟨shard, rfl⟩
  refine ⟨shard, rfl, ?_⟩
  rintro rfl
  have := valid.sized [] List.mem_cons_self
  have := valid.positive
  simp_all

theorem repetition_lawful : repetition.Lawful ⟨1, 1⟩ id where
  parity _ _ valid := valid.count
  split data _ := by
    refine ⟨[List.replicate data.length 0], ?_, rfl, ?_⟩
    · simp [repetition, dataShard, padded, Layout.chunk]
    · simp [Layout.chunk]
  encode size shards parities valid _ _ := by
    rcases repetition_shards valid with ⟨shard, rfl, -⟩
    rfl
  reconstruct size shards missing valid enough := by
    rcases repetition_shards valid with ⟨shard, rfl, some⟩
    by_cases first : 0 ∈ missing <;> by_cases second : 1 ∈ missing <;>
      simp_all [repetition, lose]
  reconstruct_empty shards empty := by
    refine ⟨"no shard data", ?_⟩
    have none : (shards.filterMap id).filter (· ≠ []) = [] := by
      rw [List.filter_eq_nil_iff]
      intro shard member
      have := empty (some shard) (by simpa using member)
      simpa using this
    simp only [repetition, none]
  verify size shards valid := by
    rcases repetition_shards valid with ⟨shard, rfl, some⟩
    simp [repetition, some]
  verify_empty shards empty := by
    refine ⟨"no shard data", ?_⟩
    cases shards with
    | nil => rfl
    | cons shard rest => simp [repetition, empty shard List.mem_cons_self]
  join shards outSize _ := rfl

/-- An empty payload does not come back, even if no shard is lost. -/
theorem empty_payload_lost :
    rsEncode ⟨1, 1⟩ repetition [] = .ok [[], []] ∧
      rsDecode ⟨1, 1⟩ repetition (lose ∅ [[], []]) 0 =
        .error (.library "no shard data") := by
  decide

/-- A byte comes back from its parity shard. -/
theorem repetition_round_trip :
    (∃ shards, rsEncode ⟨1, 1⟩ repetition [7] = .ok shards ∧
      rsDecode ⟨1, 1⟩ repetition (lose {0} shards) 1 = .ok [7]) ↔
      ([7] : Bytes) ≠ [] :=
  rs_round_trip_iff ⟨1, 1⟩ (by decide) repetition id repetition_lawful [7] {0}
    (by decide)

end DataSafe.Erasure
