import DataSafe.Base.Xor
import Mathlib.Algebra.BigOperators.Group.Finset.Piecewise
import Mathlib.Algebra.BigOperators.Pi
import Mathlib.Data.Finset.Card

/-!
# The parity codec

`Encode` cuts a payload into data shards of one size, fills the last ones up
with zeros and adds parity shards; parity shard `p` is the exclusive or of the
data shards whose index leaves the remainder `p`.  `Decode` recovers each
missing data shard from the first parity shard and every data shard that is
there at that moment, those recovered before included.

So the first missing data shard becomes the exclusive or of the first parity
shard and all data shards that are there, and every later one becomes zero.
The result is compared with the payload byte by byte, which gives the exact
condition under which the codec does not return wrong data.
-/

namespace DataSafe.Erasure

open Base

structure Layout where
  dataShards : Nat
  parityShards : Nat
deriving DecidableEq

/-- `LabLayout` -/
def labLayout : Layout := ⟨4, 2⟩

def Layout.total (layout : Layout) : Nat :=
  layout.dataShards + layout.parityShards

inductive CodecErr where
  | invalidShardCount
  | shardTooShort
  | missingShard
  /-- The run-time panic of an index beyond a slice. -/
  | outOfRange
deriving DecidableEq

/-! ## Encoding -/

/-- The size of the shards for a payload of some length. -/
def Layout.chunk (layout : Layout) (length : Nat) : Nat :=
  (length + layout.dataShards - 1) / layout.dataShards

/-- The payload, filled up with zeros. -/
def padded (layout : Layout) (data : Bytes) : Bytes :=
  data ++ List.replicate
    (layout.chunk data.length * layout.dataShards - data.length) 0

/-- `padded[i*chunk:(i+1)*chunk]` -/
def dataShard (layout : Layout) (data : Bytes) (index : Nat) : Bytes :=
  ((padded layout data).drop (index * layout.chunk data.length)).take
    (layout.chunk data.length)

/-- One parity shard: the data shards whose index falls to it. -/
def parityShard (layout : Layout) (chunk : Nat) (shards : List Bytes)
    (parity : Nat) : Bytes :=
  (List.range layout.dataShards).foldl (fun sum index =>
      if index % layout.parityShards = parity then
        xorBytes sum (shards.getD index [])
      else sum)
    (List.replicate chunk 0)

/-- `Encode` -/
def encode (data : Bytes) (layout : Layout) : Except CodecErr (List Bytes) :=
  if layout.dataShards < 1 ∨ layout.parityShards < 1 then
    .error .invalidShardCount
  else if data.length = 0 then .ok (List.replicate layout.total [])
  else
    let shards := (List.range layout.dataShards).map (dataShard layout data)
    .ok (shards ++ (List.range layout.parityShards).map
      (parityShard layout (layout.chunk data.length) shards))

/-! ## Decoding -/

/-- Add the other data shards that are there. -/
def addOthers (chunk index : Nat) :
    Nat → List (Option Bytes) → Bytes → Except CodecErr Bytes
  | _, [], sum => .ok sum
  | place, none :: shards, sum => addOthers chunk index (place + 1) shards sum
  | place, some shard :: shards, sum =>
    if place = index then addOthers chunk index (place + 1) shards sum
    else if shard.length < chunk then .error .outOfRange
    else addOthers chunk index (place + 1) shards (xorBytes sum shard)

/-- One round of the loop: recover a data shard if it is missing. -/
def recoverShard (layout : Layout) (chunk : Nat)
    (shards : List (Option Bytes)) (index : Nat) : Except CodecErr (List (Option Bytes)) :=
  match shards.getD index none with
  | some _ => .ok shards
  | none =>
    match shards.getD layout.dataShards none with
    | none => .error .missingShard
    | some parity =>
      match addOthers chunk index 0 (shards.take layout.dataShards)
          (parity.take chunk ++
            List.replicate (chunk - parity.length) 0) with
      | .error err => .error err
      | .ok recovered => .ok (shards.set index (some recovered))

/-- The loop over the data shards. -/
def recoverShards (layout : Layout) (chunk : Nat) :
    List Nat → List (Option Bytes) → Except CodecErr (List (Option Bytes))
  | [], shards => .ok shards
  | index :: rest, shards =>
    match recoverShard layout chunk shards index with
    | .error err => .error err
    | .ok recovered => recoverShards layout chunk rest recovered

/-- The length of the longest shard that is there. -/
def longest (shards : List (Option Bytes)) : Nat :=
  shards.foldl (fun chunk shard => max chunk (shard.getD []).length) 0

/-- The data shards one after the other. -/
def joinShards : List (Option Bytes) → Except CodecErr Bytes
  | [] => .ok []
  | none :: _ => .error .missingShard
  | some shard :: shards =>
    match joinShards shards with
    | .error err => .error err
    | .ok out => .ok (shard ++ out)

/-- `Decode` -/
def decode (shards : List (Option Bytes)) (layout : Layout) (origLen : Int) :
    Except CodecErr Bytes :=
  if shards.length ≠ layout.total then .error .invalidShardCount
  else if origLen < 0 then .error .shardTooShort
  else if longest shards = 0 then .ok []
  else
    match recoverShards layout (longest shards)
        (List.range layout.dataShards) shards with
    | .error err => .error err
    | .ok recovered =>
      match joinShards (recovered.take layout.dataShards) with
      | .error err => .error err
      | .ok out =>
        if (out.length : Int) < origLen then .error .shardTooShort
        else if origLen = 0 then .ok out
        else .ok (out.take origLen.toNat)

/-- The shards of a set after some of them have been set to nil. -/
def lose (missing : Finset Nat) (shards : List Bytes) :
    List (Option Bytes) :=
  shards.mapIdx fun index shard =>
    if index ∈ missing then none else some shard

/-! ## What the loop recovers -/

/-- The first missing shard becomes a sum, and each later one zero. -/
def fillMissing (chunk : Nat) : Bytes → List (Option Bytes) → List Bytes
  | _, [] => []
  | sum, some shard :: shards => shard :: fillMissing chunk sum shards
  | sum, none :: shards =>
    sum :: fillMissing chunk (List.replicate chunk 0) shards

variable {chunk index place count : Nat} {shards rest : List (Option Bytes)}
  {layout : Layout} {indices : List Nat} {part : Nat → Bytes}

theorem addOthers_eq
    (sum : Bytes)
    (sized : ∀ shard, some shard ∈ shards → shard.length = chunk)
    (away : ∀ offset shard, shards[offset]? = some (some shard) →
      place + offset ≠ index) :
    addOthers chunk index place shards sum =
      .ok ((shards.filterMap id).foldl xorBytes sum) := by
  induction shards generalizing place sum with
  | nil => rfl
  | cons shard shards induction =>
    have later : ∀ offset shard, shards[offset]? = some (some shard) →
        place + 1 + offset ≠ index := by
      intro offset shard found
      have := away (offset + 1) shard found
      omega
    have rest := fun sum => induction sum
      (fun shard member => sized shard (List.mem_cons_of_mem _ member))
      later
    cases shard with
    | none => exact rest sum
    | some shard =>
      have here : place ≠ index := away 0 shard rfl
      have long : ¬ shard.length < chunk := by
        rw [sized shard List.mem_cons_self]
        exact lt_irrefl chunk
      simp only [addOthers, here, long]
      exact rest (xorBytes sum shard)

theorem recoverShard_some
    {front : List Bytes} {shard : Bytes} :
    recoverShard layout chunk (front.map some ++ some shard :: rest)
        front.length =
      .ok (front.map some ++ some shard :: rest) := by
  simp [recoverShard]

theorem recoverShard_none
    {front : List Bytes} {parity : Bytes} {parities : List (Option Bytes)}
    (count : front.length + (rest.length + 1) = layout.dataShards)
    (frontSized : ∀ shard ∈ front, shard.length = chunk)
    (restSized : ∀ shard, some shard ∈ rest → shard.length = chunk)
    (paritySized : parity.length = chunk) :
    recoverShard layout chunk
        (front.map some ++ none :: (rest ++ some parity :: parities))
        front.length =
      .ok (front.map some ++
        some ((front ++ rest.filterMap id).foldl xorBytes parity) ::
          (rest ++ some parity :: parities)) := by
  have here : (front.map some ++ none :: (rest ++ some parity ::
      parities)).getD front.length none = none := by
    simp [List.getD_eq_getElem?_getD]
  have behind : (front.map some ++ none :: (rest ++ some parity ::
      parities)).getD layout.dataShards none = some parity := by
    rw [← count]
    simp [List.getD_eq_getElem?_getD]
  have data : (front.map some ++ none :: (rest ++ some parity ::
      parities)).take layout.dataShards = front.map some ++ none :: rest := by
    rw [← List.cons_append, ← List.append_assoc]
    exact List.take_left' (by simpa using count)
  have sum : addOthers chunk front.length 0 (front.map some ++ none :: rest)
      (parity.take chunk ++ List.replicate (chunk - parity.length) 0) =
        .ok ((front ++ rest.filterMap id).foldl xorBytes parity) := by
    rw [addOthers_eq]
    · rw [List.take_of_length_le paritySized.le, paritySized]
      simp
    · intro shard member
      rcases List.mem_append.mp member with before | after
      · rcases List.mem_map.mp before with ⟨_, member, ⟨⟩⟩
        exact frontSized shard member
      · exact restSized shard (by simpa using after)
    · intro offset shard found same
      rw [Nat.zero_add] at same
      simp [same] at found
  simp only [recoverShard, behind, data, sum]
  simp

/-- The loop over the data shards fills the missing ones. -/
theorem recoverShards_eq
    (layout : Layout) {parity : Bytes}
    (parities : List (Option Bytes)) (paritySized : parity.length = chunk)
    (rest : List (Option Bytes)) (front : List Bytes)
    (count : front.length + rest.length = layout.dataShards)
    (frontSized : ∀ shard ∈ front, shard.length = chunk)
    (restSized : ∀ shard, some shard ∈ rest → shard.length = chunk) :
    recoverShards layout chunk (List.range' front.length rest.length)
        (front.map some ++ (rest ++ some parity :: parities)) =
      .ok ((front ++ fillMissing chunk
        ((front ++ rest.filterMap id).foldl xorBytes parity) rest).map some ++
          some parity :: parities) := by
  induction rest generalizing front with
  | nil => simp [recoverShards, fillMissing]
  | cons shard rest induction =>
    have restSized' := fun other member =>
      restSized other (List.mem_cons_of_mem shard member)
    -- A step keeps the sum of the parity and the shards that are there,
    -- unless it recovers one: then that sum becomes zero.
    have step := fun (next : Bytes) (sized : next.length = chunk) =>
      induction (front ++ [next]) (by
          rw [List.length_append, ← count]
          simp only [List.length_cons, List.length_nil]
          omega)
        (by
          intro other member
          rcases List.mem_append.mp member with before | same
          · exact frontSized other before
          · rw [List.mem_singleton.mp same]
            exact sized)
        restSized'
    simp only [List.length_append, List.map_append, List.append_assoc,
      List.singleton_append] at step
    rw [List.length_cons, List.range'_succ, recoverShards, List.cons_append]
    cases shard with
    | some shard =>
      rw [recoverShard_some]
      refine (step shard (restSized shard List.mem_cons_self)).trans ?_
      simp [fillMissing]
    | none =>
      rw [recoverShard_none count frontSized restSized' paritySized]
      have sized : ∀ shard ∈ front ++ rest.filterMap id,
          shard.length = parity.length := by
        intro shard member
        rw [paritySized]
        rcases List.mem_append.mp member with before | after
        · exact frontSized shard before
        · exact restSized' shard (by simpa using after)
      have zero := foldl_xorBytes_cancel sized
      have length := (foldl_xorBytes _ _ sized).1.trans paritySized
      refine (step _ length).trans ?_
      rw [zero, paritySized]
      simp [fillMissing]

theorem recoverShards_complete
    (there : ∀ index ∈ indices, ∃ shard,
      shards.getD index none = some shard) :
    recoverShards layout chunk indices shards = .ok shards := by
  induction indices with
  | nil => rfl
  | cons index indices induction =>
    rcases there index List.mem_cons_self with ⟨shard, found⟩
    rw [recoverShards, recoverShard, found]
    exact induction fun other member =>
      there other (List.mem_cons_of_mem index member)

theorem recoverShards_without_parity
    (noParity : shards.getD layout.dataShards none = none)
    (gap : ∃ index ∈ indices, shards.getD index none = none) :
    recoverShards layout chunk indices shards = .error .missingShard := by
  induction indices with
  | nil => simp at gap
  | cons index indices induction =>
    rw [recoverShards, recoverShard]
    cases found : shards.getD index none with
    | none => rw [noParity]
    | some shard =>
      rcases gap with ⟨other, member, missing⟩
      rcases List.mem_cons.mp member with rfl | later
      · rw [found] at missing
        cases missing
      · exact induction ⟨other, later, missing⟩

theorem joinShards_map_some (shards : List Bytes) :
    joinShards (shards.map some) = .ok shards.flatten := by
  induction shards with
  | nil => rfl
  | cons shard shards induction =>
    rw [List.map_cons, joinShards, induction, List.flatten_cons]

theorem longest_of_sized
    (sized : ∀ shard, some shard ∈ shards → shard.length = chunk)
    (present : ∃ shard, some shard ∈ shards) : longest shards = chunk := by
  have general : ∀ start ≤ chunk,
      (start = chunk ∨ ∃ shard, some shard ∈ shards) →
      shards.foldl (fun chunk shard => max chunk (shard.getD []).length)
          start = chunk := by
    clear present
    induction shards with
    | nil => simp
    | cons shard shards induction =>
      intro start small reached
      have rest := induction fun other member =>
        sized other (List.mem_cons_of_mem shard member)
      rw [List.foldl_cons]
      cases shard with
      | none =>
        rw [Option.getD_none, List.length_nil, Nat.max_zero]
        exact rest start small (by simpa using reached)
      | some shard =>
        rw [Option.getD_some, sized shard List.mem_cons_self,
          max_eq_right small]
        exact rest chunk le_rfl (.inl rfl)
  exact general 0 (Nat.zero_le chunk) (.inr present)

theorem longest_of_absent
    (absent : ∀ shard ∈ shards, shard.getD [] = []) : longest shards = 0 := by
  rw [longest]
  induction shards with
  | nil => rfl
  | cons shard shards induction =>
    rw [List.foldl_cons, absent shard List.mem_cons_self]
    exact induction fun other member =>
      absent other (List.mem_cons_of_mem shard member)

/-! ## Shards by their index -/

section Indexed

variable (missing : Finset Nat) (part : Nat → Bytes)

/-- A data shard unless it is missing. -/
def lost (index : Nat) : Option Bytes :=
  if index ∈ missing then none else some (part index)

/-- What stands for a data shard in the end. -/
def filled (chunk : Nat) (sum : Bytes) (index : Nat) : Bytes :=
  if index ∈ missing then
    if ∃ earlier ∈ missing, earlier < index then List.replicate chunk 0
    else sum
  else part index

theorem fillMissing_map_lost (chunk count start : Nat) (sum : Bytes) :
    fillMissing chunk sum ((List.range' start count).map
        (lost missing part)) =
      (List.range' start count).map fun index =>
        if index ∈ missing then
          if ∃ earlier ∈ missing, start ≤ earlier ∧ earlier < index then
            List.replicate chunk 0
          else sum
        else part index := by
  induction count generalizing start sum with
  | zero => rfl
  | succ count induction =>
    rw [List.range'_succ, List.map_cons, List.map_cons]
    by_cases gone : start ∈ missing
    · have empty : ¬ ∃ earlier ∈ missing,
          start ≤ earlier ∧ earlier < start := by
        rintro ⟨earlier, -, above, below⟩
        omega
      rw [lost, if_pos gone, fillMissing, if_pos gone, if_neg empty,
        induction]
      congr 1
      apply List.map_congr_left
      intro index member
      have after : start < index := by
        have := (List.mem_range'_1.mp member).1
        omega
      have found : ∃ earlier ∈ missing, start ≤ earlier ∧ earlier < index :=
        ⟨start, gone, le_rfl, after⟩
      rw [ite_self, if_pos found]
    · rw [lost, if_neg gone, fillMissing, if_neg gone, induction]
      congr 1
      apply List.map_congr_left
      intro index _
      have same : (∃ earlier ∈ missing,
          start + 1 ≤ earlier ∧ earlier < index) ↔
            ∃ earlier ∈ missing, start ≤ earlier ∧ earlier < index := by
        constructor
        · rintro ⟨earlier, member, above, below⟩
          exact ⟨earlier, member, by omega, below⟩
        · rintro ⟨earlier, member, above, below⟩
          have apart : earlier ≠ start := by
            rintro rfl
            exact gone member
          exact ⟨earlier, member, by omega, below⟩
      simp only [same]

theorem filterMap_lost (count : Nat) :
    ((List.range count).map (lost missing part)).filterMap id =
      ((List.range count).filter (· ∉ missing)).map part := by
  induction count with
  | zero => rfl
  | succ count induction =>
    rw [List.range_succ, List.map_append, List.filterMap_append, induction]
    by_cases gone : count ∈ missing <;> simp [lost, gone]

section

variable {part : Nat → Bytes}
  (sized : ∀ index < count, (part index).length = chunk)

include sized

theorem length_flatten_map :
    ((List.range count).map part).flatten.length = count * chunk := by
  induction count with
  | zero => simp
  | succ count induction =>
    rw [List.range_succ, List.map_append, List.flatten_append,
      List.length_append, induction fun index less =>
        sized index (by omega), Nat.succ_mul]
    simp [sized count (Nat.lt_succ_self count)]

theorem getD_flatten_map
    (inside : place < count * chunk) :
    ((List.range count).map part).flatten.getD place 0 =
      (part (place / chunk)).getD (place % chunk) 0 := by
  induction count with
  | zero => simp at inside
  | succ count induction =>
    have sized' := fun index (less : index < count) =>
      sized index (by omega)
    have before := length_flatten_map sized'
    simp only [List.getD_eq_getElem?_getD] at induction ⊢
    rw [List.range_succ, List.map_append, List.flatten_append]
    rcases Nat.lt_or_ge place (count * chunk) with early | late
    · rw [List.getElem?_append_left (before ▸ early)]
      exact induction sized' early
    · rw [List.getElem?_append_right (before ▸ late), before]
      rw [Nat.succ_mul] at inside
      have quotient : place / chunk = count :=
        Nat.div_eq_of_lt_le (by omega) (by rw [Nat.succ_mul]; omega)
      have remainder : place % chunk = place - count * chunk := by
        rw [← Nat.mod_add_div place chunk, quotient, Nat.mul_comm chunk]
        simp
      rw [quotient, remainder]
      simp

end

end Indexed

/-! ## The encoded shards -/

section Encoded

variable {layout : Layout} {payload : Bytes} {missing : Finset Nat}

theorem le_chunk_mul
    (positive : 0 < layout.dataShards) (length : Nat) :
    length ≤ layout.chunk length * layout.dataShards := by
  rw [Layout.chunk]
  have division := Nat.div_add_mod (length + layout.dataShards - 1)
    layout.dataShards
  have remainder := Nat.mod_lt (length + layout.dataShards - 1) positive
  rw [Nat.mul_comm] at division
  omega

theorem length_dataShard
    (positive : 0 < layout.dataShards) (payload : Bytes)
    (inside : index < layout.dataShards) :
    (dataShard layout payload index).length =
      layout.chunk payload.length := by
  have fits := le_chunk_mul positive payload.length
  have rows : (index + 1) * layout.chunk payload.length ≤
      layout.dataShards * layout.chunk payload.length :=
    Nat.mul_le_mul_right _ inside
  rw [Nat.succ_mul, Nat.mul_comm layout.dataShards] at rows
  rw [dataShard, List.length_take, List.length_drop, padded,
    List.length_append, List.length_replicate]
  omega

theorem getD_dataShard
    {offset : Nat} (inside : offset < layout.chunk payload.length) :
    (dataShard layout payload index).getD offset 0 =
      payload.getD (index * layout.chunk payload.length + offset) 0 := by
  simp only [dataShard, padded, List.getD_eq_getElem?_getD,
    List.getElem?_take_of_lt inside, List.getElem?_drop]
  rcases Nat.lt_or_ge (index * layout.chunk payload.length + offset)
    payload.length with early | late
  · rw [List.getElem?_append_left early]
  · rw [List.getElem?_append_right late, List.getElem?_replicate,
      List.getElem?_eq_none late]
    split <;> rfl

/-- A shard of the encoded set: data shards first, then parity shards. -/
def encodedShard (layout : Layout) (payload : Bytes) (index : Nat) : Bytes :=
  if index < layout.dataShards then dataShard layout payload index
  else parityShard layout (layout.chunk payload.length)
    ((List.range layout.dataShards).map (dataShard layout payload))
    (index - layout.dataShards)

theorem encode_eq
    (data : 0 < layout.dataShards) (parity : 0 < layout.parityShards)
    (some : payload ≠ []) :
    encode payload layout =
      .ok ((List.range layout.total).map (encodedShard layout payload)) := by
  have valid : ¬ (layout.dataShards < 1 ∨ layout.parityShards < 1) := by
    omega
  have length : payload.length ≠ 0 := by
    rwa [Ne, List.length_eq_zero_iff]
  rw [encode, if_neg valid, if_neg length, Layout.total, List.range_add,
    List.map_append, List.map_map]
  dsimp only
  congr 2
  · apply List.map_congr_left
    intro index member
    rw [encodedShard, if_pos (List.mem_range.mp member)]
  · apply List.map_congr_left
    intro index _
    rw [Function.comp, encodedShard, if_neg (by omega),
      Nat.add_sub_cancel_left]

theorem parityShard_eq
    {parity : Nat} :
    parityShard layout chunk ((List.range layout.dataShards).map part)
        parity =
      (((List.range layout.dataShards).filter
        (· % layout.parityShards = parity)).map part).foldl xorBytes
          (List.replicate chunk 0) := by
  rw [List.foldl_map, List.foldl_filter]
  apply List.foldl_ext
  intro sum index member
  have found : ((List.range layout.dataShards).map part).getD index [] =
      part index := by
    simp [List.mem_range.mp member]
  simp only [found, decide_eq_true_eq]

theorem parityShard_spec
    (positive : 0 < layout.dataShards) (payload : Bytes) (parity : Nat) :
    (parityShard layout (layout.chunk payload.length)
        ((List.range layout.dataShards).map (dataShard layout payload))
        parity).length = layout.chunk payload.length ∧
      signal (parityShard layout (layout.chunk payload.length)
          ((List.range layout.dataShards).map (dataShard layout payload))
          parity) =
        (((List.range layout.dataShards).filter
          (· % layout.parityShards = parity)).map fun index =>
            signal (dataShard layout payload index)).sum := by
  rw [parityShard_eq]
  have sum := foldl_xorBytes (List.replicate (layout.chunk payload.length) 0)
    (((List.range layout.dataShards).filter
      (· % layout.parityShards = parity)).map (dataShard layout payload))
    (by
      intro shard member
      rcases List.mem_map.mp member with ⟨index, among, rfl⟩
      rw [List.length_replicate]
      exact length_dataShard positive payload
        (List.mem_range.mp (List.mem_filter.mp among).1))
  rw [List.length_replicate] at sum
  rw [sum.1, sum.2, signal_replicate_zero, zero_add, List.map_map]
  exact ⟨rfl, rfl⟩

theorem length_encodedShard
    (positive : 0 < layout.dataShards) (payload : Bytes) (index : Nat) :
    (encodedShard layout payload index).length =
      layout.chunk payload.length := by
  rw [encodedShard]
  split
  · exact length_dataShard positive payload ‹_›
  · exact (parityShard_spec positive payload _).1

theorem lose_map (count : Nat) (part : Nat → Bytes) :
    lose missing ((List.range count).map part) =
      (List.range count).map (lost missing part) := by
  apply List.ext_getElem
  · simp [lose]
  · intro index _ _
    simp [lose, lost]

/-- The exclusive or, at one offset, of the data shards that the first parity
shard does not cover. -/
def uncovered (layout : Layout) (payload : Bytes) (offset : Nat) : UInt8 :=
  ((List.range layout.dataShards).filter (· % layout.parityShards ≠ 0)).foldl
      (fun sum index => sum ^^^
        payload.getD (index * layout.chunk payload.length + offset) 0) 0

/-- The bytes of the payload in the first missing data shard stand where the
shards without cover cancel out, and those in the other missing ones are
zero. -/
def Recoverable (layout : Layout) (payload : Bytes) (missing : Finset Nat) :
    Prop :=
  ∀ place < payload.length, place / layout.chunk payload.length ∈ missing →
      if ∃ earlier ∈ missing,
          earlier < place / layout.chunk payload.length then
        payload.getD place 0 = 0
      else
        uncovered layout payload (place % layout.chunk payload.length) = 0

theorem foldl_xor_byte
    {byte : Nat → UInt8} {start : UInt8} :
    (⟨indices.foldl (fun sum index => sum ^^^ byte index) start⟩ : XorByte) =
      ⟨start⟩ + (indices.map fun index => (⟨byte index⟩ : XorByte)).sum := by
  induction indices generalizing start with
  | nil => simp
  | cons index indices induction =>
    rw [List.foldl_cons, induction, List.map_cons, List.sum_cons,
      ← add_assoc]
    rfl

theorem sum_filter_range
    (count : Nat) (among : Nat → Bool) (value : Nat → XorByte) :
    (((List.range count).filter among).map value).sum =
      ∑ index ∈ Finset.range count with among index, value index := by
  rw [← List.sum_toFinset value (List.nodup_range.filter among)]
  apply Finset.sum_congr _ fun _ _ => rfl
  ext index
  simp

/-- If the missing values but one are zero, the sum of those covered and those
that are there is that one and those without cover. -/
theorem sum_covered_add_present
    {first : Nat} (value : Nat → XorByte) (covered : Nat → Prop)
    [DecidablePred covered]
    (firstInside : first < count) (gone : first ∈ missing)
    (zero : ∀ index < count, index ∈ missing → index ≠ first →
      value index = 0) :
    (∑ index ∈ Finset.range count with covered index, value index) +
        ∑ index ∈ Finset.range count with index ∉ missing, value index =
      value first +
        ∑ index ∈ Finset.range count with ¬ covered index, value index := by
  have byCover := Finset.sum_filter_add_sum_filter_not (Finset.range count)
    covered value
  have byLoss := Finset.sum_filter_add_sum_filter_not (Finset.range count)
    (· ∈ missing) value
  have single : (∑ index ∈ Finset.range count with index ∈ missing,
      value index) = value first := by
    apply Finset.sum_eq_single_of_mem first
    · exact Finset.mem_filter.mpr ⟨Finset.mem_range.mpr firstInside, gone⟩
    · intro index member apart
      rcases Finset.mem_filter.mp member with ⟨inside, lost⟩
      exact zero index (Finset.mem_range.mp inside) lost apart
  rw [single] at byLoss
  rw [← eq_sub_iff_add_eq'] at byCover byLoss
  rw [byCover, byLoss]
  abel

/-- The sum that the loop puts in place of the first missing data shard. -/
def firstSum (layout : Layout) (payload : Bytes) (missing : Finset Nat) :
    Bytes :=
  (((List.range layout.dataShards).filter (· ∉ missing)).map
    (dataShard layout payload)).foldl xorBytes
      (encodedShard layout payload layout.dataShards)

theorem firstSum_spec
    (positive : 0 < layout.dataShards) (payload : Bytes)
    (missing : Finset Nat) :
    (firstSum layout payload missing).length = layout.chunk payload.length ∧
      signal (firstSum layout payload missing) =
        (((List.range layout.dataShards).filter
          (· % layout.parityShards = 0)).map fun index =>
            signal (dataShard layout payload index)).sum +
        (((List.range layout.dataShards).filter (· ∉ missing)).map
          fun index => signal (dataShard layout payload index)).sum := by
  have parity := parityShard_spec positive payload 0
  have start : encodedShard layout payload layout.dataShards =
      parityShard layout (layout.chunk payload.length)
        ((List.range layout.dataShards).map (dataShard layout payload))
        0 := by
    rw [encodedShard, if_neg (lt_irrefl _), Nat.sub_self]
  have sum := foldl_xorBytes (encodedShard layout payload layout.dataShards)
    (((List.range layout.dataShards).filter
      (· ∉ missing)).map (dataShard layout payload))
    (by
      intro shard member
      rcases List.mem_map.mp member with ⟨index, among, rfl⟩
      rw [length_encodedShard positive payload]
      exact length_dataShard positive payload
        (List.mem_range.mp (List.mem_filter.mp among).1))
  rw [length_encodedShard positive payload, List.map_map] at sum
  rw [firstSum, sum.1, sum.2, start, parity.2]
  exact ⟨rfl, rfl⟩

/-- If the other missing data shards are zero, the sum differs from the first
one by the shards without cover. -/
theorem firstSum_getD
    (positive : 0 < layout.dataShards) (payload : Bytes) {first offset : Nat}
    (inside : first < layout.dataShards) (gone : first ∈ missing)
    (within : offset < layout.chunk payload.length)
    (zero : ∀ index < layout.dataShards, index ∈ missing → index ≠ first →
      payload.getD (index * layout.chunk payload.length + offset) 0 = 0) :
    (⟨(firstSum layout payload missing).getD offset 0⟩ : XorByte) =
      ⟨payload.getD (first * layout.chunk payload.length + offset) 0⟩ +
        ⟨uncovered layout payload offset⟩ := by
  let value : Nat → XorByte := fun index =>
    ⟨payload.getD (index * layout.chunk payload.length + offset) 0⟩
  have bytes : ∀ index,
      signal (dataShard layout payload index) offset = value index := by
    intro index
    exact XorByte.ext (getD_dataShard within)
  have left := congrFun (firstSum_spec positive payload missing).2 offset
  simp only [Pi.add_apply, Pi.list_sum_apply, List.map_map, Function.comp_def,
    bytes, sum_filter_range] at left
  change signal (firstSum layout payload missing) offset = _
  have covers := sum_covered_add_present value
    (· % layout.parityShards = 0) inside gone
    fun index less lost apart => XorByte.ext (zero index less lost apart)
  have start : (⟨0⟩ : XorByte) = 0 := rfl
  rw [left, uncovered, foldl_xor_byte, sum_filter_range, start]
  simpa [value] using covers

end Encoded

/-! ## Decoding what was encoded -/

section RoundTrip

variable {layout : Layout} {payload : Bytes} {missing : Finset Nat}
  (data : 0 < layout.dataShards) (parity : 0 < layout.parityShards)

include data in
/-- The index and the offset of a byte of the payload. -/
theorem place_parts (inside : place < payload.length) :
    0 < layout.chunk payload.length ∧
      place / layout.chunk payload.length < layout.dataShards ∧
      place % layout.chunk payload.length < layout.chunk payload.length ∧
      place / layout.chunk payload.length * layout.chunk payload.length +
        place % layout.chunk payload.length = place := by
  have fits := le_chunk_mul data payload.length
  generalize layout.chunk payload.length = chunk at *
  have positive : 0 < chunk := by
    rcases Nat.eq_zero_or_pos chunk with rfl | positive
    · omega
    · exact positive
  have short : place < layout.dataShards * chunk := by
    rw [Nat.mul_comm]
    omega
  exact ⟨positive, (Nat.div_lt_iff_lt_mul positive).mpr short,
    Nat.mod_lt place positive, Nat.div_add_mod' place chunk⟩

/-- The missing data shards but the first are zero. -/
def LaterZero (layout : Layout) (payload : Bytes)
    (missing : Finset Nat) : Prop :=
  ∀ place < payload.length, place / layout.chunk payload.length ∈ missing →
    (∃ earlier ∈ missing, earlier < place / layout.chunk payload.length) →
      payload.getD place 0 = 0

include data in
theorem firstSum_eq_iff
    (zero : LaterZero layout payload missing)
    (inside : place < payload.length)
    (gone : place / layout.chunk payload.length ∈ missing)
    (least : ¬ ∃ earlier ∈ missing,
      earlier < place / layout.chunk payload.length) :
    (firstSum layout payload missing).getD
          (place % layout.chunk payload.length) 0 = payload.getD place 0 ↔
      uncovered layout payload (place % layout.chunk payload.length) = 0 := by
  rcases place_parts data inside with ⟨positive, index, offset, whole⟩
  have others : ∀ other < layout.dataShards, other ∈ missing →
      other ≠ place / layout.chunk payload.length →
      payload.getD (other * layout.chunk payload.length +
        place % layout.chunk payload.length) 0 = 0 := by
    intro other _ lost apart
    rcases Nat.lt_or_ge (other * layout.chunk payload.length +
        place % layout.chunk payload.length) payload.length with early | late
    · have quotient : (other * layout.chunk payload.length +
          place % layout.chunk payload.length) /
            layout.chunk payload.length = other := by
        rw [Nat.mul_comm, Nat.mul_add_div positive, Nat.div_eq_of_lt offset,
          Nat.add_zero]
      apply zero _ early (quotient.symm ▸ lost)
      rw [quotient]
      refine ⟨_, gone, lt_of_le_of_ne ?_ (Ne.symm apart)⟩
      by_contra behind
      exact least ⟨other, lost, Nat.lt_of_not_ge behind⟩
    · rw [List.getD_eq_getElem?_getD, List.getElem?_eq_none late]
      rfl
  have sum := firstSum_getD data payload index gone offset others
  rw [whole] at sum
  constructor
  · intro same
    rw [same] at sum
    exact congrArg XorByte.byte (left_eq_add.mp sum)
  · intro none
    have cancel : (⟨uncovered layout payload
        (place % layout.chunk payload.length)⟩ : XorByte) = 0 :=
      XorByte.ext none
    rw [cancel, add_zero] at sum
    exact congrArg XorByte.byte sum

include data in
theorem filled_eq_iff :
    (∀ place < payload.length, (filled missing (dataShard layout payload)
            (layout.chunk payload.length) (firstSum layout payload missing)
            (place / layout.chunk payload.length)).getD
          (place % layout.chunk payload.length) 0 = payload.getD place 0) ↔
      Recoverable layout payload missing := by
  have zeros : ∀ offset : Nat, (List.replicate
      (layout.chunk payload.length) (0 : UInt8)).getD offset 0 = 0 := by
    intro offset
    exact congrArg XorByte.byte (congrFun (signal_replicate_zero _) offset)
  simp only [filled]
  -- Both sides say that later missing shards are zero.
  constructor
  · intro agree
    have later : LaterZero layout payload missing := by
      intro place inside gone before
      have same := agree place inside
      rw [if_pos gone, if_pos before, zeros] at same
      exact same.symm
    intro place inside gone
    split
    · exact later place inside gone ‹_›
    · have same := agree place inside
      rw [if_pos gone, if_neg ‹_›] at same
      exact (firstSum_eq_iff data later inside gone ‹_›).mp same
  · intro recoverable
    have later : LaterZero layout payload missing := by
      intro place inside gone before
      have zero := recoverable place inside gone
      rwa [if_pos before] at zero
    intro place inside
    split
    · split
      · rw [zeros, later place inside ‹_› ‹_›]
      · have zero := recoverable place inside ‹_›
        rw [if_neg ‹_›] at zero
        exact (firstSum_eq_iff data later inside ‹_› ‹_›).mpr zero
    · rcases place_parts data inside with ⟨-, -, offset, whole⟩
      rw [getD_dataShard offset, whole]

theorem getD_map_lost
    (inside : index < count) :
    ((List.range count).map (lost missing part)).getD index none =
      lost missing part index := by
  simp [inside]

/-- A decoding in which some shard is there: it comes down to the loop. -/
theorem decode_lost
    {origLen : Nat}
    (sized : ∀ index < layout.total, (part index).length = chunk)
    (positive : 0 < chunk)
    (present : ∃ index < layout.total, index ∉ missing) :
    decode ((List.range layout.total).map (lost missing part)) layout
        origLen =
      match recoverShards layout chunk (List.range layout.dataShards)
          ((List.range layout.total).map (lost missing part)) with
      | .error err => .error err
      | .ok recovered =>
        match joinShards (recovered.take layout.dataShards) with
        | .error err => .error err
        | .ok out =>
          if (out.length : Int) < origLen then .error .shardTooShort
          else if (origLen : Int) = 0 then .ok out
          else .ok (out.take origLen) := by
  have length : longest ((List.range layout.total).map
      (lost missing part)) = chunk := by
    apply longest_of_sized
    · intro shard member
      rcases List.mem_map.mp member with ⟨index, inside, found⟩
      rw [lost] at found
      split at found
      · cases found
      · rw [← Option.some.inj found]
        exact sized index (List.mem_range.mp inside)
    · rcases present with ⟨index, inside, there⟩
      refine ⟨part index, List.mem_map.mpr
        ⟨index, List.mem_range.mpr inside, ?_⟩⟩
      rw [lost, if_neg there]
  rw [decode, if_neg (by simp), if_neg (by omega), length,
    if_neg positive.ne', Int.toNat_natCast]

include data in
/-- Data shards that are all there, or filled, are joined and cut. -/
theorem take_flatten_eq_iff
    (sized : ∀ index < layout.dataShards,
      (part index).length = layout.chunk payload.length) :
    ((List.range layout.dataShards).map part).flatten.take payload.length =
        payload ↔
      ∀ place < payload.length,
        (part (place / layout.chunk payload.length)).getD
          (place % layout.chunk payload.length) 0 =
            payload.getD place 0 := by
  have fits := le_chunk_mul data payload.length
  rw [Nat.mul_comm] at fits
  have length := length_flatten_map sized
  have get : ∀ place < payload.length,
      (((List.range layout.dataShards).map part).flatten.take
        payload.length).getD place 0 =
      (part (place / layout.chunk payload.length)).getD
        (place % layout.chunk payload.length) 0 := by
    intro place inside
    rw [← getD_flatten_map sized (by omega), List.getD_eq_getElem?_getD,
      List.getElem?_take_of_lt inside, List.getD_eq_getElem?_getD]
  constructor
  · intro same place inside
    rw [← get place inside, same]
  · intro agree
    apply eq_of_signal
    · rw [List.length_take]
      omega
    · funext place
      apply XorByte.ext
      rcases Nat.lt_or_ge place payload.length with inside | outside
      · exact (get place inside).trans (agree place inside)
      · simp [signal, outside]

include data in
theorem take_flatten_dataShards :
    ((List.range layout.dataShards).map
      (dataShard layout payload)).flatten.take payload.length = payload := by
  apply (take_flatten_eq_iff data fun _ => length_dataShard data payload).mpr
  have vacuous : Recoverable layout payload ∅ := by
    intro place _ gone
    simp at gone
  have agree := (filled_eq_iff data).mpr vacuous
  intro place inside
  simpa only [filled, Finset.notMem_empty, if_false] using agree place inside

include data in
theorem finish_decode
    (sized : ∀ index < layout.dataShards, (part index).length = layout.chunk
      payload.length) (some : payload ≠ []) :
    (match joinShards ((((List.range layout.dataShards).map part).map
        Option.some ++ rest).take layout.dataShards) with
      | .error err => .error err
      | .ok out =>
        if (out.length : Int) < payload.length then .error .shardTooShort
        else if (payload.length : Int) = 0 then .ok out
        else .ok (out.take payload.length)) =
      (.ok (((List.range layout.dataShards).map part).flatten.take
        payload.length) : Except CodecErr Bytes) := by
  have fits := le_chunk_mul data payload.length
  rw [Nat.mul_comm] at fits
  have front : ((((List.range layout.dataShards).map part).map
      Option.some ++ rest).take layout.dataShards) =
        ((List.range layout.dataShards).map part).map Option.some :=
    List.take_left' (by simp)
  rw [front, joinShards_map_some]
  dsimp only
  rw [length_flatten_map sized, if_neg (by omega), if_neg]
  have := List.length_pos_iff.mpr some
  omega

include data in
theorem decode_complete
    (some : payload ≠ []) (positive : 0 < layout.chunk payload.length)
    (there : ∀ index < layout.dataShards, index ∉ missing) :
    decode ((List.range layout.total).map
        (lost missing (encodedShard layout payload))) layout payload.length =
      .ok payload := by
  have parts : ∀ index < layout.dataShards,
      encodedShard layout payload index = dataShard layout payload index := by
    intro index inside
    rw [encodedShard, if_pos inside]
  have sized := fun index (inside : index < layout.dataShards) =>
    length_dataShard data payload inside
  have shards : (List.range layout.total).map
      (lost missing (encodedShard layout payload)) =
        ((List.range layout.dataShards).map
          (dataShard layout payload)).map Option.some ++
            (List.range layout.parityShards).map fun index =>
              lost missing (encodedShard layout payload)
                (layout.dataShards + index) := by
    rw [Layout.total, List.range_add, List.map_append, List.map_map,
      List.map_map]
    congr 1
    apply List.map_congr_left
    intro index member
    have inside := List.mem_range.mp member
    rw [lost, if_neg (there index inside), parts index inside]
    rfl
  rw [decode_lost (fun index _ => length_encodedShard data payload index)
      positive
      ⟨0, by rw [Layout.total]; omega, there 0 data⟩,
    recoverShards_complete]
  · dsimp only
    rw [shards, finish_decode data sized some]
    rw [take_flatten_dataShards data]
  · intro index member
    have inside := List.mem_range.mp member
    refine ⟨encodedShard layout payload index, ?_⟩
    rw [getD_map_lost (by rw [Layout.total]; omega), lost,
      if_neg (there index inside)]

include data parity in
theorem decode_without_parity
    (positive : 0 < layout.chunk payload.length)
    (present : ∃ index < layout.total, index ∉ missing)
    (noParity : layout.dataShards ∈ missing)
    (gap : ∃ index < layout.dataShards, index ∈ missing) :
    decode ((List.range layout.total).map
        (lost missing (encodedShard layout payload))) layout payload.length =
      .error .missingShard := by
  rw [decode_lost (fun index _ => length_encodedShard data payload index)
      positive
      present, recoverShards_without_parity]
  · rw [getD_map_lost (by rw [Layout.total]; omega), lost, if_pos noParity]
  · rcases gap with ⟨index, inside, gone⟩
    refine ⟨index, List.mem_range.mpr inside, ?_⟩
    rw [getD_map_lost (by rw [Layout.total]; omega), lost, if_pos gone]

include data in
theorem length_filled
    (payload : Bytes) (missing : Finset Nat) (index : Nat)
    (inside : index < layout.dataShards) :
    (filled missing (dataShard layout payload)
      (layout.chunk payload.length) (firstSum layout payload missing)
      index).length = layout.chunk payload.length := by
  rw [filled]
  split
  · split
    · exact List.length_replicate
    · exact (firstSum_spec data payload missing).1
  · exact length_dataShard data payload inside

include data parity in
theorem decode_filled
    (some : payload ≠ []) (positive : 0 < layout.chunk payload.length)
    (there : layout.dataShards ∉ missing) :
    decode ((List.range layout.total).map
        (lost missing (encodedShard layout payload))) layout payload.length =
      .ok (((List.range layout.dataShards).map
        (filled missing (dataShard layout payload)
          (layout.chunk payload.length)
          (firstSum layout payload missing))).flatten.take
            payload.length) := by
  obtain ⟨count, split⟩ := Nat.exists_eq_add_of_lt parity
  rw [Nat.zero_add] at split
  have shards : (List.range layout.total).map
      (lost missing (encodedShard layout payload)) =
        (List.range layout.dataShards).map
            (lost missing (dataShard layout payload)) ++
          Option.some (encodedShard layout payload layout.dataShards) ::
            (List.range count).map fun index =>
              lost missing (encodedShard layout payload)
                (layout.dataShards + (index + 1)) := by
    rw [Layout.total, split, List.range_add, List.map_append,
      List.range_succ_eq_map, List.map_cons, List.map_cons, List.map_map,
      List.map_map]
    congr 1
    · apply List.map_congr_left
      intro index member
      rw [lost, lost, encodedShard, if_pos (List.mem_range.mp member)]
    · rw [Nat.add_zero, lost, if_neg there]
      rfl
  have loop := recoverShards_eq layout ((List.range count).map fun index =>
      lost missing (encodedShard layout payload)
        (layout.dataShards + (index + 1)))
    (length_encodedShard data payload layout.dataShards)
    ((List.range layout.dataShards).map
      (lost missing (dataShard layout payload))) []
    (by simp) (by simp) (by
      intro shard member
      rcases List.mem_map.mp member with ⟨index, inside, found⟩
      rw [lost] at found
      split at found
      · cases found
      · rw [← Option.some.inj found]
        exact length_dataShard data payload (List.mem_range.mp inside))
  rw [filterMap_lost, List.range_eq_range', fillMissing_map_lost] at loop
  simp only [Nat.zero_le, true_and, List.length_nil, List.length_map,
    List.length_range, List.map_nil, List.nil_append,
    ← List.range_eq_range'] at loop
  rw [decode_lost (fun index _ => length_encodedShard data payload index)
      positive
      ⟨layout.dataShards, by rw [Layout.total]; omega, there⟩, shards, loop]
  exact finish_decode data (length_filled data payload missing) some

theorem decode_all_missing
    {origLen : Nat}
    (absent : ∀ index < layout.total,
      (lost missing part index).getD [] = []) :
    decode ((List.range layout.total).map (lost missing part)) layout
      origLen = .ok [] := by
  have short : longest ((List.range layout.total).map
      (lost missing part)) = 0 := by
    apply longest_of_absent
    intro shard member
    rcases List.mem_map.mp member with ⟨index, inside, rfl⟩
    exact absent index (List.mem_range.mp inside)
  rw [decode, if_neg (by simp), if_neg (by omega), short, if_pos rfl]

end RoundTrip

/--
The payload is empty, or some shard is left and the first parity shard is
missing or what it recovers is right.
-/
def KeepsPayload (layout : Layout) (payload : Bytes) (missing : Finset Nat) :
    Prop :=
  payload = [] ∨ (∃ index < layout.total, index ∉ missing) ∧
      (layout.dataShards ∈ missing ∨ Recoverable layout payload missing)

/--
Decoding an encoded payload after the loss of some shards gives the payload or
an error, and gives the payload if at most one shard is lost, just if what the
loop recovers for the missing data shards is what the payload has there.
-/
theorem xor_decode_iff
    (layout : Layout) (data : 0 < layout.dataShards)
    (parity : 0 < layout.parityShards) (payload : Bytes)
    (missing : Finset Nat) :
    (∃ shards, encode payload layout = .ok shards ∧
      (decode (lose missing shards) layout payload.length = .ok payload ∨
        ∃ err, err ≠ .outOfRange ∧
          decode (lose missing shards) layout payload.length = .error err) ∧
      (missing.card ≤ 1 →
        decode (lose missing shards) layout payload.length = .ok payload)) ↔
      KeepsPayload layout payload missing := by
  rcases eq_or_ne payload [] with rfl | some
  · have encoded : encode [] layout =
        .ok ((List.range layout.total).map fun _ => []) := by
      rw [encode, if_neg (by omega)]
      simp
    have decoded : decode (lose missing
        ((List.range layout.total).map fun _ => [])) layout
          (List.length ([] : Bytes)) = .ok [] := by
      rw [lose_map]
      apply decode_all_missing
      intro index _
      rw [lost]
      split <;> rfl
    exact ⟨fun _ => .inl rfl,
      fun _ => ⟨_, encoded, .inl decoded, fun _ => decoded⟩⟩
  have positive : 0 < layout.chunk payload.length := by
    have := List.length_pos_iff.mpr some
    exact Nat.div_pos (by omega) data
  have encoded := encode_eq data parity some
  rw [encoded]
  simp only [Except.ok.injEq, exists_eq_left', lose_map, KeepsPayload, some,
    false_or]
  by_cases present : ∃ index < layout.total, index ∉ missing
  · by_cases lostParity : layout.dataShards ∈ missing
    · by_cases gap : ∃ index < layout.dataShards, index ∈ missing
      · rw [decode_without_parity data parity positive present lostParity gap]
        rcases gap with ⟨index, inside, gone⟩
        have two : 1 < missing.card :=
          Finset.one_lt_card.mpr ⟨index, gone, _, lostParity, inside.ne⟩
        exact ⟨fun _ => ⟨present, .inl lostParity⟩, fun _ =>
          ⟨.inr ⟨_, by simp, rfl⟩, fun few => absurd few (by omega)⟩⟩
      · rw [decode_complete data some positive fun index inside gone =>
          gap ⟨index, inside, gone⟩]
        exact ⟨fun _ => ⟨present, .inl lostParity⟩,
          fun _ => ⟨.inl rfl, fun _ => rfl⟩⟩
    · rw [decode_filled data parity some positive lostParity]
      have same := (take_flatten_eq_iff data
        (length_filled data payload missing)).trans (filled_eq_iff data)
      simp only [Except.ok.injEq, same, present, lostParity, true_and,
        false_or, reduceCtorEq, and_false, exists_false, or_false]
      exact ⟨fun right => right.1, fun right => ⟨right, fun _ => right⟩⟩
  · have absent : ∀ index < layout.total,
        (lost missing (encodedShard layout payload) index).getD [] = [] := by
      intro index inside
      rw [lost, if_pos]
      · rfl
      · by_contra there
        exact present ⟨index, inside, there⟩
    rw [decode_all_missing absent]
    constructor
    · rintro ⟨same | ⟨err, -, failed⟩, -⟩
      · exact absurd (Except.ok.inj same).symm some
      · cases failed
    · rintro ⟨there, -⟩
      exact absurd there present

/-- One data shard of the lab layout is lost, and the first parity shard does
not cover all the others. -/
theorem lab_layout_decodes_wrong :
    (∃ shards, encode [1, 2, 3, 4] labLayout = .ok shards ∧
      decode (lose {0} shards) labLayout 4 = .ok [7, 2, 3, 4]) ∧
    Finset.card {0} ≤ 1 := by
  refine ⟨⟨[[1], [2], [3], [4], [2], [6]], ?_⟩, ?_⟩ <;> decide

/-- The loss of one shard of the development layout, which is made up for. -/
theorem dev_layout_decodes :
    (∃ shards, encode [1, 2] ⟨2, 1⟩ = .ok shards ∧
      (decode (lose {0} shards) ⟨2, 1⟩ 2 = .ok [1, 2] ∨
        ∃ err, err ≠ .outOfRange ∧
          decode (lose {0} shards) ⟨2, 1⟩ 2 = .error err) ∧
      (Finset.card {0} ≤ 1 →
        decode (lose {0} shards) ⟨2, 1⟩ 2 = .ok [1, 2])) ↔
      KeepsPayload ⟨2, 1⟩ [1, 2] {0} :=
  xor_decode_iff ⟨2, 1⟩ (by decide) (by decide) [1, 2] {0}

end DataSafe.Erasure
