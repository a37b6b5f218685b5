import DataSafe.Metadata.Listing
import DataSafe.S3.Objects

/-!
# Listings that take in the keys of other clusters

`ListObjects` of the service appends what its peers list to the listing of
its own store and cuts the whole at the limit.  Nothing is sorted after the
lists have been joined.
-/

namespace DataSafe.S3

open Metadata

/-! ## First members of an ordered set -/

section FirstOf

variable {Key : Type} [LinearOrder Key] {count : Nat} {whole : Set Key}
  {keys : List Key}

/-- The first members of a set, in their order. -/
structure FirstOf (count : Nat) (whole : Set Key) (keys : List Key) :
    Prop where
  ascending : keys.Pairwise (· < ·)
  sound : ∀ key ∈ keys, key ∈ whole
  short : keys.length ≤ count
  complete : ∀ key ∈ whole, key ∉ keys →
    keys.length = count ∧ ∀ other ∈ keys, other < key

/-- The cut at the limit takes the smallest keys of the list, in order. -/
def CutInOrder (count : Nat) (keys : List Key) : Prop :=
  (keys.take count).Pairwise (· < ·) ∧
    ∀ early ∈ keys.take count, ∀ late ∈ keys.drop count, early < late

/-- Of a list that holds, for each member it lacks, a full count of smaller
ones, the first entries are the first members when they are in order. -/
theorem firstOf_take_iff
    (nodup : keys.Nodup) (sound : ∀ key ∈ keys, key ∈ whole)
    (filled : ∀ key ∈ whole, key ∉ keys → ∃ smaller ⊆ keys, smaller.Nodup ∧
      smaller.length = count ∧ ∀ other ∈ smaller, other < key) :
    FirstOf count whole (keys.take count) ↔ CutInOrder count keys := by
  constructor
  · intro first
    refine ⟨first.ascending, ?_⟩
    intro early taken late left
    have member := sound late (List.mem_of_mem_drop left)
    have apart := List.disjoint_take_drop nodup (le_refl count)
    exact (first.complete late member fun also => apart also left).2 early
      taken
  · rintro ⟨ascending, split⟩
    refine ⟨ascending, fun key taken => sound key (List.mem_of_mem_take
      taken), List.length_take_le _ _, ?_⟩
    intro key member unlisted
    by_cases left : key ∈ keys
    · rw [← List.take_append_drop count keys, List.mem_append] at left
      have dropped := left.resolve_left unlisted
      have long := List.length_pos_of_mem dropped
      rw [List.length_drop] at long
      exact ⟨by rw [List.length_take]; omega,
        fun other taken => split other taken key dropped⟩
    · rcases filled key member left with ⟨smaller, held, once, full, below⟩
      have enough := (List.subperm_of_subset once held).length_le
      refine ⟨by rw [List.length_take]; omega, ?_⟩
      intro other taken
      by_contra above
      -- All of the smaller keys would stand before the cut beside this one.
      have before : other :: smaller ⊆ keys.take count := by
        rintro entry (_ | ⟨_, entry_mem⟩)
        · exact taken
        · have inside := held entry_mem
          rw [← List.take_append_drop count keys, List.mem_append] at inside
          refine inside.resolve_right fun late => above ?_
          exact (split other taken entry late).trans (below entry entry_mem)
      have fresh : other ∉ smaller := fun also => above (below other also)
      have crowded := (List.subperm_of_subset (List.nodup_cons.mpr
        ⟨fresh, once⟩) before).length_le
      rw [List.length_cons, List.length_take] at crowded
      omega

end FirstOf

/-! ## The joined listing -/

structure FederatedObject where
  key : String
  size : Int
  etag : String
  lastModified : Time
  storageClass : String
  sourcePeer : String

structure FederationCluster where
  name : String
  capabilities : List String

def peerCanRead (peer : FederationCluster) : Bool :=
  peer.capabilities.isEmpty ||
    peer.capabilities.any fun name => name = "read" || name = "list"

def FederatedObject.record (item : FederatedObject) : ObjectRecord where
  bucket := ""
  key := item.key
  size := item.size
  etag := item.etag
  contentType := ""
  versionID := .null
  lastModified := item.lastModified
  storageClass := item.storageClass
  metadata := [("x-datasafe-federation-peer", item.sourcePeer)]

/-- The records that the loop appends: one for each key not seen yet. -/
def newRecords (seen : List String) :
    List FederatedObject → List ObjectRecord
  | [] => []
  | item :: rest =>
    if item.key ∈ seen then newRecords seen rest
    else item.record :: newRecords (item.key :: seen) rest

def mergeFederatedObjects (objs : List ObjectRecord)
    (federated : List FederatedObject) : List ObjectRecord :=
  objs ++ newRecords (objs.map ObjectRecord.key) federated

/-- What the peers answered; one that fails is passed over. -/
def federatedObjects (peers : List FederationCluster)
    (proxyList : FederationCluster → Option (List FederatedObject)) :
    List FederatedObject :=
  (peers.filter peerCanRead).flatMap fun peer =>
    (proxyList peer).getD []

/-- The peers are missing when none are configured or reading them fails. -/
def mergeFederationList (peers : Option (List FederationCluster))
    (proxyList : FederationCluster → Option (List FederatedObject))
    (maxKeys : Int) (objs : List ObjectRecord) : List ObjectRecord :=
  match peers with
  | none | some [] => objs
  | some peers =>
    limited maxKeys (mergeFederatedObjects objs
      (federatedObjects peers proxyList))

/-- `ProxyListObjects` is the exchange with a peer. -/
def listObjects (store : Store) (peers : Option (List FederationCluster))
    (proxyListObjects : FederationCluster → String → String → Int →
      Option (List FederatedObject))
    (bucket start : String) (maxKeys : Int) : Option (List ObjectRecord) :=
  let bucket := normalizeBucketKey store bucket
  let merged (logicalBucket : String) :=
    mergeFederationList peers
      (fun peer => proxyListObjects peer logicalBucket start maxKeys)
      maxKeys (store.listObjectsFrom bucket start maxKeys)
  match store.getBucketByKey bucket with
  | some record => some (merged record.name)
  | none => (store.getBucket bucket).map fun _ => merged bucket

/-! ## What is listed -/

variable {objs : List ObjectRecord} {federated : List FederatedObject}
  {peers : List FederationCluster} {maxKeys : Int}
  {proxyList : FederationCluster → Option (List FederatedObject)}

theorem newRecords_spec
    (seen : List String) (federated : List FederatedObject) :
    (∀ item ∈ federated, item.key ∈ seen ∨
        item.key ∈ (newRecords seen federated).map ObjectRecord.key) ∧
      (∀ record ∈ newRecords seen federated,
        ∃ item ∈ federated, record = item.record ∧ item.key ∉ seen) ∧
      ((newRecords seen federated).map ObjectRecord.key).Nodup := by
  induction federated generalizing seen with
  | nil => simp [newRecords]
  | cons item rest induction =>
    by_cases known : item.key ∈ seen
    · rw [newRecords]
      grind
    · rw [newRecords, if_neg known]
      rcases induction (item.key :: seen) with ⟨listed, sent, nodup⟩
      refine ⟨?_, ?_, ?_⟩
      · grind [FederatedObject.record]
      · grind
      · rw [List.map_cons, List.nodup_cons]
        refine ⟨?_, nodup⟩
        intro again
        rcases List.mem_map.mp again with ⟨record, member, same⟩
        rcases sent record member with ⟨other, _, rfl, apart⟩
        exact apart (List.mem_cons.mpr (Or.inl same))

theorem mem_federatedObjects_iff {item : FederatedObject} :
    item ∈ federatedObjects peers proxyList ↔
      ∃ peer ∈ peers, peerCanRead peer = true ∧
        ∃ items, proxyList peer = some items ∧ item ∈ items := by
  simp only [federatedObjects, List.mem_flatMap, List.mem_filter]
  constructor
  · rintro ⟨peer, ⟨known, reads⟩, sent⟩
    cases answer : proxyList peer with
    | none => simp [answer] at sent
    | some items => exact ⟨peer, known, reads, items, answer, by
        simpa [answer] using sent⟩
  · rintro ⟨peer, known, reads, items, answer, sent⟩
    exact ⟨peer, ⟨known, reads⟩, by simpa [answer] using sent⟩

theorem mergeFederationList_eq
    (peers : Option (List FederationCluster)) (positive : 0 < maxKeys)
    (short : objs.length ≤ maxKeys.toNat) :
    mergeFederationList peers proxyList maxKeys objs =
      (mergeFederatedObjects objs
        (federatedObjects (peers.getD []) proxyList)).take
          maxKeys.toNat := by
  have alone : (mergeFederatedObjects objs []).take maxKeys.toNat =
      objs := by
    rw [mergeFederatedObjects, newRecords, List.append_nil,
      List.take_of_length_le short]
  rcases peers with _ | _ | ⟨peer, rest⟩
  · exact alone.symm
  · exact alone.symm
  · simp [mergeFederationList, limited, positive]

theorem listObjectsFrom_subset {store : Store} {bucket start : String} :
    store.listObjectsFrom bucket start maxKeys ⊆
      store.listObjectsFrom bucket start 0 := by
  intro record listed
  simp only [Store.listObjectsFrom, List.mem_insertionSort] at listed ⊢
  unfold limited at listed ⊢
  split at listed
  · exact List.mem_of_mem_take listed
  · exact listed

/-- A peer answers with the first of its keys. -/
def AnswersFirst (maxKeys : Int) (contents : List String)
    (answer : Option (List FederatedObject)) : Prop :=
  ∀ items, answer = some items → contents.Pairwise (· < ·) ∧
    items.map FederatedObject.key = contents.take maxKeys.toNat

/-- The keys of some records and of the peers that can be read. -/
def unionKeys (all : List ObjectRecord) (peers : List FederationCluster)
    (proxyList : FederationCluster → Option (List FederatedObject))
    (contents : FederationCluster → List String) : Set String :=
  { key | key ∈ all.map ObjectRecord.key ∨
    ∃ peer ∈ peers, peerCanRead peer = true ∧
      (proxyList peer).isSome ∧ key ∈ contents peer }

theorem merged_firstOf_iff
    {all : List ObjectRecord} {contents : FederationCluster → List String}
    (once : (objs.map ObjectRecord.key).Nodup)
    (own : FirstOf maxKeys.toNat { key | key ∈ all.map ObjectRecord.key }
      (objs.map ObjectRecord.key))
    (answers : ∀ peer ∈ peers, peerCanRead peer = true →
      AnswersFirst maxKeys (contents peer) (proxyList peer)) :
    let keys := (mergeFederatedObjects objs
      (federatedObjects peers proxyList)).map ObjectRecord.key
    FirstOf maxKeys.toNat (unionKeys all peers proxyList contents)
        (keys.take maxKeys.toNat) ↔ CutInOrder maxKeys.toNat keys := by
  rcases newRecords_spec (objs.map ObjectRecord.key)
    (federatedObjects peers proxyList) with ⟨listed, sent, nodup⟩
  intro keys
  have keys_eq : keys = objs.map ObjectRecord.key ++ (newRecords
      (objs.map ObjectRecord.key) (federatedObjects peers proxyList)).map
        ObjectRecord.key := by
    simp [keys, mergeFederatedObjects]
  apply firstOf_take_iff
  · rw [keys_eq]
    refine once.append nodup fun key here there => ?_
    rcases List.mem_map.mp there with ⟨record, member, rfl⟩
    rcases sent record member with ⟨item, _, rfl, apart⟩
    exact apart here
  · intro key member
    rw [keys_eq, List.mem_append] at member
    rcases member with local_key | peer_key
    · exact Or.inl (own.sound key local_key)
    · rcases List.mem_map.mp peer_key with ⟨record, member, rfl⟩
      rcases sent record member with ⟨item, sent, rfl, _⟩
      rcases mem_federatedObjects_iff.mp sent with
        ⟨peer, known, reads, items, answer, sent⟩
      refine Or.inr ⟨peer, known, reads, by simp [answer], ?_⟩
      apply List.mem_of_mem_take (i := maxKeys.toNat)
      rw [← (answers peer known reads items answer).2]
      exact List.mem_map_of_mem sent
  · intro key member unlisted
    rcases member with local_key | ⟨peer, known, reads, answered, held⟩
    · have absent : key ∉ objs.map ObjectRecord.key := fun also =>
        unlisted (by rw [keys_eq]; simp_all)
      have cut := own.complete key local_key absent
      exact ⟨_, by simp [keys_eq], once, cut⟩
    · rcases Option.isSome_iff_exists.mp answered with ⟨items, answer⟩
      rcases answers peer known reads items answer with ⟨order, sent⟩
      have all_sent : (contents peer).take maxKeys.toNat ⊆ keys := by
        intro other taken
        rw [← sent] at taken
        rcases List.mem_map.mp taken with ⟨item, member, rfl⟩
        rw [keys_eq, List.mem_append]
        exact listed item (mem_federatedObjects_iff.mpr
          ⟨peer, known, reads, items, answer, member⟩)
      have beyond : key ∈ (contents peer).drop maxKeys.toNat := by
        rw [← List.take_append_drop maxKeys.toNat (contents peer),
          List.mem_append] at held
        exact held.resolve_left fun taken => unlisted (all_sent taken)
      have long := List.length_pos_of_mem beyond
      rw [List.length_drop] at long
      refine ⟨_, all_sent, (order.imp ne_of_lt).sublist
        (List.take_sublist _ _), by rw [List.length_take]; omega, ?_⟩
      rw [← List.take_append_drop maxKeys.toNat (contents peer),
        List.pairwise_append] at order
      exact fun other taken => order.2.2 other taken key beyond

/-- A bucket with one object, and a peer that lists one key. -/
def listedObject (key : String) : FederatedObject :=
  ⟨key, 0, "", 0, "", "peer"⟩

def oneObject (key : String) : Store :=
  ((Store.empty.putBucket { storageKey := "b", name := "b" }).bind
    fun store => store.putObject
      { (listedObject key).record with bucket := "b" } false).toOption.getD
        Store.empty

def onePeer (key : String) (_ : FederationCluster) (_ _ : String)
    (_ : Int) : Option (List FederatedObject) :=
  some [listedObject key]

end DataSafe.S3
