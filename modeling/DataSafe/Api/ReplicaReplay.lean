import DataSafe.Api.ReplicaRequests

/-!
# Replayed replica requests

A request that has passed is barred from passing again: its nonce is
remembered, or its expiry is too long past for a node to take it and no copy
of it is waiting.  Pruning breaks this, because it forgets a nonce as soon as
its expiry is past, while `replicaExpiryOK` still tolerates five seconds.
-/

namespace DataSafe.Api

open Base Metadata

variable {digests : Digests} {secret nodeID : String} {state : ReplicaNode}

/-- No nonce is forgotten while a request with it can still pass. -/
def ForgetsSafely (state : ReplicaNode) : ReplicaEvent → Prop
  | .arrive _ _ => True
  | .finish elapsed _ _ =>
    256 < state.seen.entries.length → ∀ entry ∈ state.seen.entries,
        entry.2 < unixSeconds (state.clock + elapsed) →
          entry.2 * 1000000000 + 5 * 1000000000 < state.clock + elapsed ∧
            ∀ other ∈ state.waiting, other.1.nonce.text ≠ entry.1

instance : ∀ (state : ReplicaNode) (event : ReplicaEvent),
    Decidable (ForgetsSafely state event)
  | _, .arrive _ _ => inferInstanceAs (Decidable True)
  | _, .finish _ _ _ => inferInstanceAs (Decidable (_ → _))

/-- A request that expires at `exp` cannot pass once more. -/
def Barred (state : ReplicaNode) (request : ReplicaRequest) (exp : Int) :
    Prop :=
  state.seen.get request.nonce.text = some exp ∨
    exp * 1000000000 + 5 * 1000000000 < state.clock ∧
      ∀ other ∈ state.waiting, other.1.nonce = request.nonce →
        other.1.expires.text ≠ request.expires.text

/-- The requests that have passed, none of them twice. -/
structure PassedOnce (digests : Digests) (secret : String)
    (state : ReplicaNode) : Prop where
  parsed : ∀ other ∈ state.waiting,
    parseInt64 other.1.expires.text = some other.2
  signed : ∀ request ∈ state.passed, hexDecode request.signature.text =
      some (digests.hmac secret (request.canon digests))
  barred : ∀ request ∈ state.passed, ∃ exp,
    parseInt64 request.expires.text = some exp ∧ Barred state request exp
  once : (state.passed.map ReplicaRequest.identity).Nodup

theorem passedOnce_started
    (digests : Digests) (secret : String) (clock : Time) :
    PassedOnce digests secret (.started clock) where
  parsed := fun _ member => by cases member
  signed := fun _ member => by cases member
  barred := fun _ member => by cases member
  once := List.nodup_nil

theorem clock_le (state : ReplicaNode) (elapsed : Nat) :
    state.clock ≤ state.clock + elapsed :=
  Int.le_add_of_nonneg_right (Int.natCast_nonneg elapsed)

variable {request : ReplicaRequest} {exp expUnix : Int} {elapsed place : Nat}

section

variable (barred : Barred state request exp)

include barred

/-- Time passes and requests leave. -/
theorem Barred.later
    {clock : Time} {waiting : List (ReplicaRequest × Int)}
    (later : state.clock ≤ clock)
    (fewer : ∀ other ∈ waiting, other ∈ state.waiting) :
    Barred { state with clock := clock, waiting := waiting } request exp :=
  barred.imp_right fun old =>
    ⟨lt_of_lt_of_le old.1 later,
      fun other member => old.2 other (fewer other member)⟩

/-- A request that is barred by its expiry is not admitted. -/
theorem Barred.arrive
    {other : ReplicaRequest}
    (parsed : parseInt64 request.expires.text = some exp)
    (admitted : admitReplica nodeID (state.clock + elapsed) other =
      .ok expUnix) :
    Barred { state with
      clock := state.clock + elapsed
      waiting := state.waiting ++ [(other, expUnix)] } request exp := by
  rcases barred with remembered | ⟨past, apart⟩
  · exact Or.inl remembered
  · obtain ⟨parsedOther, inTime⟩ := admitReplica_ok admitted
    have later := lt_of_lt_of_le past (clock_le state elapsed)
    refine Or.inr ⟨later, fun waiting member sameNonce sameExpires => ?_⟩
    rcases List.mem_append.mp member with old | new
    · exact apart waiting old sameNonce sameExpires
    · obtain rfl := List.mem_singleton.mp new
      rw [sameExpires, parsed] at parsedOther
      cases parsedOther
      exact inTime later

/-- Pruning that forgets safely bars what it forgets. -/
theorem Barred.prune
    {spoolFails : Bool}
    (safely : ForgetsSafely state (.finish elapsed place spoolFails)) :
    Barred { state with
      clock := state.clock + elapsed
      seen := state.seen.prune (unixSeconds (state.clock + elapsed)) }
      request exp := by
  rcases barred with remembered | old
  · rcases ReplicaNonces.get_prune (unixSeconds (state.clock + elapsed))
      remembered with kept | ⟨many, past⟩
    · exact Or.inl kept
    · have present := (Table.mem_entries_iff state.seen _ _).mpr remembered
      obtain ⟨later, apart⟩ := safely many _ present past
      exact Or.inr ⟨later, fun other member sameNonce =>
        absurd (congrArg LineText.text sameNonce) (apart other member)⟩
  · exact Or.inr ⟨lt_of_lt_of_le old.1 (clock_le state elapsed), old.2⟩

/-- The nonce of another request does not take the place of one. -/
theorem Barred.put
    {nonce : String} (fresh : state.seen.get nonce = none) :
    Barred { state with seen := state.seen.put nonce expUnix } request
      exp := by
  rcases barred with remembered | old
  · have other : request.nonce.text ≠ nonce := by
      rintro rfl
      rw [fresh] at remembered
      cases remembered
    exact Or.inl ((Table.get_put_of_ne state.seen expUnix other).trans
      remembered)
  · exact Or.inr old

end

section

variable (collisionFree : digests.CollisionFree secret)
  (once : PassedOnce digests secret state)

include collisionFree once

/-- A waiting request that was signed is not one that has passed. -/
theorem PassedOnce.identity_ne
    {passed : ReplicaRequest}
    (waiting : state.waiting[place]? = some (request, expUnix))
    (signed : hexDecode request.signature.text =
      some (digests.hmac secret (request.canon digests)))
    (unseen : state.seen.get request.nonce.text = none)
    (member : passed ∈ state.passed) :
    passed.identity ≠ request.identity := by
  intro same
  obtain ⟨sameNonce, sameSignature⟩ := Prod.mk.inj same
  -- One code covers one text, and so one expiry.
  rw [once.signed passed member, signed] at sameSignature
  have sameCanon := collisionFree.hmac (Option.some.inj sameSignature)
  have sameExpires := ReplicaRequest.expires_eq_of_canon sameCanon
  obtain ⟨exp, -, remembered | ⟨-, apart⟩⟩ := once.barred passed member
  · rw [sameNonce, unseen] at remembered
    cases remembered
  · exact apart _ (List.mem_of_getElem? waiting) sameNonce.symm
      sameExpires.symm

omit collisionFree in
/-- Time passes and requests leave. -/
theorem PassedOnce.later
    {clock : Time} {waiting : List (ReplicaRequest × Int)}
    (later : state.clock ≤ clock)
    (fewer : ∀ other ∈ waiting, other ∈ state.waiting) :
    PassedOnce digests secret
      { state with clock := clock, waiting := waiting } where
  parsed := fun other member => once.parsed other (fewer other member)
  signed := once.signed
  barred := fun passed member =>
    (once.barred passed member).imp fun _ barred =>
      barred.imp_right fun old => old.later later fewer
  once := once.once

omit collisionFree in
theorem PassedOnce.arrive
    (admitted : admitReplica nodeID (state.clock + elapsed) request =
      .ok expUnix) :
    PassedOnce digests secret { state with
      clock := state.clock + elapsed
      waiting := state.waiting ++ [(request, expUnix)] } where
  parsed := by
    intro other member
    rcases List.mem_append.mp member with old | new
    · exact once.parsed other old
    · obtain rfl := List.mem_singleton.mp new
      exact (admitReplica_ok admitted).1
  signed := once.signed
  barred := fun passed member =>
    (once.barred passed member).imp fun _ barred =>
      ⟨barred.1, barred.2.arrive barred.1 admitted⟩
  once := once.once

omit collisionFree in
theorem PassedOnce.prune
    {spoolFails : Bool}
    (safely : ForgetsSafely state (.finish elapsed place spoolFails)) :
    PassedOnce digests secret { state with
      clock := state.clock + elapsed
      seen := state.seen.prune (unixSeconds (state.clock + elapsed)) } :=
  { once with
    barred := fun passed member =>
      (once.barred passed member).imp fun _ barred =>
        barred.imp_right fun old => old.prune safely }

/-- A request that was signed passes, and its nonce is remembered. -/
theorem PassedOnce.pass
    (waiting : state.waiting[place]? = some (request, expUnix))
    (signed : hexDecode request.signature.text =
      some (digests.hmac secret (request.canon digests)))
    (unseen : state.seen.get request.nonce.text = none) :
    PassedOnce digests secret { state with
      seen := state.seen.put request.nonce.text expUnix
      passed := request :: state.passed } where
  parsed := once.parsed
  signed := by
    rw [List.forall_mem_cons]
    exact ⟨signed, once.signed⟩
  barred := by
    rw [List.forall_mem_cons]
    constructor
    · exact ⟨expUnix, once.parsed _ (List.mem_of_getElem? waiting),
        Or.inl (Table.get_put_self _ _ _)⟩
    · intro passed member
      exact (once.barred passed member).imp fun _ barred =>
        barred.imp_right fun old => old.put unseen
  once := by
    rw [List.map_cons, List.nodup_cons]
    refine ⟨fun member => ?_, once.once⟩
    obtain ⟨passed, present, same⟩ := List.mem_map.mp member
    exact once.identity_ne collisionFree waiting signed unseen present same

/-- One event keeps the requests that have passed apart. -/
theorem PassedOnce.step
    {event : ReplicaEvent} (safely : ForgetsSafely state event) :
    PassedOnce digests secret
      (replicaStep digests secret nodeID state event) := by
  cases event with
  | arrive elapsed request =>
    simp only [replicaStep, ReplicaEvent.elapsed]
    cases admitted : admitReplica nodeID (state.clock + elapsed) request with
    | error refusal =>
      exact once.later (clock_le state elapsed) fun _ => id
    | ok expUnix => exact once.arrive admitted
  | finish elapsed place spoolFails =>
    simp only [replicaStep, ReplicaEvent.elapsed]
    cases waiting : state.waiting[place]? with
    | none => exact once.later (clock_le state elapsed) fun _ => id
    | some entry =>
      obtain ⟨request, expUnix⟩ := entry
      have fewer : ∀ other ∈ state.waiting.eraseIdx place,
          other ∈ state.waiting :=
        fun other => List.mem_of_mem_eraseIdx
      have pruned := once.prune safely
      have outcome := authenticateReplica_authenticated digests secret
        spoolFails (state.clock + elapsed) state.seen request expUnix
      simp only
      generalize authenticateReplica digests secret spoolFails
        (state.clock + elapsed) state.seen request expUnix = answer
        at outcome ⊢
      cases outcome with
      | kept refusal => exact once.later (clock_le state elapsed) fewer
      | pruned refusal => exact pruned.later le_rfl fewer
      | passed signed fresh =>
        exact (pruned.pass collisionFree waiting signed fresh).later
          le_rfl fewer

end

/--
Along a run that forgets nonces safely no signed request passes twice, and a
request that passes is the one that was signed when that names its object
without line breaks.
-/
theorem replica_requests_pass_once
    (digests : Digests) (secret nodeID : String) (start : Time)
    (events : List ReplicaEvent)
    (collisionFree : digests.CollisionFree secret)
    (safely : Guarded (replicaStep digests secret nodeID) ForgetsSafely
      (.started start) events) :
    let final := runAll (replicaStep digests secret nodeID)
      (.started start) events
    (final.passed.map ReplicaRequest.identity).Nodup ∧
      ∀ request ∈ final.passed, ∀ signed : ReplicaRequest, signed.Unbroken →
        request.signature.text =
            replicaSign digests secret (signed.canon digests) →
          request.SameSigned signed := by
  have once := safely.invariant (passedOnce_started digests secret start)
    fun state event once safe => once.step collisionFree safe
  refine ⟨once.once, fun request member signed unbroken signature => ?_⟩
  have code := once.signed request member
  rw [signature, replicaSign, hexDecode_hexEncode] at code
  exact ReplicaRequest.sameSigned_of_canon collisionFree.sha256 unbroken
    (collisionFree.hmac (Option.some.inj code))

/-- Digests that are the texts themselves. -/
def plainDigests : Digests where
  sha256 := id
  hmac := fun _ message => 0 :: message.toByteArray.data.toList

theorem plainDigests_collisionFree (secret : String) :
    plainDigests.CollisionFree secret where
  sha256 := Function.injective_id
  hmac := by
    intro left right same
    exact String.toByteArray_inj.mp
      (ByteArray.ext (Array.toList_inj.mp (List.cons.inj same).2))

/-- A push of the byte 1 that expires in the second 1, without signature. -/
def pushData (nonce : LineText) (key version : String) : ReplicaRequest where
  method := ⟨"PUT", by decide⟩
  bucket := "b"
  key := key
  version := version
  expires := ⟨"1", by decide⟩
  node := ⟨"node", by decide⟩
  nonce := nonce
  signature := ⟨"", by decide⟩
  body := [1]

/-- Nonces that are all different. -/
def floodNonce (number : Nat) : LineText :=
  ⟨String.ofList (List.replicate (number + 1) 'n'), by simp⟩

def flood (number : Nat) : ReplicaRequest :=
  (pushData (floodNonce number) "k" "").sign plainDigests "secret"

/-- A push that is signed, taken once and refused when it comes again. -/
theorem replica_request_passes_once :
    let events : List ReplicaEvent :=
      [.arrive 0 (flood 0), .finish 0 0 false, .arrive 2500000000 (flood 0),
        .finish 0 0 false]
    let final := runAll (replicaStep plainDigests "secret" "node")
      (.started 0) events
    final.passed = [flood 0] ∧
      (final.passed.map ReplicaRequest.identity).Nodup ∧
      ∀ request ∈ final.passed, ∀ signed : ReplicaRequest, signed.Unbroken →
        request.signature.text =
            replicaSign plainDigests "secret" (signed.canon plainDigests) →
          request.SameSigned signed :=
  ⟨by decide +kernel,
    replica_requests_pass_once plainDigests "secret" "node" 0 _
      (plainDigests_collisionFree "secret") (by decide +kernel)⟩

/-- As many pushes as a number says. -/
def floodEvents (number : Nat) : List ReplicaEvent :=
  (List.range number).flatMap fun place =>
    [.arrive 0 (flood place), .finish 0 0 false]

theorem admitReplica_flood
    {now : Time} (valid : replicaExpiryOK 1 now = true) (number : Nat) :
    admitReplica "node" now (flood number) = .ok 1 := by
  have parsed : parseInt64 "1" = some 1 := by decide
  simp [admitReplica, flood, pushData, ReplicaRequest.sign, parsed, valid]

theorem floodNonce_inj
    {left right : Nat}
    (same : (floodNonce left).text = (floodNonce right).text) :
    left = right := by
  have lengths := congrArg String.length same
  simpa [floodNonce] using lengths

/-- A push arrives and passes when its nonce is not remembered. -/
theorem flood_passes
    (number : Nat) (idle : state.waiting = [])
    (valid : replicaExpiryOK 1 (state.clock + elapsed) = true)
    (fresh : (state.seen.prune (unixSeconds (state.clock + elapsed))).get
      (floodNonce number).text = none) :
    runAll (replicaStep plainDigests "secret" "node") state
        [.arrive elapsed (flood number), .finish 0 0 false] =
      { clock := state.clock + elapsed
        seen := (state.seen.prune
          (unixSeconds (state.clock + elapsed))).put
            (floodNonce number).text 1
        waiting := []
        passed := flood number :: state.passed } := by
  have named : (floodNonce number).text ≠ "" := by
    simp [floodNonce]
  have coded : ∀ canon, replicaSign plainDigests "secret" canon ≠ "" := by
    simp [replicaSign, plainDigests, hexEncode]
  have passes : authenticateReplica plainDigests "secret" false
      (state.clock + elapsed) state.seen (flood number) 1 = _ :=
    authenticateReplica_sign (by decide) named (coded _) fresh
  simp only [runAll, List.foldl_cons, replicaStep, ReplicaEvent.elapsed,
    admitReplica_flood valid, idle, List.nil_append, List.getElem?_cons_zero,
    Int.natCast_zero, Int.add_zero, passes]
  rfl

theorem flooded (number : Nat) (few : number ≤ 257) :
    let state := runAll (replicaStep plainDigests "secret" "node")
      (.started 0) (floodEvents number)
    state.clock = 0 ∧ state.waiting = [] ∧
      state.seen.entries = ((List.range number).map fun place =>
        ((floodNonce place).text, (1 : Int))).reverse ∧
      state.passed = ((List.range number).map flood).reverse := by
  induction number with
  | zero => exact ⟨rfl, rfl, rfl, rfl⟩
  | succ number induction =>
    obtain ⟨clock, idle, seen, passed⟩ := induction (by omega)
    have events : floodEvents (number + 1) = floodEvents number ++
        [.arrive 0 (flood number), .finish 0 0 false] := by
      simp [floodEvents, List.range_succ]
    rw [events, runAll_append]
    generalize runAll (replicaStep plainDigests "secret" "node")
      (.started 0) (floodEvents number) = state at clock idle seen passed ⊢
    have absent : ∀ entry ∈ state.seen.entries,
        entry.1 ≠ (floodNonce number).text := by
      rw [seen]
      intro entry member same
      obtain ⟨place, inRange, rfl⟩ :=
        List.mem_map.mp (List.mem_reverse.mp member)
      exact absurd (floodNonce_inj same)
        (Nat.ne_of_lt (List.mem_range.mp inRange))
    have whole : state.seen.prune
        (unixSeconds (state.clock + (0 : Nat))) = state.seen := by
      rw [ReplicaNonces.prune, if_neg]
      rw [seen, List.length_reverse, List.length_map, List.length_range]
      omega
    have fresh : state.seen.get (floodNonce number).text = none := by
      rw [Table.get, List.find?_eq_none.mpr]
      · rfl
      · intro entry member
        simpa using absent entry member
    rw [flood_passes number idle (by rw [clock]; rfl)
      (by rw [whole]; exact fresh), whole]
    refine ⟨by rw [clock]; rfl, rfl, ?_, ?_⟩
    · have kept : state.seen.entries.filter
          (fun entry => entry.1 ≠ (floodNonce number).text) =
            state.seen.entries :=
        List.filter_eq_self.mpr fun entry member =>
          decide_eq_true (absent entry member)
      rw [List.range_succ, List.map_append, List.reverse_append, ← seen]
      exact congrArg (List.cons _) kept
    · rw [List.range_succ, List.map_append, List.reverse_append, ← passed]
      rfl

/-- A push that names another object in the same lines. -/
def shiftedPush : ReplicaRequest :=
  { pushData (floodNonce 0) "x" "y\n" with
    signature := ((pushData (floodNonce 0) "x\ny" "").sign plainDigests
      "secret").signature }

/--
With 257 nonces in memory a push passes again two and a half seconds later,
and the code of one object passes for another whose lines are the same.
-/
theorem replica_request_passes_twice :
    plainDigests.CollisionFree "secret" ∧
    ¬ ((runAll (replicaStep plainDigests "secret" "node") (.started 0)
        (floodEvents 257 ++ [.arrive 2500000000 (flood 0),
          .finish 0 0 false])).passed.map ReplicaRequest.identity).Nodup ∧
    shiftedPush.signature.text = replicaSign plainDigests "secret"
      ((pushData (floodNonce 0) "x\ny" "").canon plainDigests) ∧
    shiftedPush ∈ (runAll (replicaStep plainDigests "secret" "node")
      (.started 0) [.arrive 0 shiftedPush, .finish 0 0 false]).passed ∧
    shiftedPush.key ≠ "x\ny" := by
  refine ⟨plainDigests_collisionFree "secret", ?_, rfl, by decide +kernel,
    by decide⟩
  obtain ⟨clock, idle, seen, passed⟩ := flooded 257 le_rfl
  rw [runAll_append]
  generalize runAll (replicaStep plainDigests "secret" "node")
    (.started 0) (floodEvents 257) = state at clock idle seen passed ⊢
  -- Every nonce expired in the second 1, and so all of them are forgotten.
  have forgotten : (state.seen.prune (unixSeconds
      (state.clock + (2500000000 : Nat)))).get (floodNonce 0).text =
        none := by
    have many : 256 < state.seen.entries.length := by
      rw [seen, List.length_reverse, List.length_map, List.length_range]
      decide
    have remembered : state.seen.get (floodNonce 0).text = some 1 := by
      rw [← Table.mem_entries_iff, seen, List.mem_reverse]
      exact List.mem_map.mpr ⟨0, List.mem_range.mpr (by decide), rfl⟩
    rw [ReplicaNonces.prune, if_pos many, Table.get_restrict, remembered,
      clock]
    rfl
  rw [flood_passes 0 idle (by rw [clock]; rfl) forgotten, List.map_cons,
    List.nodup_cons, not_and]
  intro absent
  refine absurd (List.mem_map_of_mem ?_) absent
  rw [passed, List.mem_reverse]
  exact List.mem_map_of_mem (List.mem_range.mpr (by decide))

end DataSafe.Api
