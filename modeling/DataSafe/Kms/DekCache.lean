import DataSafe.Base.Joined
import DataSafe.Base.Machine
import DataSafe.Base.Percent
import DataSafe.Metadata.Records

/-!
# The cache of unwrapped data keys

The Vault provider keeps data keys that it has unwrapped in a map, and the
keys of the map in a list, the one used last at its end.  The text under which
a data key is kept names the key id, the version, the generation and a digest
of the wrapped key.
-/

namespace DataSafe.Kms

open Base Metadata

/-- Decimal texts, and the truncated digest taken to be injective. -/
structure KeyTexts where
  itoa : Int → Bytes
  sum : Bytes → Bytes
  itoa_injective : Function.Injective itoa
  sum_injective : Function.Injective sum
  itoa_plain : ∀ number, 124 ∉ itoa number
  sum_plain : ∀ wrapped, 124 ∉ sum wrapped

/-- What a data key is asked for by. -/
structure DekName where
  keyID : Bytes
  version : Int
  gen : Int
  wrapped : Bytes
  plain : 124 ∉ keyID
  deriving DecidableEq

def dekCacheKey (texts : KeyTexts) (name : DekName) : Bytes :=
  [124].intercalate [name.keyID, texts.itoa name.version,
    texts.itoa name.gen, texts.sum name.wrapped]

theorem dekCacheKey_injective (texts : KeyTexts) :
    Function.Injective (dekCacheKey texts) := by
  intro left right same
  have parts := intercalate_inj (by rfl) (by
    simp [left.plain, texts.itoa_plain, texts.sum_plain]) same
  simp only [List.cons.injEq, texts.itoa_injective.eq_iff,
    texts.sum_injective.eq_iff] at parts
  rcases left with ⟨_, _, _, _, _⟩
  rcases right with ⟨_, _, _, _, _⟩
  simpa using parts

/-! ## The cache -/

structure DekEntry where
  keyID : Bytes
  gen : Int
  dek : Bytes
  exp : Time
  deriving DecidableEq

structure DekCache where
  ttl : Time
  max : Nat
  order : List Bytes := []
  items : Table Bytes DekEntry := .empty

def newDEKCache (ttl : Time) (max : Int) : DekCache where
  ttl := if ttl ≤ 0 then 5 * 60 * 1000000000 else ttl
  max := if max < 1 then 256 else max.toNat

namespace DekCache

def deleteLocked (cache : DekCache) (key : Bytes) : DekCache :=
  { cache with
    order := cache.order.erase key
    items := cache.items.delete key }

def touchLocked (cache : DekCache) (key : Bytes) : DekCache :=
  if key ∈ cache.order then
    { cache with order := cache.order.erase key ++ [key] }
  else cache

def get (texts : KeyTexts) (cache : DekCache) (now : Time)
    (name : DekName) : DekCache × Option Bytes :=
  let key := dekCacheKey texts name
  match cache.items.get key with
  | none => (cache, none)
  | some entry =>
    if entry.exp < now then (cache.deleteLocked key, none)
    else (cache.touchLocked key, some entry.dek)

/-- The loop of `put`, with enough turns for the whole list. -/
def evict : Nat → DekCache → DekCache
  | 0, cache => cache
  | turns + 1, cache =>
    match cache.order with
    | [] => cache
    | oldest :: _ =>
      if cache.max ≤ cache.items.entries.length then
        evict turns (cache.deleteLocked oldest)
      else cache

/-- A put first deletes what it replaces. -/
def cleared (cache : DekCache) (key : Bytes) : DekCache :=
  if (cache.items.get key).isSome then cache.deleteLocked key else cache

def put (texts : KeyTexts) (cache : DekCache) (now : Time)
    (name : DekName) (dek : Bytes) : DekCache :=
  if dek = [] then cache
  else
    let key := dekCacheKey texts name
    let cache := cache.cleared key
    let cache := evict cache.order.length cache
    { cache with
      items := cache.items.put key ⟨name.keyID, name.gen, dek,
        now + cache.ttl⟩
      order := cache.order ++ [key] }

/-- The order of the walk over the map does not matter. -/
def dropKey (cache : DekCache) (keyID : Bytes) (gen : Int) : DekCache :=
  ((cache.items.entries.filter fun item =>
    item.2.keyID = keyID && item.2.gen ≠ gen).map Prod.fst).foldl
      deleteLocked cache

end DekCache

/-! ## Calls and what they have done -/

inductive CacheCall where
  | get (now : Time) (name : DekName)
  | put (now : Time) (name : DekName) (dek : Bytes)
  | dropKey (keyID : Bytes) (gen : Int)

/-- A cache with the keys that were used and the data keys that were put. -/
structure Logged where
  cache : DekCache
  used : List Bytes := []
  puts : List (DekName × Bytes × Time) := []

def step (texts : KeyTexts) (log : Logged) : CacheCall → Logged
  | .get now name =>
    let result := log.cache.get texts now name
    { log with
      cache := result.1
      used := if result.2.isSome then
          log.used ++ [dekCacheKey texts name]
        else log.used }
  | .put now name dek =>
    if dek = [] then log
    else
      { cache := log.cache.put texts now name dek
        used := log.used ++ [dekCacheKey texts name]
        puts := log.puts ++ [(name, dek, now)] }
  | .dropKey keyID gen =>
    { log with cache := log.cache.dropKey keyID gen }

/-- The keys in the order of their last use. -/
def recency (used : List Bytes) : List Bytes :=
  used.foldl (fun order key => order.erase key ++ [key]) []

/-- The last data key that was put under a name. -/
def lastPut (puts : List (DekName × Bytes × Time)) (name : DekName) :
    Option (DekName × Bytes × Time) :=
  (puts.filter fun put => put.1 = name).getLast?

structure Sound (texts : KeyTexts) (log : Logged) : Prop where
  listed : log.cache.order.Perm (log.cache.items.entries.map Prod.fst)
  bounded : log.cache.items.entries.length ≤ log.cache.max
  room : 0 < log.cache.max
  recent : log.cache.order.Sublist (recency log.used)
  last : ∀ key entry, log.cache.items.get key = some entry →
    ∃ name dek time, key = dekCacheKey texts name ∧
      lastPut log.puts name = some (name, dek, time) ∧
      entry = ⟨name.keyID, name.gen, dek, time + log.cache.ttl⟩

variable {texts : KeyTexts} {log : Logged}

theorem keys_delete (items : Table Bytes DekEntry) (key : Bytes) :
    (items.delete key).entries.map Prod.fst =
      (items.entries.map Prod.fst).erase key := by
  rw [items.distinct.erase_eq_filter, List.filter_map]
  congr 1
  apply List.filter_congr
  intro entry _
  simp [bne, beq_eq_decide]

theorem Sound.deleteLocked
    (sound : Sound texts log) (key : Bytes) :
    Sound texts { log with cache := log.cache.deleteLocked key } where
  listed := by
    show (log.cache.order.erase key).Perm _
    rw [DekCache.deleteLocked, keys_delete]
    exact sound.listed.erase key
  bounded := (List.length_filter_le _ _).trans sound.bounded
  room := sound.room
  recent := List.erase_sublist.trans sound.recent
  last := by
    intro other entry found
    exact sound.last other entry
      ((Table.get_delete_eq_some_iff _).mp found).2

theorem Sound.mem_order_iff
    (sound : Sound texts log) (key : Bytes) :
    key ∈ log.cache.order ↔ (log.cache.items.get key).isSome := by
  rw [sound.listed.mem_iff, Option.isSome_iff_exists]
  simp only [List.mem_map, ← Table.mem_entries_iff, Prod.exists,
    exists_and_right, exists_eq_right]

theorem recency_concat (used : List Bytes) (key : Bytes) :
    recency (used ++ [key]) = (recency used).erase key ++ [key] := by
  simp [recency]

theorem Sound.touch
    (sound : Sound texts log) {key : Bytes}
    (present : key ∈ log.cache.order) :
    Sound texts
      { log with
        cache := { log.cache with order := log.cache.order.erase key ++ [key] }
        used := log.used ++ [key] } where
  listed := (List.perm_append_singleton key _).trans
    ((List.perm_cons_erase present).symm.trans sound.listed)
  bounded := sound.bounded
  room := sound.room
  recent := by
    rw [recency_concat]
    exact (sound.recent.erase key).append (List.Sublist.refl _)
  last := sound.last

/-- What the loop of a put leaves. -/
structure Evicted (texts : KeyTexts) (log : Logged) (after : DekCache) :
    Prop where
  sound : Sound texts { log with cache := after }
  space : after.items.entries.length < after.max
  oldest : ∃ gone, log.cache.order = gone ++ after.order
  ttl : after.ttl = log.cache.ttl
  absent : ∀ key, log.cache.items.get key = none → after.items.get key = none

section

variable (sound : Sound texts log) (now : Time) {dek : Bytes}

include sound

theorem Sound.evict_none
    (space : log.cache.items.entries.length < log.cache.max) :
    Evicted texts log log.cache :=
  ⟨sound, space, ⟨[], rfl⟩, rfl, fun _ => id⟩

theorem Sound.space_of_empty
    (empty : log.cache.order = []) :
    log.cache.items.entries.length < log.cache.max := by
  have same := sound.listed.length_eq
  rw [empty, List.length_map] at same
  exact same ▸ sound.room

/-- The loop deletes from the front until there is room. -/
theorem Sound.evict
    (turns : Nat) (enough : log.cache.order.length ≤ turns) :
    Evicted texts log (DekCache.evict turns log.cache) := by
  induction turns generalizing log with
  | zero =>
    exact sound.evict_none (sound.space_of_empty
      (List.length_eq_zero_iff.mp (Nat.le_zero.mp enough)))
  | succ turns induction =>
    cases order : log.cache.order with
    | nil =>
      simp only [DekCache.evict, order]
      exact sound.evict_none (sound.space_of_empty order)
    | cons oldest rest =>
      simp only [DekCache.evict, order]
      split_ifs with full
      · have front : (log.cache.deleteLocked oldest).order = rest := by
          simp [DekCache.deleteLocked, order]
        rw [order, List.length_cons] at enough
        have next := induction (sound.deleteLocked oldest) (by
          rw [front]; omega)
        rcases next.oldest with ⟨gone, split⟩
        refine ⟨next.sound, next.space, ⟨oldest :: gone, ?_⟩, next.ttl,
          fun key unkept => next.absent key ?_⟩
        · rw [order, ← front, split, List.cons_append]
        · show (log.cache.items.delete oldest).get key = none
          simp [Table.delete, Table.get_restrict, unkept]
      · exact sound.evict_none (not_le.mp full)

theorem Sound.insert
    {name : DekName}
    (absent : log.cache.items.get (dekCacheKey texts name) = none)
    (space : log.cache.items.entries.length < log.cache.max) :
    Sound texts
      { cache := { log.cache with
          items := log.cache.items.put (dekCacheKey texts name)
            ⟨name.keyID, name.gen, dek, now + log.cache.ttl⟩
          order := log.cache.order ++ [dekCacheKey texts name] }
        used := log.used ++ [dekCacheKey texts name]
        puts := log.puts ++ [(name, dek, now)] } := by
  have unlisted : dekCacheKey texts name ∉ log.cache.order := by
    rw [sound.mem_order_iff, absent]
    simp
  have same : (log.cache.items.delete (dekCacheKey texts name)).entries.map
      Prod.fst = log.cache.items.entries.map Prod.fst := by
    rw [keys_delete, List.erase_of_not_mem]
    rwa [← sound.listed.mem_iff]
  constructor
  · show List.Perm _ (dekCacheKey texts name :: _)
    rw [same]
    exact (List.perm_append_singleton _ _).trans (sound.listed.cons _)
  · have length := congrArg List.length same
    simp only [List.length_map] at length
    show (_ :: (log.cache.items.delete _).entries).length ≤ log.cache.max
    rw [List.length_cons, length]
    exact space
  · exact sound.room
  · rw [recency_concat]
    have kept := sound.recent.erase (dekCacheKey texts name)
    rw [List.erase_of_not_mem unlisted] at kept
    exact kept.append (List.Sublist.refl _)
  · intro key entry found
    rw [Table.get_put] at found
    split_ifs at found with here
    · cases found
      exact ⟨name, dek, now, here, by simp [lastPut], rfl⟩
    · rcases sound.last key entry found with
        ⟨other, dek, time, rfl, last, rfl⟩
      refine ⟨other, dek, time, rfl, ?_, rfl⟩
      have apart : name ≠ other := fun same => here (by rw [same])
      simpa [lastPut, apart] using last

/-- A put evicts from the front of the list and appends its key. -/
theorem Sound.put
    (name : DekName) (some_key : dek ≠ []) :
    Sound texts (step texts log (.put now name dek)) ∧
      ∃ gone kept, log.cache.order.erase (dekCacheKey texts name) =
          gone ++ kept ∧
        (log.cache.put texts now name dek).order =
          kept ++ [dekCacheKey texts name] := by
  have clear : Sound texts { log with
      cache := log.cache.cleared (dekCacheKey texts name) } ∧
      (log.cache.cleared (dekCacheKey texts name)).items.get
        (dekCacheKey texts name) = none ∧
      (log.cache.cleared (dekCacheKey texts name)).order =
        log.cache.order.erase (dekCacheKey texts name) := by
    unfold DekCache.cleared
    split_ifs with present
    · exact ⟨sound.deleteLocked _, Table.get_delete_self _ _, rfl⟩
    · refine ⟨sound, by simpa using present, ?_⟩
      rw [List.erase_of_not_mem]
      rwa [sound.mem_order_iff]
  have evicted := clear.1.evict _ le_rfl
  rcases evicted.oldest with ⟨gone, split⟩
  rw [Kms.step, DekCache.put, if_neg some_key, if_neg some_key]
  refine ⟨?_, gone, _, clear.2.2 ▸ split, rfl⟩
  exact evicted.sound.insert now (evicted.absent _ clear.2.1) evicted.space

theorem Sound.step
    (call : CacheCall) :
    Sound texts (step texts log call) := by
  cases call with
  | get now name =>
    cases found : log.cache.items.get (dekCacheKey texts name) with
    | none =>
      simp only [Kms.step, DekCache.get, found]
      exact sound
    | some entry =>
      simp only [Kms.step, DekCache.get, found]
      by_cases expired : entry.exp < now
      · simp only [if_pos expired]
        exact sound.deleteLocked _
      · simp only [if_neg expired]
        have present : dekCacheKey texts name ∈ log.cache.order := by
          rw [sound.mem_order_iff, found]
          rfl
        rw [DekCache.touchLocked, if_pos present]
        exact sound.touch present
  | put now name dek =>
    by_cases empty : dek = []
    · rw [Kms.step, if_pos empty]
      exact sound
    · exact (sound.put now name empty).1
  | dropKey keyID gen =>
    simp only [Kms.step, DekCache.dropKey]
    generalize List.map Prod.fst _ = keys
    induction keys using List.reverseRecOn with
    | nil => exact sound
    | append_singleton keys key induction =>
      rw [List.foldl_append]
      exact induction.deleteLocked key

end

/-! ## The provider -/

structure Provider where
  log : Logged
  gens : Table Bytes Int := .empty

/-- The parts of `UnwrapDEK` before and behind the call of Vault, and a turn
of the loop of `NoteGenerations`. -/
inductive ProviderStep where
  | lookup (now : Time) (name : DekName)
  | store (now : Time) (name : DekName) (plain : Bytes)
  | noteGeneration (keyID : Bytes) (gen : Int)

def Provider.step (texts : KeyTexts) (provider : Provider) :
    ProviderStep → Provider
  | .lookup now name =>
    { provider with log := Kms.step texts provider.log (.get now name) }
  | .store now name plain =>
    { provider with
      log := Kms.step texts provider.log (.put now name plain) }
  | .noteGeneration keyID gen =>
    { log :=
        if (provider.gens.get keyID).any (· ≠ gen) then
          Kms.step texts provider.log (.dropKey keyID gen)
        else provider.log
      gens := provider.gens.put keyID gen }

theorem Sound.provider
    {provider : Provider} (sound : Sound texts provider.log)
    (made : ProviderStep) : Sound texts (provider.step texts made).log := by
  cases made with
  | lookup now name => exact sound.step (.get now name)
  | store now name plain => exact sound.step (.put now name plain)
  | noteGeneration keyID gen =>
    simp only [Provider.step]
    split_ifs
    · exact sound.step _
    · exact sound

/-! ## What holds after every run -/

structure CacheFacts (texts : KeyTexts) (log : Logged) : Prop where
  nodup : log.cache.order.Nodup
  same : ∀ key, key ∈ log.cache.order ↔ (log.cache.items.get key).isSome
  bounded : log.cache.items.entries.length ≤ log.cache.max
  by_use : log.cache.order.Sublist (recency log.used)
  hit : ∀ now name dek, (log.cache.get texts now name).2 = some dek →
    ∃ time, lastPut log.puts name = some (name, dek, time) ∧
      now ≤ time + log.cache.ttl
  evicts : ∀ now name dek, dek ≠ [] →
    ∃ gone kept, log.cache.order.erase (dekCacheKey texts name) =
        gone ++ kept ∧
      (log.cache.put texts now name dek).order =
        kept ++ [dekCacheKey texts name]

theorem Sound.facts (sound : Sound texts log) : CacheFacts texts log where
  nodup := sound.listed.nodup_iff.mpr log.cache.items.distinct
  same := sound.mem_order_iff
  bounded := sound.bounded
  by_use := sound.recent
  hit := by
    intro now name dek found
    unfold DekCache.get at found
    cases kept : log.cache.items.get (dekCacheKey texts name) with
    | none => simp [kept] at found
    | some entry =>
      rcases sound.last _ entry kept with ⟨other, put, time, same, last, rfl⟩
      cases dekCacheKey_injective texts same
      simp only [kept] at found
      split_ifs at found with expired
      cases found
      exact ⟨time, last, not_lt.mp expired⟩
  evicts := fun now name _ some_key => (sound.put now name some_key).2

theorem sound_new (texts : KeyTexts) (ttl : Time) (max : Int) :
    Sound texts { cache := newDEKCache ttl max } where
  listed := List.Perm.nil
  bounded := Nat.zero_le _
  room := by
    simp only [newDEKCache]
    split_ifs <;> omega
  recent := List.Sublist.refl _
  last := nofun

/-- The cache is kept in step by all calls, and an unwrap is answered with
what was put under its own generation. -/
theorem dek_cache_in_step (texts : KeyTexts) (ttl : Time) (max : Int) :
    (∀ calls, CacheFacts texts (runAll (step texts)
      { cache := newDEKCache ttl max } calls)) ∧
    ∀ steps,
      let provider := runAll (Provider.step texts)
        { log := { cache := newDEKCache ttl max } } steps
      CacheFacts texts provider.log ∧ ∀ now name dek,
        (provider.log.cache.get texts now name).2 = some dek →
        ∃ put ∈ provider.log.puts, put.1.keyID = name.keyID ∧
          put.1.gen = name.gen ∧ put.2.1 = dek := by
  constructor
  · intro calls
    exact (runAll_invariant (sound_new texts ttl max)
      (fun _ call sound => Sound.step sound call) calls).facts
  · intro steps provider
    have facts : CacheFacts texts provider.log :=
      (runAll_invariant (motive := fun state : Provider => Sound texts state.log)
        (sound_new texts ttl max)
        (fun _ made sound => Sound.provider sound made) steps).facts
    refine ⟨facts, fun now name dek found => ?_⟩
    rcases facts.hit now name dek found with ⟨time, last, _⟩
    exact ⟨_, (List.mem_filter.mp (List.mem_of_getLast? last)).1, rfl, rfl,
      rfl⟩

/-- Texts in unary, with a sign. -/
def unaryTexts : KeyTexts where
  itoa := fun number => (if number < 0 then [45] else []) ++
    List.replicate number.natAbs 49
  sum := hexText
  itoa_injective := by
    intro left right same
    have length := congrArg (List.count 49) same
    have signs := congrArg (List.count 45) same
    by_cases below : left < 0 <;> by_cases other : right < 0 <;>
      simp [below, other, List.count_replicate] at length signs <;> omega
  sum_injective := hexText_injective
  itoa_plain := by
    intro number bar
    split_ifs at bar <;> simp at bar
  sum_plain := notMem_hexText (by decide)

/-- A put of an empty data key is passed over. -/
theorem empty_put_ignored :
    let name : DekName := ⟨[97], 1, 1, [7], by decide⟩
    let log := runAll (step unaryTexts) { cache := newDEKCache 10 2 }
      [.put 0 name [1], .put 1 name []]
    (log.cache.get unaryTexts 2 name).2 = some [1] := by
  decide

end DataSafe.Kms
