import DataSafe.Base.Machine

/-!
# The sharing hierarchy

A sharing policy exists once for the server, once for each tenant and once for
each bucket.  `MergeSharing` applies a level to what stands above it, and
`putSharing` refuses a level that `SharingLoosens` finds looser than the
levels stored above it at that time.

A negative limit for share links means no limit.  Merging obeys it unless a
level above has set the limit, and a level above has set it if its own value
is negative or below the default of seven days.  So a negative value below is
harmless as long as some level above it sets the limit, and that is the
invariant of histories here.
-/

namespace DataSafe.Api

open Base

/-- `DefaultShareTTLSeconds` -/
def defaultShareTTL : Int := 7 * 24 * 3600

/-- `SharingPolicy` -/
structure SharingPolicy where
  scope : String := ""
  publicAccessBlocked : Option Bool := none
  shareLinksAllowed : Option Bool := none
  presignAllowed : Option Bool := none
  maxShareTTL : Option Int := none
  maxPresignTTL : Option Int := none
  sharePasswordRequired : Option Bool := none
deriving DecidableEq

/-- `EffectiveSharing` -/
structure EffectiveSharing where
  publicAccessBlocked : Bool := false
  shareLinksAllowed : Bool := true
  presignAllowed : Bool := true
  maxShareTTL : Int := defaultShareTTL
  maxPresignTTL : Int := defaultShareTTL
  sharePasswordRequired : Bool := false
  publicAccessBlockedBy : String := ""
  shareLinksBlockedBy : String := ""
  presignBlockedBy : String := ""
  shareTTLBy : String := ""
  presignTTLBy : String := ""
  passwordRequiredBy : String := ""
deriving DecidableEq

/-- The results of `MergeSharing`. -/
structure Merged where
  eff : EffectiveSharing := {}
  shareExplicit : Bool := false
  presignExplicit : Bool := false
deriving DecidableEq

/-- The part of `MergeSharing` for the flags. -/
def mergeFlags (base : EffectiveSharing) (level : SharingPolicy) :
    EffectiveSharing :=
  let out := if level.publicAccessBlocked = some true then
    { base with
      publicAccessBlocked := true
      publicAccessBlockedBy := level.scope } else base
  let out := if level.shareLinksAllowed = some false then
    { out with
      shareLinksAllowed := false
      shareLinksBlockedBy := level.scope } else out
  let out := if level.presignAllowed = some false then
    { out with
      presignAllowed := false
      presignBlockedBy := level.scope } else out
  if level.sharePasswordRequired = some true then
    { out with
      sharePasswordRequired := true
      passwordRequiredBy := level.scope } else out

/-- The part for the limit of share links. -/
def mergeShareTTL (base : Merged) (level : SharingPolicy) : Merged :=
  match level.maxShareTTL with
  | none => base
  | some ttl =>
    if ttl < 0 then
      if base.shareExplicit then base
      else
        { base with
          eff :=
            { base.eff with maxShareTTL := 0, shareTTLBy := level.scope }
          shareExplicit := true }
    else if 0 < ttl ∧
        (base.eff.maxShareTTL = 0 ∨ ttl < base.eff.maxShareTTL) then
      { base with
        eff :=
          { base.eff with maxShareTTL := ttl, shareTTLBy := level.scope }
        shareExplicit := true }
    else base

/-- The part for the limit of presigned links. -/
def mergePresignTTL (base : Merged) (level : SharingPolicy) : Merged :=
  match level.maxPresignTTL with
  | none => base
  | some ttl =>
    if ttl < 0 then
      if base.presignExplicit then base
      else
        { base with
          eff :=
            { base.eff with
              maxPresignTTL := defaultShareTTL
              presignTTLBy := level.scope }
          presignExplicit := true }
    else if 0 < ttl ∧ ttl < base.eff.maxPresignTTL then
      { base with
        eff :=
          { base.eff with
            maxPresignTTL := ttl
            presignTTLBy := level.scope }
        presignExplicit := true }
    else base

/-- `MergeSharing` -/
def mergeSharing (base : Merged) (level : SharingPolicy) : Merged :=
  let out := mergePresignTTL
    (mergeShareTTL { base with eff := mergeFlags base.eff level } level) level
  if out.eff.maxPresignTTL ≤ 0 ∨ defaultShareTTL < out.eff.maxPresignTTL then
    { out with eff := { out.eff with maxPresignTTL := defaultShareTTL } }
  else out

/-- `EffectiveSharingFrom` -/
def effectiveSharingFrom (global tenant bucket : SharingPolicy) :
    EffectiveSharing :=
  (mergeSharing (mergeSharing (mergeSharing {} global) tenant) bucket).eff

/-- `SharingLoosens`: the field that is looser, or an empty text. -/
def sharingLoosens (parent : Merged) (topLevel : Bool)
    (proposed : SharingPolicy) : String :=
  if proposed.publicAccessBlocked = some false ∧
      parent.eff.publicAccessBlocked then "public_access_blocked"
  else if proposed.shareLinksAllowed = some true ∧
      !parent.eff.shareLinksAllowed then "share_links_allowed"
  else if proposed.presignAllowed = some true ∧
      !parent.eff.presignAllowed then "presign_allowed"
  else if proposed.sharePasswordRequired = some false ∧
      parent.eff.sharePasswordRequired then "share_password_required"
  else if proposed.maxShareTTL.any fun ttl =>
      decide (ttl < 0) && !topLevel &&
          !(parent.shareExplicit && decide (parent.eff.maxShareTTL = 0)) ||
        decide (0 < ttl) && decide (0 < parent.eff.maxShareTTL) &&
          decide (parent.eff.maxShareTTL < ttl) then "max_share_ttl"
  else if proposed.maxPresignTTL.any fun ttl =>
      decide (ttl < 0) && !topLevel ||
        decide (0 < ttl) && decide (parent.eff.maxPresignTTL < ttl) ||
        decide (defaultShareTTL < ttl) then "max_presign_ttl"
  else ""

/-! ## Saving levels -/

/-- The stored levels; one that is not stored is empty. -/
structure SharingStore where
  global : SharingPolicy := {}
  tenants : String → SharingPolicy := fun _ => {}
  buckets : String → SharingPolicy := fun _ => {}

inductive SharingLevel where
  | global
  | tenant (id : String)
  | bucket (storageKey : String)
deriving DecidableEq

def SharingStore.put (store : SharingStore) (proposed : SharingPolicy) :
    SharingLevel → SharingStore
  | .global => { store with global := { proposed with scope := "global" } }
  | .tenant id =>
    { store with
      tenants := fun other =>
        if other = id then { proposed with scope := "tenant" }
        else store.tenants other }
  | .bucket storageKey =>
    { store with
      buckets := fun other =>
        if other = storageKey then { proposed with scope := "bucket" }
        else store.buckets other }

variable {base : Merged}

section

-- The tenant of the bucket with a storage key.
variable (tenantOf : String → String)

/-- `parentSharing` -/
def parentSharing (store : SharingStore) : SharingLevel → Merged
  | .global => {}
  | .tenant _ => mergeSharing {} store.global
  | .bucket storageKey =>
    mergeSharing (mergeSharing {} store.global)
      (store.tenants (tenantOf storageKey))

/-- `putSharing` behind its permission checks: the store, unless the level is
refused because of a field. -/
def putSharing (store : SharingStore) (level : SharingLevel)
    (proposed : SharingPolicy) : Except String SharingStore :=
  let why := sharingLoosens (parentSharing tenantOf store level)
    (decide (level = .global)) proposed
  if why = "" then .ok (store.put proposed level) else .error why

/-- A refused save leaves the store as it is. -/
def sharingStep (store : SharingStore)
    (save : SharingLevel × SharingPolicy) : SharingStore :=
  match putSharing tenantOf store save.1 save.2 with
  | .error _ => store
  | .ok next => next

/-! ## Strictness -/

/-- The first policy keeps every restriction of the second. -/
structure EffectiveSharing.AtLeastAsStrict (strict loose : EffectiveSharing) :
    Prop where
  blocked : loose.publicAccessBlocked = true →
    strict.publicAccessBlocked = true
  links : loose.shareLinksAllowed = false → strict.shareLinksAllowed = false
  presign : loose.presignAllowed = false → strict.presignAllowed = false
  password : loose.sharePasswordRequired = true →
    strict.sharePasswordRequired = true
  shareTTL : 0 < loose.maxShareTTL →
    0 < strict.maxShareTTL ∧ strict.maxShareTTL ≤ loose.maxShareTTL
  presignTTL : 0 < loose.maxPresignTTL →
    0 < strict.maxPresignTTL ∧ strict.maxPresignTTL ≤ loose.maxPresignTTL

/-- A level without a limit for share links. -/
def SharingPolicy.Unlimited (policy : SharingPolicy) : Prop :=
  ∃ ttl, policy.maxShareTTL = some ttl ∧ ttl < 0

/-- A level that sets the limit for share links, if it is the first one. -/
def SharingPolicy.SetsShareTTL (policy : SharingPolicy) : Prop :=
  ∃ ttl, policy.maxShareTTL = some ttl ∧
    (ttl < 0 ∨ 0 < ttl ∧ ttl < defaultShareTTL)

/-- A level that is no longer set was not needed by an unlimited level. -/
def KeepsLimits (store : SharingStore)
    (save : SharingLevel × SharingPolicy) : Prop :=
  save.2.SetsShareTTL ∨
    match save.1 with
    | .global => (∀ tenant, ¬ (store.tenants tenant).Unlimited) ∧
        ∀ storageKey, (store.buckets storageKey).Unlimited →
          (store.tenants (tenantOf storageKey)).SetsShareTTL
    | .tenant id => store.global.SetsShareTTL ∨
        ∀ storageKey, tenantOf storageKey = id →
          ¬ (store.buckets storageKey).Unlimited
    | .bucket _ => True

/-! ## One level -/

/-- What holds of merged levels: a limit that no level has set is the
default. -/
structure Merged.Sound (merged : Merged) : Prop where
  share : merged.shareExplicit = false →
    merged.eff.maxShareTTL = defaultShareTTL
  nonneg : 0 ≤ merged.eff.maxShareTTL
  presign : merged.presignExplicit = false →
    merged.eff.maxPresignTTL = defaultShareTTL
  bounds : 0 < merged.eff.maxPresignTTL ∧
    merged.eff.maxPresignTTL ≤ defaultShareTTL

theorem default_sound : ({} : Merged).Sound := by
  constructor <;> decide

/-- The flags of the first policy keep those of the second. -/
structure FlagsKept (strict loose : EffectiveSharing) : Prop where
  blocked : loose.publicAccessBlocked = true →
    strict.publicAccessBlocked = true
  links : loose.shareLinksAllowed = false → strict.shareLinksAllowed = false
  presign : loose.presignAllowed = false → strict.presignAllowed = false
  password : loose.sharePasswordRequired = true →
    strict.sharePasswordRequired = true

theorem mergeFlags_spec
    (base : EffectiveSharing) (level : SharingPolicy) :
    FlagsKept (mergeFlags base level) base ∧
      (mergeFlags base level).maxShareTTL = base.maxShareTTL ∧
      (mergeFlags base level).maxPresignTTL = base.maxPresignTTL := by
  refine ⟨⟨?_, ?_, ?_, ?_⟩, ?_, ?_⟩ <;> dsimp only [mergeFlags] <;>
    split_ifs <;> simp

/-- What the limit of share links becomes. -/
theorem mergeShareTTL_cases (base : Merged) (level : SharingPolicy) :
    (mergeShareTTL base level = base ∧
        (level.SetsShareTTL → base.shareExplicit = false →
          base.eff.maxShareTTL ≠ defaultShareTTL)) ∨
      ∃ ttl, level.maxShareTTL = some ttl ∧ mergeShareTTL base level =
          { base with
            eff :=
              { base.eff with
                maxShareTTL := max ttl 0
                shareTTLBy := level.scope }
            shareExplicit := true } ∧
        (ttl < 0 ∧ base.shareExplicit = false ∨
          0 < ttl ∧ (base.eff.maxShareTTL = 0 ∨
            ttl < base.eff.maxShareTTL)) := by
  cases given : level.maxShareTTL with
  | none =>
    left
    simp [mergeShareTTL, SharingPolicy.SetsShareTTL, given]
  | some ttl =>
    by_cases negative : ttl < 0
    · cases explicit : base.shareExplicit with
      | true =>
        left
        simp [mergeShareTTL, given, negative, explicit]
      | false =>
        right
        refine ⟨ttl, rfl, ?_, .inl ⟨negative, rfl⟩⟩
        rw [Int.max_eq_right (Int.le_of_lt negative)]
        simp [mergeShareTTL, given, negative, explicit]
    · by_cases lower : 0 < ttl ∧
          (base.eff.maxShareTTL = 0 ∨ ttl < base.eff.maxShareTTL)
      · right
        refine ⟨ttl, rfl, ?_, .inr lower⟩
        rw [Int.max_eq_left (Int.le_of_lt lower.1)]
        simp [mergeShareTTL, given, negative, lower]
      · left
        refine ⟨by simp [mergeShareTTL, given, negative, lower], ?_⟩
        rintro ⟨set, same, bounds⟩ - standing
        rw [given, Option.some.injEq] at same
        omega

/-- What the limit of presigned links becomes. -/
theorem mergePresignTTL_cases
    (base : Merged) (level : SharingPolicy) :
    mergePresignTTL base level = base ∨ ∃ ttl, mergePresignTTL base level =
          { base with
            eff :=
              { base.eff with
                maxPresignTTL := ttl
                presignTTLBy := level.scope }
            presignExplicit := true } ∧
        (ttl = defaultShareTTL ∧ base.presignExplicit = false ∨
          0 < ttl ∧ ttl < base.eff.maxPresignTTL) := by
  rw [mergePresignTTL]
  split
  · exact .inl rfl
  · split
    · split
      · exact .inl rfl
      · rename_i explicit
        exact .inr ⟨_, rfl, .inl ⟨rfl, by simpa using explicit⟩⟩
    · split
      · exact .inr ⟨_, rfl, .inr ‹_›⟩
      · exact .inl rfl

/-- The share limit of merged levels, and whether a level has set it. -/
theorem mergeShareTTL_spec
    (sound : base.Sound) (level : SharingPolicy) :
    let out := mergeShareTTL base level
    out.Sound ∧ (out.shareExplicit = true ↔
        base.shareExplicit = true ∨ level.SetsShareTTL) ∧
      ((level.Unlimited → base.shareExplicit = true) →
        0 < base.eff.maxShareTTL → 0 < out.eff.maxShareTTL ∧
            out.eff.maxShareTTL ≤ base.eff.maxShareTTL) ∧
      FlagsKept out.eff base.eff ∧
      out.eff.maxPresignTTL = base.eff.maxPresignTTL := by
  have share := sound.share
  rcases mergeShareTTL_cases base level with
    ⟨same, unset⟩ | ⟨ttl, given, changed, bounds⟩
  · refine ⟨by rw [same]; exact sound, ?_, ?_, ?_, by rw [same]⟩
    · rw [same]
      refine ⟨.inl, ?_⟩
      rintro (explicit | sets)
      · exact explicit
      · by_contra explicit
        rw [Bool.not_eq_true] at explicit
        exact unset sets explicit (share explicit)
    · rw [same]
      intro _ positive
      exact ⟨positive, Int.le_refl _⟩
    · rw [same]
      exact ⟨id, id, id, id⟩
  · intro out
    have outcome : out = _ := changed
    rw [outcome]
    refine ⟨⟨by simp, by dsimp only; omega, sound.presign, sound.bounds⟩, ?_,
      ?_, ⟨id, id, id, id⟩, rfl⟩
    · refine ⟨fun _ => ?_, fun _ => rfl⟩
      by_cases explicit : base.shareExplicit = true
      · exact .inl explicit
      · rw [Bool.not_eq_true] at explicit
        have standing := share explicit
        refine .inr ⟨ttl, given, ?_⟩
        rw [standing] at bounds
        rcases bounds with ⟨negative, -⟩ | ⟨positive, none | lower⟩
        · exact .inl negative
        · exact absurd none (by decide)
        · exact .inr ⟨positive, lower⟩
    · intro above positive
      rcases bounds with ⟨negative, unset⟩ | bounds
      · rw [above ⟨ttl, given, negative⟩] at unset
        cases unset
      · dsimp only
        omega

/-- Merging a level keeps what holds of merged levels, and it tightens them
unless it is an unlimited level and no level above has set the limit. -/
theorem mergeSharing_spec
    (sound : base.Sound) (level : SharingPolicy) :
    (mergeSharing base level).Sound ∧
      ((mergeSharing base level).shareExplicit = true ↔
        base.shareExplicit = true ∨ level.SetsShareTTL) ∧
      ((level.Unlimited → base.shareExplicit = true) →
        (mergeSharing base level).eff.AtLeastAsStrict base.eff) := by
  rcases mergeFlags_spec base.eff level with ⟨flags, sameShare, samePresign⟩
  have start : Merged.Sound { base with eff := mergeFlags base.eff level } :=
    ⟨fun unset => sameShare.trans (sound.share unset),
      sameShare ▸ sound.nonneg,
      fun unset => samePresign.trans (sound.presign unset),
      samePresign ▸ sound.bounds⟩
  have middle := mergeShareTTL_spec start level
  rw [sameShare, samePresign] at middle
  generalize stepped : mergeShareTTL
    { base with eff := mergeFlags base.eff level } level = shared at middle
  rcases middle with ⟨soundShared, explicit, tightens, kept, presign⟩
  have bounds := soundShared.bounds
  have standing := soundShared.presign
  -- The limit of presigned links only falls, so that it stays in bounds.
  have last : ∃ ttl scope set, mergeSharing base level =
      { shared with
        eff := { shared.eff with maxPresignTTL := ttl, presignTTLBy := scope }
        presignExplicit := set } ∧
      0 < ttl ∧ ttl ≤ shared.eff.maxPresignTTL ∧
      (set = false → ttl = defaultShareTTL) := by
    simp only [mergeSharing, stepped]
    rcases mergePresignTTL_cases shared level with same | ⟨ttl, same, low⟩
    · rw [same, if_neg (by omega)]
      exact ⟨_, _, _, rfl, bounds.1, Int.le_refl _, standing⟩
    · have small : 0 < ttl ∧ ttl ≤ shared.eff.maxPresignTTL := by
        rcases low with ⟨rfl, unset⟩ | low
        · rw [standing unset]
          exact ⟨by decide, Int.le_refl _⟩
        · omega
      rw [same, if_neg (by dsimp only; omega)]
      exact ⟨_, _, _, rfl, small.1, small.2, by rintro ⟨⟩⟩
  rcases last with ⟨ttl, scope, set, final, positive, small, unset⟩
  rw [final]
  refine ⟨⟨soundShared.share, soundShared.nonneg, unset, positive,
    Int.le_trans small bounds.2⟩, explicit, fun above => ?_⟩
  exact
    { blocked := fun was => kept.blocked (flags.blocked was)
      links := fun was => kept.links (flags.links was)
      presign := fun was => kept.presign (flags.presign was)
      password := fun was => kept.password (flags.password was)
      shareTTL := tightens above
      presignTTL := fun _ => ⟨positive, presign ▸ small⟩ }

/-- An empty level changes nothing. -/
theorem mergeSharing_empty
    (sound : base.Sound) : mergeSharing base {} = base := by
  have bounds := sound.bounds
  simp only [mergeSharing, mergePresignTTL, mergeShareTTL, mergeFlags,
    reduceCtorEq, if_false]
  rw [if_neg (by omega)]

/-! ## Histories -/

/-- An unlimited level stands below a level that sets the limit. -/
structure Covered (store : SharingStore) : Prop where
  tenants : ∀ tenant, (store.tenants tenant).Unlimited →
    store.global.SetsShareTTL
  buckets : ∀ storageKey, (store.buckets storageKey).Unlimited →
    store.global.SetsShareTTL ∨
      (store.tenants (tenantOf storageKey)).SetsShareTTL

/-- A lower level is accepted without a limit only below a level that sets
it. -/
theorem explicit_of_accepted
    {parent : Merged} {proposed : SharingPolicy}
    (accepted : sharingLoosens parent false proposed = "")
    (unlimited : proposed.Unlimited) : parent.shareExplicit = true := by
  rcases unlimited with ⟨ttl, given, negative⟩
  by_contra unset
  rw [sharingLoosens] at accepted
  split_ifs at accepted <;> simp_all

theorem sharingStep_covered
    {store : SharingStore} (covered : Covered tenantOf store)
    {save : SharingLevel × SharingPolicy}
    (keeps : KeepsLimits tenantOf store save) :
    Covered tenantOf (sharingStep tenantOf store save) := by
  have above := mergeSharing_spec default_sound store.global
  rcases save with ⟨level, proposed⟩
  rw [sharingStep, putSharing]
  split_ifs with accepted
  swap
  · exact covered
  cases level with
  | global =>
    refine ⟨fun tenant unlimited => ?_, fun storageKey unlimited => ?_⟩
    · rcases keeps with sets | ⟨none, -⟩
      · exact sets
      · exact absurd unlimited (none tenant)
    · rcases keeps with sets | ⟨-, below⟩
      · exact .inl sets
      · exact .inr (below storageKey unlimited)
  | tenant id =>
    refine ⟨fun tenant unlimited => ?_, fun storageKey unlimited => ?_⟩
    · simp only [SharingStore.put] at unlimited
      split_ifs at unlimited
      · have explicit := explicit_of_accepted accepted unlimited
        rcases above.2.1.mp explicit with ⟨⟨⟩⟩ | sets
        exact sets
      · exact covered.tenants tenant unlimited
    · simp only [SharingStore.put]
      split_ifs with same
      · rcases keeps with sets | sets | none
        · exact .inr sets
        · exact .inl sets
        · exact absurd unlimited (none storageKey same)
      · exact covered.buckets storageKey unlimited
  | bucket key =>
    refine ⟨covered.tenants, fun storageKey unlimited => ?_⟩
    simp only [SharingStore.put] at unlimited
    split_ifs at unlimited with same
    · have explicit := explicit_of_accepted accepted unlimited
      rw [same]
      rcases (mergeSharing_spec above.1 _).2.1.mp explicit with
        global | tenant
      · rcases above.2.1.mp global with ⟨⟨⟩⟩ | sets
        exact .inl sets
      · exact .inr tenant
    · exact covered.buckets storageKey unlimited

end

/--
As long as no save takes away a limit that an unlimited level below needs,
every level only tightens what stands above it.
-/
theorem sharing_only_tightens
    (tenantOf : String → String) (saves : List (SharingLevel × SharingPolicy))
    (guarded : Guarded (sharingStep tenantOf) (KeepsLimits tenantOf) {} saves)
    (tenant storageKey : String) :
    let store := runAll (sharingStep tenantOf) {} saves
    (effectiveSharingFrom store.global (store.tenants tenant)
        {}).AtLeastAsStrict
      (effectiveSharingFrom store.global {} {}) ∧
    (effectiveSharingFrom store.global (store.tenants (tenantOf storageKey))
        (store.buckets storageKey)).AtLeastAsStrict
      (effectiveSharingFrom store.global
        (store.tenants (tenantOf storageKey)) {}) := by
  intro store
  have covered : Covered tenantOf store := by
    apply guarded.invariant
    · constructor <;> rintro _ ⟨ttl, ⟨⟩, -⟩
    · intro store save covered keeps
      exact sharingStep_covered tenantOf covered keeps
  have global := mergeSharing_spec default_sound store.global
  have below := fun id => mergeSharing_spec global.1 (store.tenants id)
  simp only [effectiveSharingFrom, mergeSharing_empty global.1,
    mergeSharing_empty (below _).1]
  constructor
  · apply (below tenant).2.2
    intro unlimited
    exact global.2.1.mpr (.inr (covered.tenants tenant unlimited))
  · apply (mergeSharing_spec (below (tenantOf storageKey)).1 _).2.2
    intro unlimited
    rcases covered.buckets storageKey unlimited with sets | sets
    · exact (below _).2.1.mpr (.inl (global.2.1.mpr (.inr sets)))
    · exact (below _).2.1.mpr (.inr sets)

/-- The server drops its limit, a tenant does so too, and the server takes its
own setting back: the tenant then has no limit below the default. -/
theorem tenant_keeps_no_limit :
    let first := runAll (sharingStep id) {}
      [(.global, { maxShareTTL := some (-1) })]
    let second := sharingStep id first
      (.tenant "t", { maxShareTTL := some (-1) })
    let third := sharingStep id second (.global, {})
    (sharingLoosens (parentSharing id first (.tenant "t")) false
        { maxShareTTL := some (-1) } = "" ∧
      sharingLoosens (parentSharing id second .global) true {} = "") ∧
      (effectiveSharingFrom third.global {} {}).maxShareTTL = 604800 ∧
      (effectiveSharingFrom third.global (third.tenants "t")
        {}).maxShareTTL = 0 := by
  decide

/-- A server and a tenant with limits. -/
theorem sharing_tightens_below_limits :
    let store := runAll (sharingStep id) {}
      [(.global, { maxShareTTL := some 3600 }),
        (.tenant "t", { maxShareTTL := some 60 })]
    (effectiveSharingFrom store.global (store.tenants "t")
        {}).AtLeastAsStrict
      (effectiveSharingFrom store.global {} {}) ∧
    (effectiveSharingFrom store.global (store.tenants "t")
        (store.buckets "t")).AtLeastAsStrict
      (effectiveSharingFrom store.global (store.tenants "t") {}) :=
  sharing_only_tightens id _
    (guarded_cons_iff.mpr ⟨Or.inl ⟨3600, rfl, .inr (by decide)⟩,
      guarded_cons_iff.mpr ⟨Or.inl ⟨60, rfl, .inr (by decide)⟩,
        guarded_nil⟩⟩) "t" "t"

end DataSafe.Api
