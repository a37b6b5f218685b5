import DataSafe.S3.Access

/-!
# Grants as a union

The grants of a bucket are meant as a union: their order should not matter,
one more of them should take nothing away, and those who may do everything in
the bucket should not need any.  Each of the three depends on what the lists
say of the user.

`grantAllows` and `prefixGrantAllows` take the first grant that applies, so a
weaker grant in front of a stronger one hides it.  A user with a prefix grant
is measured by the prefix grants alone, unless a grant for the bucket admits
them, so the first prefix grant of a user takes away what a role, ownership
or a tenant gave.
-/

namespace DataSafe.S3

open Base

/-! ## What the lists say of a user -/

/-- The level permits reading, or also writing. -/
def GrantLevel.allows (level : GrantLevel) (write : Bool) : Bool :=
  match level with
  | .admin => true
  | .write => true
  | .read => !write

/-- The levels that the grants give to a user, in their order. -/
def userLevels (grants : List BucketGrant) (userID : String) :
    List GrantLevel :=
  (grants.filter (fun grant => grant.userID = userID)).filterMap
    BucketGrant.effectiveLevel

def PrefixGrant.allows (grant : PrefixGrant) (write : Bool) : Bool :=
  if write then grant.canWrite else grant.canRead || grant.canWrite

/-- The prefix grants of a user that match a key, in their order. -/
def matchingGrants (grants : List PrefixGrant) (userID key : String) :
    List PrefixGrant :=
  grants.filter (fun grant =>
    decide (grant.userID = userID) && objectKeyMatchesPrefix key grant.folder)

variable {userID : String} {grants : List BucketGrant} {write : Bool}
  {prefixGrants : List PrefixGrant} {input : AccessInput}

theorem mem_matchingGrants {grants : List PrefixGrant}
    {key : String} {grant : PrefixGrant} :
    grant ∈ matchingGrants grants userID key ↔
      grant ∈ grants ∧ grant.userID = userID ∧
        objectKeyMatchesPrefix key grant.folder = true := by
  simp [matchingGrants]

/-- The first of some permissions decides. -/
def firstAllows {Item : Type} (allows : Item → Bool → Bool)
    (items : List Item) (write : Bool) : Bool :=
  items.head?.any (fun item => allows item write)

theorem grantAllows_eq (grants : List BucketGrant) (userID : String)
    (write : Bool) :
    grantAllows grants userID write =
      firstAllows GrantLevel.allows (userLevels grants userID) write := by
  induction grants with
  | nil => rfl
  | cons grant rest induction =>
    by_cases own : grant.userID = userID
    · cases level : grant.effectiveLevel with
      | none =>
        simpa [grantAllows, userLevels, own, level] using induction
      | some known =>
        cases known <;>
          simp [grantAllows, userLevels, own, level, firstAllows,
            GrantLevel.allows]
    · simpa [grantAllows, userLevels, own] using induction

theorem prefixGrantAllows_eq (grants : List PrefixGrant)
    (userID key : String) (write : Bool) :
    prefixGrantAllows grants userID key write =
      firstAllows PrefixGrant.allows (matchingGrants grants userID key)
        write := by
  induction grants with
  | nil => rfl
  | cons grant rest induction =>
    by_cases own : grant.userID = userID
    · cases found : objectKeyMatchesPrefix key grant.folder with
      | false =>
        simpa [prefixGrantAllows, matchingGrants, found]
          using induction
      | true =>
        simp [prefixGrantAllows, matchingGrants, own, found,
          firstAllows, PrefixGrant.allows]
    · simpa [prefixGrantAllows, matchingGrants, own] using induction

/-! ## The decision in terms of the lists -/

/-- The user administers the tenant of the bucket. -/
def AccessInput.adminsTenant (input : AccessInput) : Bool :=
  decide (tenantMemberRole input.userTenants input.bucketTenantID =
    some .admin)

/-- What a user may do without any grant of their own. -/
def AccessInput.ungranted (input : AccessInput) (write : Bool) : Bool :=
  input.byRole write || input.owns || input.adminsTenant ||
    match input.groupAccess with
    | some access => if write then access.canWrite else access.canRead
    | none =>
      decide (input.grants = [] ∧ input.prefixGrants = []) &&
        !input.tenantHasGroups &&
        match tenantMemberRole input.userTenants input.bucketTenantID with
        | some role => if write then role.canWrite else true
        | none => input.inTeam

theorem ne_nil_of_grantAllows
    (allows : grantAllows grants userID write = true) : grants ≠ [] := by
  rintro rfl
  cases allows

theorem ne_nil_of_userHasPrefixGrant {grants : List PrefixGrant}
    (has : userHasPrefixGrant grants userID = true) :
    grants ≠ [] := by
  rintro rfl
  cases has

theorem resolveTenantBucketAccess_eq (input : AccessInput) (write : Bool) :
    resolveTenantBucketAccess input write = (input.ungranted write ||
        grantAllows input.grants input.userID write ||
        (!write && userHasPrefixGrant input.prefixGrants input.userID)) := by
  unfold resolveTenantBucketAccess AccessInput.ungranted
    AccessInput.adminsTenant
  cases role : input.byRole write with
  | true => simp
  | false =>
  cases owner : input.owns with
  | true => simp
  | false =>
  by_cases admin : tenantMemberRole input.userTenants input.bucketTenantID =
      some .admin
  · simp [admin]
  cases granted : grantAllows input.grants input.userID write with
  | true => simp [ne_nil_of_grantAllows granted]
  | false =>
  cases has : userHasPrefixGrant input.prefixGrants input.userID with
  | true =>
    have nonempty := ne_nil_of_userHasPrefixGrant has
    cases write <;> cases input.groupAccess <;> simp [nonempty]
  | false =>
    cases input.groupAccess with
    | some access => simp [admin]
    | none =>
      cases input.tenantHasGroups with
      | true => simp [admin]
      | false =>
        generalize tenantMemberRole input.userTenants
          input.bucketTenantID = tenantRole at admin ⊢
        by_cases noGrants : input.grants = [] <;>
          by_cases noFolders : input.prefixGrants = [] <;>
            cases tenantRole <;> simp_all

/-- Without a flag none of the prefix grants of a user allows anything. -/
theorem prefixGrantAllows_of_not_has {grants : List PrefixGrant}
    (has : userHasPrefixGrant grants userID = false)
    (key : String) (write : Bool) :
    prefixGrantAllows grants userID key write = false := by
  rw [prefixGrantAllows_eq, firstAllows]
  cases first : (matchingGrants grants userID key).head? with
  | none => rfl
  | some grant =>
    obtain ⟨member, own, -⟩ :=
      mem_matchingGrants.mp (List.mem_of_head? first)
    have flags : (grant.canRead || grant.canWrite) = false := by
      rw [userHasPrefixGrant, List.any_eq_false] at has
      simpa [own] using has grant member
    cases write <;> simp_all [PrefixGrant.allows]

theorem resolveObjectKeyAccess_eq
    (input : AccessInput) (key : String) (write : Bool) :
    resolveObjectKeyAccess input key write =
      (grantAllows input.grants input.userID write ||
        if userHasPrefixGrant input.prefixGrants input.userID then
          prefixGrantAllows input.prefixGrants input.userID key write
        else input.ungranted write) := by
  unfold resolveObjectKeyAccess
  rw [resolveTenantBucketAccess_eq]
  cases granted : grantAllows input.grants input.userID write with
  | true => simp
  | false =>
  cases has : userHasPrefixGrant input.prefixGrants input.userID with
  | true => simp [ne_nil_of_userHasPrefixGrant has]
  | false =>
    simp [prefixGrantAllows_of_not_has has]

/-! ## The order of the grants -/

/-- An input with this user and these lists in it. -/
def AccessInput.holding (input : AccessInput) (userID : String)
    (grants : List BucketGrant) (prefixGrants : List PrefixGrant) :
    AccessInput :=
  { input with
    userID := userID
    grants := grants
    prefixGrants := prefixGrants }

theorem resolveTenantBucketAccess_holding
    (input : AccessInput) (userID : String) (grants : List BucketGrant)
    (prefixGrants : List PrefixGrant) (write : Bool) :
    resolveTenantBucketAccess (input.holding userID grants prefixGrants)
        write =
      ((input.holding userID grants prefixGrants).ungranted write ||
        grantAllows grants userID write ||
        (!write && userHasPrefixGrant prefixGrants userID)) :=
  resolveTenantBucketAccess_eq _ write

theorem resolveObjectKeyAccess_holding
    (input : AccessInput) (userID : String) (grants : List BucketGrant)
    (prefixGrants : List PrefixGrant) (key : String) (write : Bool) :
    resolveObjectKeyAccess (input.holding userID grants prefixGrants) key
        write =
      (grantAllows grants userID write ||
        if userHasPrefixGrant prefixGrants userID then
          prefixGrantAllows prefixGrants userID key write
        else (input.holding userID grants prefixGrants).ungranted write) :=
  resolveObjectKeyAccess_eq _ key write

/-- No decision about this user depends on the order of the two lists. -/
def OrderFree (userID : String) (grants : List BucketGrant)
    (prefixGrants : List PrefixGrant) : Prop :=
  ∀ (input : AccessInput) (grants' : List BucketGrant)
    (prefixGrants' : List PrefixGrant),
    grants'.Perm grants → prefixGrants'.Perm prefixGrants → ∀ key write,
        resolveTenantBucketAccess
            (input.holding userID grants' prefixGrants') write =
          resolveTenantBucketAccess
            (input.holding userID grants prefixGrants) write ∧
        resolveObjectKeyAccess
            (input.holding userID grants' prefixGrants') key write =
          resolveObjectKeyAccess
            (input.holding userID grants prefixGrants) key write

/--
The grants of a user agree: all of their levels permit writing or none does,
and where the prefix grants decide, those that match a key say the same of it.
-/
structure Steady (userID : String) (grants : List BucketGrant)
    (prefixGrants : List PrefixGrant) : Prop where
  levels : ∀ level ∈ userLevels grants userID,
    ∀ other ∈ userLevels grants userID, level.allows true = other.allows true
  folders : userHasPrefixGrant prefixGrants userID = true → ∀ write,
    (∃ level ∈ userLevels grants userID, level.allows write = true) ∨
      ∀ key, ∀ grant ∈ matchingGrants prefixGrants userID key,
        ∀ other ∈ matchingGrants prefixGrants userID key,
          grant.allows write = other.allows write

section FirstAllows

variable {Item : Type} {allows : Item → Bool → Bool} {write : Bool}
  {items others : List Item}

theorem firstAllows_cons (item : Item) :
    firstAllows allows (item :: items) write = allows item write :=
  rfl

section

variable
  (agree : ∀ item ∈ items, ∀ other ∈ items, allows item write = allows other write)

include agree

/-- Where the items agree, any of them decides. -/
theorem firstAllows_of_mem
    {item : Item} (member : item ∈ items) :
    firstAllows allows items write = allows item write := by
  cases items with
  | nil => cases member
  | cons first rest =>
    exact agree first (List.mem_cons_self ..) item member

theorem firstAllows_perm
    (permuted : others.Perm items) :
    firstAllows allows others write = firstAllows allows items write := by
  cases others with
  | nil => rw [List.nil_perm.mp permuted]
  | cons first rest =>
    rw [firstAllows_cons, firstAllows_of_mem agree
      (permuted.mem_iff.mp (List.mem_cons_self ..))]

end

theorem exists_of_firstAllows
    (permitted : firstAllows allows items write = true) :
    ∃ item ∈ items, allows item write = true := by
  cases items with
  | nil => cases permitted
  | cons first rest => exact ⟨first, List.mem_cons_self .., permitted⟩

end FirstAllows

theorem GrantLevel.allows_read (level : GrantLevel) :
    level.allows false = true := by
  cases level <;> rfl

theorem userLevels_perm {others : List BucketGrant}
    (permuted : others.Perm grants) (userID : String) :
    (userLevels others userID).Perm (userLevels grants userID) :=
  (permuted.filter _).filterMap _

theorem matchingGrants_perm {grants others : List PrefixGrant}
    (permuted : others.Perm grants) (userID key : String) :
    (matchingGrants others userID key).Perm
      (matchingGrants grants userID key) :=
  permuted.filter _

theorem userHasPrefixGrant_perm {grants others : List PrefixGrant}
    (permuted : others.Perm grants) (userID : String) :
    userHasPrefixGrant others userID = userHasPrefixGrant grants userID :=
  permuted.any_eq

theorem mem_userLevels
    {level : GrantLevel} :
    level ∈ userLevels grants userID ↔
      ∃ grant ∈ grants, grant.userID = userID ∧
        grant.effectiveLevel = some level := by
  simp [userLevels, and_assoc]

theorem ungranted_holding (input : AccessInput) (userID : String)
    {grants' : List BucketGrant} {prefixGrants' : List PrefixGrant}
    (sameGrants : grants' = [] ↔ grants = [])
    (sameFolders : prefixGrants' = [] ↔ prefixGrants = []) (write : Bool) :
    (input.holding userID grants' prefixGrants').ungranted write =
      (input.holding userID grants prefixGrants).ungranted write := by
  simp only [AccessInput.ungranted, AccessInput.holding, sameGrants,
    sameFolders]
  rfl

theorem eq_nil_of_perm {Item : Type} {items others : List Item}
    (permuted : others.Perm items) : others = [] ↔ items = [] := by
  rw [← List.length_eq_zero_iff, permuted.length_eq, List.length_eq_zero_iff]

/-- Grants that agree are taken in any order. -/
theorem orderFree_of_steady
    (steady : Steady userID grants prefixGrants) :
    OrderFree userID grants prefixGrants := by
  intro input grants' prefixGrants' permGrants permFolders key write
  have sameUngranted :=
    ungranted_holding input userID (eq_nil_of_perm permGrants)
      (eq_nil_of_perm permFolders) write
  have agree : ∀ level ∈ userLevels grants userID,
      ∀ other ∈ userLevels grants userID,
        level.allows write = other.allows write := by
    intro level member other otherMember
    cases write with
    | false => rw [level.allows_read, other.allows_read]
    | true => exact steady.levels level member other otherMember
  have sameGranted : grantAllows grants' userID write =
      grantAllows grants userID write := by
    rw [grantAllows_eq, grantAllows_eq]
    exact firstAllows_perm agree (userLevels_perm permGrants userID)
  have sameHas := userHasPrefixGrant_perm permFolders userID
  simp only [resolveTenantBucketAccess_holding,
    resolveObjectKeyAccess_holding, sameUngranted, sameGranted, sameHas,
    true_and]
  cases has : userHasPrefixGrant prefixGrants userID with
  | false => rfl
  | true =>
    rcases steady.folders has write with ⟨level, member, permits⟩ | same
    · have granted : grantAllows grants userID write = true := by
        rw [grantAllows_eq, firstAllows_of_mem agree member, permits]
      simp [granted]
    · rw [prefixGrantAllows_eq, prefixGrantAllows_eq,
        firstAllows_perm (same key)
          (matchingGrants_perm permFolders userID key)]

/-- A user who has nothing to do with the bucket. -/
def stranger : AccessInput where
  role := .user
  userID := ""
  username := ""
  teamIDs := []
  bucketOwnerID := ""
  bucketOwner := ""
  bucketTeamID := ""
  bucketTenantID := ""
  userTenants := []
  grants := []
  prefixGrants := []
  groupAccess := none
  tenantHasGroups := false
  bucketInTenantGroup := false
  operatorWriteAll := false

/-- The owner of the bucket. -/
def bucketOwner : AccessInput :=
  { stranger with username := "owner", bucketOwner := "owner" }

theorem ungranted_stranger (userID : String) (grants : List BucketGrant)
    (prefixGrants : List PrefixGrant) (write : Bool) :
    (stranger.holding userID grants prefixGrants).ungranted write =
      false := by
  cases write <;>
    simp [AccessInput.ungranted, AccessInput.holding, stranger,
      AccessInput.byRole, canWriteAllBuckets, Role.canSeeAllBuckets,
      AccessInput.owns, AccessInput.adminsTenant, tenantMemberRole,
      AccessInput.inTeam]

theorem owns_bucketOwner (userID : String) (grants : List BucketGrant)
    (prefixGrants : List PrefixGrant) :
    (bucketOwner.holding userID grants prefixGrants).owns = true := by
  simp [AccessInput.owns, AccessInput.holding, bucketOwner]

theorem ungranted_of_owns (owner : input.owns = true)
    (write : Bool) : input.ungranted write = true := by
  simp [AccessInput.ungranted, owner]

/-- Two levels of a user that disagree can both come first. -/
theorem levels_of_orderFree
    (free : OrderFree userID grants prefixGrants) :
    ∀ level ∈ userLevels grants userID, resolveTenantBucketAccess
          (stranger.holding userID grants prefixGrants) true =
        level.allows true := by
  intro level member
  obtain ⟨grant, present, own, found⟩ := mem_userLevels.mp member
  have moved := (free stranger (grant :: grants.erase grant) prefixGrants
    (List.perm_cons_erase present).symm (List.Perm.refl _) "" true).1
  rw [← moved, resolveTenantBucketAccess_holding, ungranted_stranger]
  have first : userLevels (grant :: grants.erase grant) userID =
      level :: userLevels (grants.erase grant) userID := by
    simp [userLevels, own, found]
  simp [grantAllows_eq, first, firstAllows_cons]

/-- The prefix grants that match a key can each come first. -/
theorem folders_of_orderFree
    (free : OrderFree userID grants prefixGrants)
    (has : userHasPrefixGrant prefixGrants userID = true)
    (ungranted : grantAllows grants userID write = false) (key : String) :
    ∀ grant ∈ matchingGrants prefixGrants userID key, resolveObjectKeyAccess
          (stranger.holding userID grants prefixGrants) key write =
        grant.allows write := by
  intro grant member
  obtain ⟨present, own, found⟩ := mem_matchingGrants.mp member
  have permuted := (List.perm_cons_erase present).symm
  have moved := (free stranger grants (grant :: prefixGrants.erase grant)
    (List.Perm.refl _) permuted key write).2
  have first : matchingGrants (grant :: prefixGrants.erase grant) userID
      key = grant :: matchingGrants (prefixGrants.erase grant) userID key := by
    simp [matchingGrants, own, found]
  rw [← moved, resolveObjectKeyAccess_holding]
  simp [ungranted, userHasPrefixGrant_perm permuted, has,
     prefixGrantAllows_eq, first, firstAllows_cons]

theorem orderFree_iff (userID : String) (grants : List BucketGrant)
    (prefixGrants : List PrefixGrant) :
    OrderFree userID grants prefixGrants ↔
      Steady userID grants prefixGrants := by
  refine ⟨fun free => ⟨?_, ?_⟩, orderFree_of_steady⟩
  · intro level member other otherMember
    rw [← levels_of_orderFree free level member,
      ← levels_of_orderFree free other otherMember]
  · intro has write
    cases granted : grantAllows grants userID write with
    | true =>
      rw [grantAllows_eq] at granted
      exact .inl (exists_of_firstAllows granted)
    | false =>
      refine .inr fun key grant member other otherMember => ?_
      rw [← folders_of_orderFree free has granted key grant member,
        ← folders_of_orderFree free has granted key other otherMember]

/-! ## One more grant for the bucket -/

/-- The access to an object as a proposition. -/
def AccessInput.Permits (input : AccessInput) (key : String)
    (write : Bool) : Prop :=
  resolveObjectKeyAccess input key write = true

/-- A grant that is put between others takes nothing from the user. -/
def GrantAdds (userID : String) (before after : List BucketGrant)
    (grant : BucketGrant) : Prop :=
  before ++ after ≠ [] →
    ∀ (input : AccessInput) (prefixGrants : List PrefixGrant) key write,
      (input.holding userID (before ++ after) prefixGrants).Permits key
          write →
        (input.holding userID (before ++ grant :: after)
          prefixGrants).Permits key write

/-- A grant for reading comes in front of one for writing. -/
def HidesLevel (userID : String) (before after : List BucketGrant)
    (grant : BucketGrant) : Prop :=
  grant.userID = userID ∧ grant.effectiveLevel = some .read ∧
    userLevels before userID = [] ∧
    grantAllows after userID true = true

theorem userLevels_append (userID : String) (before after : List BucketGrant) :
    userLevels (before ++ after) userID =
      userLevels before userID ++ userLevels after userID := by
  simp [userLevels]

/-- Only a hidden level is lost. -/
theorem grantAllows_insert
    {before after : List BucketGrant} {grant : BucketGrant}
    (open' : ¬ HidesLevel userID before after grant)
    (granted : grantAllows (before ++ after) userID write = true) :
    grantAllows (before ++ grant :: after) userID write = true := by
  rw [grantAllows_eq, userLevels_append] at granted ⊢
  cases levels : userLevels before userID with
  | cons first rest =>
    rw [levels] at granted
    exact granted
  | nil =>
    rw [levels] at granted
    rw [List.nil_append]
    by_cases own : grant.userID = userID
    · cases found : grant.effectiveLevel with
      | none => simpa [userLevels, own, found] using granted
      | some level =>
        have first : userLevels (grant :: after) userID =
            level :: userLevels after userID := by
          simp [userLevels, own, found]
        rw [first]
        cases write with
        | false => exact level.allows_read
        | true =>
          cases level with
          | read =>
            refine absurd ⟨own, found, levels, ?_⟩ open'
            rwa [grantAllows_eq]
          | write => rfl
          | admin => rfl
    · simpa [userLevels, own] using granted

theorem grantAdds_iff (userID : String) (before after : List BucketGrant)
    (grant : BucketGrant) :
    GrantAdds userID before after grant ↔
      ¬ HidesLevel userID before after grant := by
  constructor
  · rintro adds ⟨own, found, none, writes⟩
    have nonempty : before ++ after ≠ [] :=
      List.append_ne_nil_of_right_ne_nil _ (ne_nil_of_grantAllows writes)
    have permitted := adds nonempty stranger [] "" true
    simp only [AccessInput.Permits, resolveObjectKeyAccess_holding,
      ungranted_stranger] at permitted
    rw [grantAllows_eq] at writes
    have hidden : userLevels (before ++ grant :: after) userID =
        .read :: userLevels after userID := by
      rw [userLevels_append, none]
      simp [userLevels, own, found]
    simp [grantAllows_eq, hidden, firstAllows_cons, userLevels_append, none,
      writes, userHasPrefixGrant, GrantLevel.allows] at permitted
  · intro open' nonempty input prefixGrants key write permitted
    rw [AccessInput.Permits, resolveObjectKeyAccess_holding] at permitted ⊢
    have same := ungranted_holding input userID
      (show before ++ grant :: after = [] ↔ before ++ after = [] by
        simp [nonempty])
      (Iff.rfl : prefixGrants = [] ↔ prefixGrants = []) write
    rw [same]
    rw [Bool.or_eq_true] at permitted ⊢
    exact permitted.imp_left (grantAllows_insert open')

/-! ## One more prefix grant -/

/-- A prefix grant that is put between others takes nothing from the user. -/
def PrefixGrantAdds (userID : String) (before after : List PrefixGrant)
    (grant : PrefixGrant) : Prop :=
  before ++ after ≠ [] →
    ∀ (input : AccessInput) (grants : List BucketGrant) key write,
      (input.holding userID grants (before ++ after)).Permits key write →
        (input.holding userID grants (before ++ grant :: after)).Permits key
          write

/--
The new grant is the first one of the user with a flag, and from then on some
key is not theirs to write.
-/
def Confines (userID : String) (before after : List PrefixGrant)
    (grant : PrefixGrant) : Prop :=
  userHasPrefixGrant (before ++ after) userID = false ∧
    (grant.canRead || grant.canWrite) = true ∧
    ∃ key,
      prefixGrantAllows (before ++ grant :: after) userID key true = false

/-- The new grant comes in front of one that permits more for some key. -/
def HidesFolder (userID : String) (before after : List PrefixGrant)
    (grant : PrefixGrant) : Prop :=
  ∃ key write, objectKeyMatchesPrefix key grant.folder = true ∧
      grant.allows write = false ∧
      matchingGrants before userID key = [] ∧
      prefixGrantAllows after userID key write = true

section PrefixGrants

variable {userID : String} {before after : List PrefixGrant}
  {grant : PrefixGrant} {key : String} {write : Bool}

theorem matchingGrants_append :
    matchingGrants (before ++ after) userID key =
      matchingGrants before userID key ++
        matchingGrants after userID key := by
  simp [matchingGrants]

theorem userHasPrefixGrant_insert (own : grant.userID = userID) :
    userHasPrefixGrant (before ++ grant :: after) userID =
      (userHasPrefixGrant (before ++ after) userID ||
        (grant.canRead || grant.canWrite)) := by
  simp only [userHasPrefixGrant, List.any_append, List.any_cons, own]
  cases before.any (fun grant => decide (grant.userID = userID) &&
    (grant.canRead || grant.canWrite)) <;> simp [Bool.or_comm]

theorem foreign_userHasPrefixGrant (foreign : grant.userID ≠ userID) :
    userHasPrefixGrant (before ++ grant :: after) userID =
      userHasPrefixGrant (before ++ after) userID := by
  simp [userHasPrefixGrant, foreign]

theorem foreign_prefixGrantAllows (foreign : grant.userID ≠ userID) :
    prefixGrantAllows (before ++ grant :: after) userID key write =
      prefixGrantAllows (before ++ after) userID key write := by
  simp [prefixGrantAllows_eq, matchingGrants, foreign]

theorem PrefixGrant.allows_of_write
    (writes : grant.allows true = true) : grant.allows write = true := by
  have flag : grant.canWrite = true := writes
  cases write <;> simp [PrefixGrant.allows, flag]

theorem prefixGrantAllows_of_write {grants : List PrefixGrant}
    (writes : prefixGrantAllows grants userID key true = true) :
    prefixGrantAllows grants userID key write = true := by
  rw [prefixGrantAllows_eq] at writes ⊢
  cases found : matchingGrants grants userID key with
  | nil =>
    rw [found] at writes
    cases writes
  | cons first rest =>
    rw [found] at writes
    exact PrefixGrant.allows_of_write writes

/-- Only what is hidden is lost. -/
theorem prefixGrantAllows_insert
    (own : grant.userID = userID)
    (visible : ¬ HidesFolder userID before after grant)
    (granted : prefixGrantAllows (before ++ after) userID key write = true) :
    prefixGrantAllows (before ++ grant :: after) userID key write =
      true := by
  rw [prefixGrantAllows_eq, matchingGrants_append] at granted ⊢
  cases found : matchingGrants before userID key with
  | cons first rest =>
    rw [found] at granted
    exact granted
  | nil =>
    rw [found] at granted
    rw [List.nil_append]
    cases covers : objectKeyMatchesPrefix key grant.folder with
    | false => simpa [matchingGrants, covers] using granted
    | true =>
      have first : matchingGrants (grant :: after) userID key =
          grant :: matchingGrants after userID key := by
        simp [matchingGrants, own, covers]
      rw [first, firstAllows_cons]
      by_contra refuses
      refine visible ⟨key, write, covers, by simpa using refuses, found, ?_⟩
      rwa [prefixGrantAllows_eq]

theorem permits_prefixGrants :
    (input.holding userID grants prefixGrants).Permits key write ↔
      grantAllows grants userID write = true ∨
        (if userHasPrefixGrant prefixGrants userID then
          prefixGrantAllows prefixGrants userID key write
        else (input.holding userID grants prefixGrants).ungranted write) =
          true := by
  rw [AccessInput.Permits, resolveObjectKeyAccess_holding, Bool.or_eq_true]

section

variable (adds : PrefixGrantAdds userID before after grant)
  (nonempty : before ++ after ≠ []) (own : grant.userID = userID)

include adds nonempty own

omit adds own in
/-- A list that has a grant already is not changed into one that has some. -/
theorem ungranted_insert
    (input : AccessInput) (grants : List BucketGrant) :
    (input.holding userID grants (before ++ grant :: after)).ungranted
        write =
      (input.holding userID grants (before ++ after)).ungranted write :=
  ungranted_holding input userID Iff.rfl (by simp [nonempty]) write

theorem PrefixGrantAdds.not_confines :
    ¬ Confines userID before after grant := by
  rintro ⟨none, flagged, key, refused⟩
  have owner := adds nonempty bucketOwner [] key true
  rw [permits_prefixGrants, permits_prefixGrants,
    ungranted_of_owns (owns_bucketOwner ..), userHasPrefixGrant_insert own,
    none, flagged, refused] at owner
  simp [grantAllows] at owner

theorem PrefixGrantAdds.not_hidesFolder :
    ¬ HidesFolder userID before after grant := by
  rintro ⟨key, write, covers, refuses, none, allowed⟩
  have visible : prefixGrantAllows (before ++ after) userID key write =
      true := by
    rwa [prefixGrantAllows_eq, matchingGrants_append, none,
      List.nil_append, ← prefixGrantAllows_eq]
  have hidden : prefixGrantAllows (before ++ grant :: after) userID key
      write = false := by
    rw [prefixGrantAllows_eq, matchingGrants_append, none]
    simp [matchingGrants, own, covers, firstAllows, refuses]
  have has : userHasPrefixGrant (before ++ after) userID = true := by
    by_contra without
    rw [prefixGrantAllows_of_not_has (by simpa using without)] at visible
    cases visible
  have lost := adds nonempty stranger [] key write
  rw [permits_prefixGrants, permits_prefixGrants,
    userHasPrefixGrant_insert own, has, visible, hidden] at lost
  simp [grantAllows] at lost

omit adds nonempty in
theorem prefixGrantAdds_of_own
    (free : ¬ Confines userID before after grant)
    (visible : ¬ HidesFolder userID before after grant) :
    PrefixGrantAdds userID before after grant := by
  intro nonempty input grants key write permitted
  rw [permits_prefixGrants] at permitted ⊢
  refine permitted.imp_right fun decided => ?_
  rw [userHasPrefixGrant_insert own, ungranted_insert nonempty]
  cases has : userHasPrefixGrant (before ++ after) userID with
  | true =>
    rw [has] at decided
    exact prefixGrantAllows_insert own visible decided
  | false =>
    rw [has] at decided
    cases flagged : (grant.canRead || grant.canWrite) with
    | false => exact decided
    | true =>
      have writes : prefixGrantAllows (before ++ grant :: after)
          userID key true = true := by
        by_contra refused
        exact free ⟨has, flagged, key, by simpa using refused⟩
      exact prefixGrantAllows_of_write writes

end

theorem prefixGrantAdds_of_foreign (foreign : grant.userID ≠ userID) :
    PrefixGrantAdds userID before after grant := by
  intro nonempty input grants key write permitted
  rw [permits_prefixGrants] at permitted ⊢
  rwa [foreign_userHasPrefixGrant foreign, foreign_prefixGrantAllows foreign,
    ungranted_insert nonempty]

end PrefixGrants

theorem prefixGrantAdds_iff (userID : String)
    (before after : List PrefixGrant) (grant : PrefixGrant) :
    PrefixGrantAdds userID before after grant ↔
      before ++ after = [] ∨ grant.userID ≠ userID ∨
        ¬ Confines userID before after grant ∧
          ¬ HidesFolder userID before after grant := by
  constructor
  · intro adds
    by_cases empty : before ++ after = []
    · exact .inl empty
    by_cases own : grant.userID = userID
    · exact .inr (.inr ⟨adds.not_confines empty own,
        adds.not_hidesFolder empty own⟩)
    · exact .inr (.inl own)
  · rintro (empty | foreign | ⟨free, visible⟩)
    · exact fun nonempty => absurd empty nonempty
    · exact prefixGrantAdds_of_foreign foreign
    · by_cases own : grant.userID = userID
      · exact prefixGrantAdds_of_own own free visible
      · exact prefixGrantAdds_of_foreign own

/-! ## Users who may do everything -/

/-- Those who need no grant. -/
def AccessInput.Mighty (input : AccessInput) : Prop :=
  canWriteAllBuckets input.operatorWriteAll input.role = true ∨
    input.owns = true ∨ input.adminsTenant = true

/-- Those who need no grant may read and write every key. -/
def MightyPermitted (userID : String) (grants : List BucketGrant)
    (prefixGrants : List PrefixGrant) : Prop :=
  ∀ input : AccessInput, (input.holding userID grants prefixGrants).Mighty →
      ∀ key write,
        (input.holding userID grants prefixGrants).Permits key write

theorem ungranted_of_mighty (mighty : input.Mighty)
    (write : Bool) : input.ungranted write = true := by
  rcases mighty with role | owner | admin
  · have byRole : input.byRole write = true := by
      cases write with
      | true => exact role
      | false =>
        simp only [canWriteAllBuckets, Bool.or_eq_true, Bool.and_eq_true,
          decide_eq_true_eq] at role
        simp only [AccessInput.byRole, Role.canSeeAllBuckets,
          Bool.false_eq_true, if_false, decide_eq_true_eq]
        exact role.imp_right And.left
    simp [AccessInput.ungranted, byRole]
  · exact ungranted_of_owns owner write
  · simp [AccessInput.ungranted, admin]

theorem mightyPermitted_iff (userID : String) (grants : List BucketGrant)
    (prefixGrants : List PrefixGrant) :
    MightyPermitted userID grants prefixGrants ↔
      (userHasPrefixGrant prefixGrants userID = true → ∀ key write,
        grantAllows grants userID write = true ∨
          prefixGrantAllows prefixGrants userID key write = true) := by
  constructor
  · intro permitted has key write
    have owner := permitted bucketOwner
      (.inr (.inl (owns_bucketOwner userID grants prefixGrants))) key write
    rw [AccessInput.Permits, resolveObjectKeyAccess_holding, if_pos has,
      Bool.or_eq_true] at owner
    exact owner
  · intro covered input mighty key write
    rw [AccessInput.Permits, resolveObjectKeyAccess_holding, Bool.or_eq_true]
    split_ifs with has
    · exact covered has key write
    · exact .inr (ungranted_of_mighty mighty write)

/-! ## The laws together -/

/--
Each of the laws of a union holds for a user and two lists exactly under its
condition: the order of the lists is free, another grant for the bucket or for
a folder takes nothing away, and those who need no grant are permitted
everything.
-/
theorem grants_form_union_iff (userID : String)
    (before after : List BucketGrant)
    (foldersBefore foldersAfter : List PrefixGrant) :
    (OrderFree userID (before ++ after) (foldersBefore ++ foldersAfter) ↔
        Steady userID (before ++ after) (foldersBefore ++ foldersAfter)) ∧
      (∀ grant, GrantAdds userID before after grant ↔
        ¬ HidesLevel userID before after grant) ∧
      (∀ grant, PrefixGrantAdds userID foldersBefore foldersAfter grant ↔
        foldersBefore ++ foldersAfter = [] ∨ grant.userID ≠ userID ∨
          ¬ Confines userID foldersBefore foldersAfter grant ∧
            ¬ HidesFolder userID foldersBefore foldersAfter grant) ∧
      (MightyPermitted userID (before ++ after)
          (foldersBefore ++ foldersAfter) ↔
        (userHasPrefixGrant (foldersBefore ++ foldersAfter) userID = true →
          ∀ key write, grantAllows (before ++ after) userID write = true ∨
              prefixGrantAllows (foldersBefore ++ foldersAfter) userID key
                write = true)) :=
  ⟨orderFree_iff userID _ _, grantAdds_iff userID before after,
    prefixGrantAdds_iff userID foldersBefore foldersAfter,
    mightyPermitted_iff userID _ _⟩

/-- A grant of one user, at a level. -/
def levelGrant (level : GrantLevel) : BucketGrant :=
  ⟨"u", true, false, some level⟩

/-- A prefix grant of one user for reading the docs. -/
def docsGrant : PrefixGrant :=
  ⟨"u", "docs", true, false⟩

/--
Reading in front of writing refuses the write that the other order permits,
and the owner of a bucket who is granted the docs may not read a picture.
-/
theorem grants_not_a_union :
    resolveTenantBucketAccess
        (stranger.holding "u" [levelGrant .write, levelGrant .read] [])
        true = true ∧
      resolveTenantBucketAccess
        (stranger.holding "u" [levelGrant .read, levelGrant .write] [])
        true = false ∧
      (bucketOwner.holding "u" [] [docsGrant]).owns = true ∧
      resolveObjectKeyAccess
        (bucketOwner.holding "u" [] [docsGrant]) "cat.png" false = false ∧
      resolveObjectKeyAccess
        (bucketOwner.holding "u" [] [⟨"v", "docs", true, false⟩])
        "cat.png" false = true ∧
      resolveObjectKeyAccess (bucketOwner.holding "u" []
          [⟨"v", "docs", true, false⟩, docsGrant])
        "cat.png" false = false := by
  decide +kernel

end DataSafe.S3
