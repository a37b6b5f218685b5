import DataSafe.Storage.FSBackend

/-!
# Where the paths of a key lie

The backend joins a key to the directory of the objects or of the uploads of
its bucket and cleans the result, so a key with `..` components may lead out
of this directory.  `cleanKey` cleans the key alone: how many directories it
climbs, and which names follow.  From this one reads off where each path that
the backend uses for the key lies, below whatever base directory.
-/

namespace DataSafe.Storage

open Metadata

/-! ## Absolute paths -/

/-- `filepath.Join` of a cleaned absolute directory and relative parts. -/
def locate (base : Path) (parts : List String) : Path :=
  (parts.flatMap splitPath).foldl cleanStep base

/-- The directory of the objects, or of the uploads, of a bucket. -/
def rootOf (base : Path) (bucket name : String) : Path :=
  base ++ ["buckets", bucket, name]

/-- The path of a key below the objects or the uploads of its bucket. -/
def keyAt (base : Path) (bucket name key : String) : Path :=
  locate base ["buckets", bucket, name, keyToPath key]

/-- Strictly inside the objects or the uploads of a bucket. -/
def Inside (base : Path) (bucket : String) (path : Path) : Prop :=
  ∃ name ∈ ["objects", "multipart"],
    rootOf base bucket name <+: path ∧ path ≠ rootOf base bucket name

/-- In the objects or the uploads of a bucket, or one of these directories. -/
def AtOrInside (base : Path) (bucket : String) (path : Path) : Prop :=
  ∃ name ∈ ["objects", "multipart"], rootOf base bucket name <+: path

variable {base path : Path} {bucket name key : String} {state : Nat × Path}

theorem AtOrInside.below
    (inside : AtOrInside base bucket path) (name : String) (rest : Path) :
    Inside base bucket (path ++ name :: rest) := by
  obtain ⟨root, member, above⟩ := inside
  refine ⟨root, member, above.trans (List.prefix_append _ _), ?_⟩
  intro same
  have short := above.length_le
  have lengths := congrArg List.length same
  simp only [List.length_append, List.length_cons] at lengths
  omega

theorem Inside.atOrInside
    (inside : Inside base bucket path) : AtOrInside base bucket path := by
  obtain ⟨root, member, above, _⟩ := inside
  exact ⟨root, member, above⟩

/-- A temporary sibling lies in the same directory. -/
theorem Inside.tempSibling
    (inside : Inside base bucket path) (random : String) :
    Inside base bucket (tempSibling path random) := by
  obtain ⟨root, member, ⟨rest, rfl⟩, proper⟩ := inside
  have nonempty : rest ≠ [] := by
    rintro rfl
    exact proper (List.append_nil _)
  unfold Storage.tempSibling
  rw [List.dropLast_append_of_ne_nil nonempty, List.append_assoc]
  refine ⟨root, member, List.prefix_append _ _, ?_⟩
  intro same
  have lengths := congrArg List.length same
  simp only [List.length_append, List.length_singleton] at lengths
  omega

/-! ## Cleaning a key -/

/-- Follow one component of a relative path. -/
def climbStep (state : Nat × Path) (name : String) : Nat × Path :=
  if name = "" ∨ name = "." then state
  else if name = ".." then
    if state.2 = [] then (state.1 + 1, []) else (state.1, state.2.dropLast)
  else (state.1, state.2 ++ [name])

/-- How far a key climbs, and the names that follow. -/
def cleanKey (key : String) : Nat × Path :=
  (splitPath (keyToPath key)).foldl climbStep (0, [])

/-- The directory that is left after some climbing, and names below it. -/
def placeFrom (start : Path) (state : Nat × Path) : Path :=
  start.take (start.length - state.1) ++ state.2

theorem cleanStep_placeFrom
    (start : Path) (state : Nat × Path) (name : String) :
    cleanStep (placeFrom start state) name =
      placeFrom start (climbStep state name) := by
  obtain ⟨ups, names⟩ := state
  unfold cleanStep climbStep placeFrom
  split_ifs with skipped upwards empty
  · rfl
  · subst empty
    simp only [List.append_nil, List.dropLast_eq_take, List.length_take,
      List.take_take]
    congr 1
    omega
  · exact List.dropLast_append_of_ne_nil empty
  · exact List.append_assoc _ _ _

theorem foldl_cleanStep_placeFrom
    (start : Path) (names : List String) (state : Nat × Path) :
    names.foldl cleanStep (placeFrom start state) =
      placeFrom start (names.foldl climbStep state) := by
  induction names generalizing state with
  | nil => rfl
  | cons name names induction =>
    rw [List.foldl_cons, List.foldl_cons, cleanStep_placeFrom, induction]

/-- The path of a key, by what cleaning the key alone leaves. -/
theorem keyAt_eq
    (base : Path) (bucketPlain : PlainName bucket)
    (namePlain : PlainName name) (key : String) :
    keyAt base bucket name key =
      placeFrom (rootOf base bucket name) (cleanKey key) := by
  have buckets : PlainName "buckets" := by decide
  have start : placeFrom (rootOf base bucket name) (0, []) =
      rootOf base bucket name := by
    simp [placeFrom]
  rw [cleanKey, ← foldl_cleanStep_placeFrom, start]
  simp [keyAt, locate, splitPath_of_plainName, cleanStep_of_plainName,
    buckets, bucketPlain, namePlain, rootOf]

theorem foldl_climbStep
    {names : List String} (level : ".." ∉ names) (path : Path) :
    names.foldl climbStep (0, path) =
      (0, path ++ names.filter (fun name => name ≠ "" ∧ name ≠ ".")) := by
  induction names generalizing path with
  | nil => simp
  | cons name names induction =>
    rw [List.mem_cons, not_or] at level
    have step : climbStep (0, path) name =
        (0, path ++ [name].filter (fun name => name ≠ "" ∧ name ≠ ".")) := by
      unfold climbStep
      rw [if_neg (Ne.symm level.1)]
      split_ifs with skipped
      · rcases skipped with rfl | rfl <;> simp
      · rw [not_or] at skipped
        simp [skipped]
    rw [List.foldl_cons, step, induction level.2, List.append_assoc,
      ← List.filter_append, List.singleton_append]

/-- A valid key does not climb. -/
theorem cleanKey_of_valid
    (valid : validateObjectKey key = .ok ()) :
    cleanKey key = (0, keyPath key) := by
  obtain ⟨same, level⟩ := validateObjectKey_ok valid
  rw [cleanKey, same, foldl_climbStep level, List.nil_append, keyPath]

/-! ## Keys that stay in their bucket -/

/-- The key stays below its directory, or moves on to the other one. -/
def StaysBelow (key : String) : Prop :=
  (cleanKey key).1 = 0 ∨ ((cleanKey key).1 = 1 ∧
      ∃ name ∈ ["objects", "multipart"], [name] <+: (cleanKey key).2)

/-- The key stays below its directory and names something in it. -/
def Stays (key : String) : Prop :=
  ((cleanKey key).1 = 0 ∧ (cleanKey key).2 ≠ []) ∨
    ((cleanKey key).1 = 1 ∧ ∃ name ∈ ["objects", "multipart"],
      [name] <+: (cleanKey key).2 ∧ (cleanKey key).2 ≠ [name])

theorem Stays.below (stays : Stays key) : StaysBelow key := by
  rcases stays with ⟨level, _⟩ | ⟨one, name, member, starts, _⟩
  · exact .inl level
  · exact .inr ⟨one, name, member, starts⟩

/-- Without climbing the path of a key continues its directory. -/
theorem placeFrom_level
    (start : Path) (level : state.1 = 0) :
    placeFrom start state = start ++ state.2 := by
  simp [placeFrom, level]

/-- One directory up is that of the bucket. -/
theorem placeFrom_one
    (base : Path) (bucket name : String) (one : state.1 = 1) :
    placeFrom (rootOf base bucket name) state =
      base ++ ["buckets", bucket] ++ state.2 := by
  have split : rootOf base bucket name =
      (base ++ ["buckets", bucket]) ++ [name] := by
    simp [rootOf]
  rw [placeFrom, one, split, List.length_append, List.length_singleton,
    Nat.add_sub_cancel, List.take_left]

theorem plainName_of_root
    (member : name ∈ ["objects", "multipart"]) :
    PlainName name := by
  rcases List.mem_cons.mp member with rfl | rest
  · decide
  · rw [List.mem_singleton.mp rest]
    decide

theorem StaysBelow.keyAt
    (stays : StaysBelow key) (base : Path) (plain : PlainName bucket)
    (member : name ∈ ["objects", "multipart"]) :
    AtOrInside base bucket (keyAt base bucket name key) := by
  rw [keyAt_eq base plain (plainName_of_root member)]
  rcases stays with level | ⟨one, root, other, starts⟩
  · rw [placeFrom_level _ level]
    exact ⟨name, member, List.prefix_append _ _⟩
  · rw [placeFrom_one _ _ _ one]
    obtain ⟨rest, names⟩ := starts
    exact ⟨root, other, rest, by simp [rootOf, ← names]⟩

theorem Stays.keyAt
    (stays : Stays key) (base : Path) (plain : PlainName bucket)
    (member : name ∈ ["objects", "multipart"]) :
    Inside base bucket (keyAt base bucket name key) := by
  rw [keyAt_eq base plain (plainName_of_root member)]
  rcases stays with ⟨level, some⟩ | ⟨one, root, other, starts, proper⟩
  · rw [placeFrom_level _ level]
    refine ⟨name, member, List.prefix_append _ _, ?_⟩
    intro same
    exact some (List.append_right_eq_self.mp same)
  · rw [placeFrom_one _ _ _ one]
    obtain ⟨rest, names⟩ := starts
    refine ⟨root, other, ⟨rest, by simp [rootOf, ← names]⟩, ?_⟩
    intro same
    apply proper
    have split : rootOf base bucket root =
        (base ++ ["buckets", bucket]) ++ [root] := by
      simp [rootOf]
    rw [split] at same
    exact List.append_cancel_left same

/-! ## Keys that leave some bucket -/

/-- The bucket of a path in it. -/
theorem bucket_of_inside
    (inside : AtOrInside [] bucket path) :
    path.tail.head? = some bucket := by
  obtain ⟨name, _, rest, rfl⟩ := inside
  rfl

/-- Climbing twice leads to a place that does not depend on the bucket. -/
theorem placeFrom_twice
    {left right : String} (twice : 2 ≤ state.1) :
    placeFrom (rootOf [] left name) state =
      placeFrom (rootOf [] right name) state := by
  obtain ⟨ups, names⟩ := state
  unfold placeFrom rootOf
  obtain ⟨rest, rfl⟩ := Nat.exists_eq_add_of_le twice
  rcases rest with _ | rest
  · rfl
  · have zero : 3 - (2 + (rest + 1)) = 0 := by omega
    simp only [List.nil_append, List.length_cons, List.length_nil]
    rw [zero]
    rfl

/-- A path that lies in its bucket, whichever this is, climbs once at most. -/
theorem climbs_once
    (plain : PlainName name)
    (inside : ∀ bucket, PlainName bucket →
      AtOrInside [] bucket (keyAt [] bucket name key)) :
    (cleanKey key).1 = 0 ∨ (cleanKey key).1 = 1 := by
  by_contra more
  have twice : 2 ≤ (cleanKey key).1 := by omega
  have first := bucket_of_inside (inside "a" (by decide))
  have second := bucket_of_inside (inside "b" (by decide))
  have same : placeFrom (rootOf [] "a" name) (cleanKey key) =
      placeFrom (rootOf [] "b" name) (cleanKey key) := placeFrom_twice twice
  rw [keyAt_eq _ (by decide) plain, same] at first
  rw [keyAt_eq _ (by decide) plain] at second
  exact absurd (Option.some.inj (first.symm.trans second)) (by decide)

/-- A key whose directories lie in every bucket stays there. -/
theorem staysBelow_of_atOrInside
    (member : name ∈ ["objects", "multipart"])
    (inside : ∀ bucket, PlainName bucket →
      AtOrInside [] bucket (keyAt [] bucket name key)) :
    StaysBelow key := by
  have plain := plainName_of_root member
  rcases climbs_once plain inside with level | one
  · exact .inl level
  · obtain ⟨root, other, above⟩ := inside "b" (by decide)
    rw [keyAt_eq _ (by decide) plain, placeFrom_one _ _ _ one] at above
    refine .inr ⟨one, root, other, ?_⟩
    exact (List.prefix_append_right_inj ["buckets", "b"]).mp above

/-- A key whose paths lie in every bucket stays there. -/
theorem stays_of_inside
    (member : name ∈ ["objects", "multipart"])
    (inside : ∀ bucket, PlainName bucket →
      Inside [] bucket (keyAt [] bucket name key)) :
    Stays key := by
  have plain := plainName_of_root member
  obtain ⟨root, other, above, proper⟩ := inside "b" (by decide)
  rw [keyAt_eq _ (by decide) plain] at above proper
  rcases climbs_once plain (fun bucket bucketPlain =>
    (inside bucket bucketPlain).atOrInside) with level | one
  · refine .inl ⟨level, fun none => ?_⟩
    rw [placeFrom_level _ level, none, List.append_nil] at above proper
    -- The directory itself is inside neither of the two.
    have same : root = name := by
      have last := (List.prefix_append_right_inj ["buckets", "b"]).mp above
      simpa using last
    exact proper (by rw [same])
  · rw [placeFrom_one _ _ _ one] at above proper
    refine .inr ⟨one, root, other,
      (List.prefix_append_right_inj ["buckets", "b"]).mp above, ?_⟩
    intro alone
    apply proper
    rw [alone]
    rfl

end DataSafe.Storage
