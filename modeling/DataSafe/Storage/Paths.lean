import DataSafe.Metadata.Records

/-!
# Keys and paths

`ValidateObjectKey` decides which keys a request may name, and `keyToPath`
maps a key to a path below the directory of its bucket.  Paths are cleaned
as `filepath.Join` cleans them, so keys that differ in empty or dot
components name one path.  A version of an object lies below the path of its
key.
-/

namespace DataSafe.Storage

open Metadata

/-- A path below the base directory, cleaned. -/
abbrev Path := List String

/-! ## Cleaning -/

def splitPath (text : String) : List String :=
  (text.toList.splitOn '/').map String.ofList

/-- Follow one component of a path that is to be cleaned. -/
def cleanStep (path : Path) (name : String) : Path :=
  if name = "" ∨ name = "." then path
  else if name = ".." then path.dropLast
  else path ++ [name]

/-- `filepath.Join` below the base directory. -/
def join (parts : List String) : Path :=
  (parts.flatMap splitPath).foldl cleanStep []

variable {name key : String}

theorem splitPath_of_plainName
    (plain : PlainName name) :
    splitPath name = [name] := by
  have single : name.toList.splitOn '/' = [name.toList] := by
    apply List.splitOnP_eq_singleton
    intro rune member
    have other : rune ≠ '/' := fun slash =>
      plain.2.2.2 (slash ▸ member)
    simpa using other
  simp [splitPath, single]

theorem cleanStep_of_plainName
    (plain : PlainName name) (path : Path) :
    cleanStep path name = path ++ [name] := by
  obtain ⟨nonempty, notDot, notDots, _⟩ := plain
  simp [cleanStep, nonempty, notDot, notDots]

/-- Joining a plain name appends it. -/
theorem join_append_plainName
    (parts : List String) (plain : PlainName name) :
    join (parts ++ [name]) = join parts ++ [name] := by
  simp [join, splitPath_of_plainName plain, cleanStep_of_plainName plain]

/-! ## Object paths -/

def keyToPath (key : String) : String :=
  let key :=
    if key.toList.head? = some '/' then String.ofList key.toList.tail
    else key
  if key = "" then "_empty" else key

def objectPath (bucket key : String) : Path :=
  join ["buckets", bucket, "objects", keyToPath key]

def versionPath (bucket key versionID : String) : Path :=
  join ["buckets", bucket, "objects", keyToPath key, "versions", versionID]

def multipartDir (bucket key uploadID : String) : Path :=
  join ["buckets", bucket, "multipart", keyToPath key, uploadID]

/--
The same steps below two directories lead below both in the same way, or out
of them to one place.
-/
theorem foldl_cleanStep_fork
    (names : List String) (base rest : Path) (left right : String) :
    (∃ below, names.foldl cleanStep (base ++ left :: rest) =
          base ++ left :: below ∧
        names.foldl cleanStep (base ++ right :: rest) =
          base ++ right :: below) ∨
      names.foldl cleanStep (base ++ left :: rest) =
        names.foldl cleanStep (base ++ right :: rest) := by
  induction names generalizing rest with
  | nil => exact .inl ⟨rest, rfl, rfl⟩
  | cons name names induction =>
    simp only [List.foldl_cons]
    unfold cleanStep
    split_ifs
    · exact induction rest
    · rcases List.eq_nil_or_concat rest with rfl | ⟨front, last, rfl⟩
      · right
        simp
      · have dropped : ∀ first : String,
            (base ++ first :: (front ++ [last])).dropLast =
              base ++ first :: front := by
          intro first
          rw [← List.cons_append, ← List.append_assoc, List.dropLast_concat]
        rw [List.concat_eq_append, dropped, dropped]
        exact induction front
    · simp only [List.append_assoc]
      exact induction (rest ++ [name])

/-- The file of a version, or of an object without versions. -/
def dataPath (bucket key : String) (versionID : VersionID) : Path :=
  if versionID.text = "" then objectPath bucket key
  else versionPath bucket key versionID.text

/-- A version lies two levels below the path of its key. -/
theorem versionPath_eq
    (bucket key : String) {versionID : String} (plain : PlainName versionID) :
    versionPath bucket key versionID =
      objectPath bucket key ++ ["versions", versionID] := by
  have below := join_append_plainName
    ["buckets", bucket, "objects", keyToPath key, "versions"] plain
  have versions := join_append_plainName
    ["buckets", bucket, "objects", keyToPath key]
    (show PlainName "versions" by decide)
  simp only [List.cons_append, List.nil_append] at below versions
  rw [versionPath, below, versions, objectPath]
  simp

/-- Whatever its version, an object lies at or below the path of its key. -/
theorem objectPath_prefix_dataPath
    (bucket key : String) (versionID : VersionID) :
    objectPath bucket key <+: dataPath bucket key versionID := by
  unfold dataPath
  split_ifs with unnamed
  · exact List.prefix_refl _
  · rw [versionPath_eq _ _ (VersionID.plainName unnamed)]
    exact List.prefix_append _ _

/-- Different versions of a key lie at different paths. -/
theorem dataPath_injective
    {bucket : String} {left right : VersionID}
    (same : dataPath bucket key left = dataPath bucket key right) :
    left = right := by
  apply VersionID.eq_of_text
  unfold dataPath at same
  split_ifs at same with leftNull rightNull rightNull
  · rw [leftNull, rightNull]
  · rw [versionPath_eq _ _ (VersionID.plainName rightNull)] at same
    simp at same
  · rw [versionPath_eq _ _ (VersionID.plainName leftNull)] at same
    simp at same
  · rw [versionPath_eq _ _ (VersionID.plainName rightNull),
      versionPath_eq _ _ (VersionID.plainName leftNull)] at same
    simpa using same

/--
The directory of an upload lies beside the objects of its bucket, unless the
key leads out of both; then it lies right below the path of the key.
-/
theorem multipartDir_fork
    (bucket key : String) {uploadID : String} (plain : PlainName uploadID) :
    (∃ base below, objectPath bucket key = base ++ "objects" :: below ∧
        multipartDir bucket key uploadID =
          base ++ "multipart" :: (below ++ [uploadID])) ∨
      multipartDir bucket key uploadID =
        objectPath bucket key ++ [uploadID] := by
  have joined : ∀ {name : String}, PlainName name →
      join ["buckets", bucket, name, keyToPath key] =
        (splitPath (keyToPath key)).foldl cleanStep
          (join ["buckets", bucket] ++ name :: []) := by
    intro name named
    simp [join, splitPath_of_plainName named, cleanStep_of_plainName named]
  have directory : multipartDir bucket key uploadID =
      join ["buckets", bucket, "multipart", keyToPath key] ++ [uploadID] :=
    join_append_plainName
      ["buckets", bucket, "multipart", keyToPath key] plain
  rw [directory, objectPath, joined (show PlainName "multipart" by decide),
    joined (show PlainName "objects" by decide)]
  rcases foldl_cleanStep_fork (splitPath (keyToPath key))
      (join ["buckets", bucket]) [] "multipart" "objects" with
    ⟨below, left, right⟩ | same
  · rw [left, right]
    exact .inl ⟨_, below, rfl, by simp⟩
  · rw [same]
    exact .inr rfl

/-- Nothing below the path of a key lies in the directory of an upload. -/
theorem below_objectPath_not_below_multipartDir
    (bucket key : String) (random : RandomID) {rest : Path}
    (apart : ∀ name, rest.head? = some name → name = "versions") :
    ¬ multipartDir bucket key (hexEncode random.bytes) <+:
      objectPath bucket key ++ rest := by
  rcases multipartDir_fork bucket key
      (hexEncode_plainName random.nonempty) with
    ⟨base, below, objects, directory⟩ | directory
  · rw [objects, directory]
    simp
  · rw [directory, List.prefix_append_right_inj]
    intro under
    cases rest with
    | nil => simp at under
    | cons first rest =>
      rw [List.cons_prefix_cons] at under
      have member : 'v' ∈ (hexEncode random.bytes).toList := by
        rw [under.1, apart first rfl]
        decide
      exact (hexEncode_digits member).2.2 rfl

/-- The directory of an upload is apart from the versions of its key. -/
theorem dataPath_not_below_multipartDir
    (bucket key : String) (random : RandomID) (versionID : VersionID) :
    ¬ multipartDir bucket key (hexEncode random.bytes) <+:
      dataPath bucket key versionID := by
  unfold dataPath
  split_ifs with unnamed
  · rw [← List.append_nil (objectPath bucket key)]
    exact below_objectPath_not_below_multipartDir bucket key random (by simp)
  · rw [versionPath_eq _ _ (VersionID.plainName unnamed)]
    exact below_objectPath_not_below_multipartDir bucket key random (by simp)

/-! ## Temporary names -/

/-- `tempSibling` with the random hexadecimal digits in its name. -/
def tempSibling (path : Path) (random : String) : Path :=
  path.dropLast ++ [path.getLastD "" ++ "." ++ random ++ ".tmp"]

theorem tempSibling_ne (path : Path) (random : String) :
    tempSibling path random ≠ path := by
  intro same
  have last := congrArg (fun parts => (List.getLastD parts "").length) same
  simp only [tempSibling, List.getLastD_concat, String.length_append] at last
  have dot : ".".length = 1 := rfl
  omega

theorem tempSibling_dropLast (path : Path) (random : String) :
    (tempSibling path random).dropLast = path.dropLast := by
  simp [tempSibling]

/-- The temporary name of a version is not that of a version. -/
theorem tempSibling_dataPath_ne
    (bucket key : String) (left right : VersionID) (random : String) :
    tempSibling (dataPath bucket key left) random ≠
      dataPath bucket key right := by
  intro same
  have last := congrArg (fun parts => parts.getLastD "") same
  simp only [tempSibling, List.getLastD_concat] at last
  by_cases unnamed : right.text = ""
  · have length := congrArg List.length same
    by_cases leftNull : left.text = ""
    · rw [VersionID.eq_of_text (leftNull.trans unnamed.symm)] at same
      exact tempSibling_ne _ _ same
    · simp only [tempSibling, dataPath, unnamed, leftNull, if_true,
        if_false, versionPath_eq _ _ (VersionID.plainName leftNull),
        List.length_append, List.length_dropLast, List.length_cons] at length
      omega
  · have dotted : '.' ∈ right.text.toList := by
      unfold dataPath at last
      rw [if_neg unnamed, versionPath_eq _ _ (VersionID.plainName unnamed),
        List.append_cons, List.getLastD_concat] at last
      rw [← last]
      simp
    exact right.dot_notMem dotted

/-- Nor do their temporary names lie in that directory. -/
theorem temp_not_below_multipartDir
    (bucket key : String) (random : RandomID) (versionID : VersionID)
    (name : String) :
    ¬ multipartDir bucket key (hexEncode random.bytes) <+:
      tempSibling (dataPath bucket key versionID) name := by
  by_cases unnamed : versionID.text = ""
  · have flat : dataPath bucket key versionID = objectPath bucket key :=
      if_pos unnamed
    rw [flat]
    intro under
    have short := under.length_le
    rcases multipartDir_fork bucket key
        (hexEncode_plainName random.nonempty) with
      ⟨base, below, objects, directory⟩ | directory
    · rcases List.eq_nil_or_concat below with rfl | ⟨front, last, rfl⟩
      · rw [objects, directory] at short
        simp [tempSibling] at short
      · rw [List.concat_eq_append] at objects
        have dropped : (base ++ "objects" :: (front ++ [last])).dropLast =
            base ++ "objects" :: front := by
          rw [← List.cons_append, ← List.append_assoc, List.dropLast_concat]
        rw [objects, directory, tempSibling, dropped] at under
        simp at under
    · by_cases root : objectPath bucket key = []
      · rw [directory, root] at under
        simp only [tempSibling, List.nil_append, List.dropLast_nil,
          List.cons_prefix_cons] at under
        have member : '.' ∈ (hexEncode random.bytes).toList := by
          rw [under.1]
          simp
        exact (hexEncode_digits member).1 rfl
      · have positive := List.length_pos_of_ne_nil root
        rw [directory] at short
        simp only [tempSibling, List.length_append, List.length_dropLast,
          List.length_singleton] at short
        omega
  · have version : tempSibling (dataPath bucket key versionID) name =
        objectPath bucket key ++
          ["versions", versionID.text ++ "." ++ name ++ ".tmp"] := by
      have path : dataPath bucket key versionID =
          (objectPath bucket key ++ ["versions"]) ++ [versionID.text] := by
        unfold dataPath
        rw [if_neg unnamed, versionPath_eq _ _ (VersionID.plainName unnamed)]
        simp
      rw [path, tempSibling]
      simp
    rw [version]
    exact below_objectPath_not_below_multipartDir bucket key random (by simp)

/-- The name of a part file, with at least five digits. -/
def partName (number : Nat) : String :=
  let digits := Nat.toDigits 10 number
  "part." ++ String.ofList (List.replicate (5 - digits.length) '0' ++ digits)

/-! ## Valid keys -/

inductive KeyErr where
  | empty
  | tooLong
  | leadingSlash
  | backslash
  | dots
  | control
deriving DecidableEq

/-- `unicode.IsControl` -/
def isControl (rune : Char) : Bool :=
  rune.toNat < 32 || (127 ≤ rune.toNat && rune.toNat < 160)

/-- Two dots in a row. -/
def containsDots : List Char → Bool
  | '.' :: '.' :: _ => true
  | _ :: runes => containsDots runes
  | [] => false

def maxObjectKeyLen : Nat := 1024

def validateObjectKey (key : String) : Except KeyErr Unit :=
  if key = "" then .error .empty
  else if maxObjectKeyLen < key.utf8ByteSize then .error .tooLong
  else if key.toList.head? = some '/' then .error .leadingSlash
  else if '\\' ∈ key.toList then .error .backslash
  else if containsDots key.toList then .error .dots
  else if key.toList.any isControl then .error .control
  else .ok ()

/-! ## Paths of valid keys -/

/-- The components of a key that are left when its path is cleaned. -/
def keyPath (key : String) : Path :=
  (splitPath key).filter (fun name => name ≠ "" ∧ name ≠ ".")

theorem mem_intersperse
    {Item : Type} {item separator : Item} {items : List Item}
    (member : item ∈ items) : item ∈ items.intersperse separator := by
  induction items with
  | nil => cases member
  | cons first rest induction =>
    cases rest with
    | nil => simpa using member
    | cons second rest =>
      rcases List.mem_cons.mp member with rfl | later
      · simp
      · simpa using .inr (.inr (by simpa using induction later))

theorem containsDots_of_part
    {runes : List Char} (dots : ['.', '.'] <:+: runes) :
    containsDots runes = true := by
  obtain ⟨front, back, rfl⟩ := dots
  induction front with
  | nil => rfl
  | cons rune front induction =>
    unfold containsDots
    split
    · rfl
    · rename_i same
      cases same
      exact induction
    · rename_i empty
      cases empty

theorem dots_notMem_splitPath
    (plain : containsDots key.toList = false) :
    ".." ∉ splitPath key := by
  intro member
  obtain ⟨piece, listed, dots⟩ := List.mem_map.mp member
  have runes : piece = ['.', '.'] := by
    rw [← String.toList_ofList (l := piece), dots]
    rfl
  rw [runes] at listed
  have whole : ['/'].intercalate (key.toList.splitOn '/') = key.toList :=
    List.intercalate_splitOn '/'
  have within : ['.', '.'] <:+: key.toList := by
    rw [← whole]
    exact List.infix_of_mem_flatten (mem_intersperse listed)
  rw [containsDots_of_part within] at plain
  cases plain

theorem validateObjectKey_ok
    (valid : validateObjectKey key = .ok ()) :
    keyToPath key = key ∧ ".." ∉ splitPath key := by
  unfold validateObjectKey at valid
  split_ifs at valid with empty long slash back dots control
  refine ⟨?_, dots_notMem_splitPath (by simpa using dots)⟩
  simp [keyToPath, slash, empty]

theorem foldl_cleanStep_of_level
    {names : List String} (level : ".." ∉ names) (path : Path) :
    names.foldl cleanStep path =
      path ++ names.filter (fun name => name ≠ "" ∧ name ≠ ".") := by
  induction names generalizing path with
  | nil => exact (List.append_nil path).symm
  | cons name names induction =>
    rw [List.mem_cons, not_or] at level
    rw [List.foldl_cons, induction level.2, cleanStep, if_neg
      (Ne.symm level.1)]
    by_cases empty : name = "" ∨ name = "."
    · rcases empty with rfl | rfl <;> simp
    · simp [not_or.mp empty]

theorem objectPath_eq
    (bucket : String) (valid : validateObjectKey key = .ok ()) :
    objectPath bucket key =
      join ["buckets", bucket, "objects"] ++ keyPath key := by
  rcases validateObjectKey_ok valid with ⟨same, level⟩
  rw [keyPath, ← foldl_cleanStep_of_level level, objectPath, same]
  simp [join]

/-! ## Keys that share a path -/

/-- No component of the key is dropped when its path is cleaned, and it does
not spell the path of a version. -/
structure SpelledOut (key : String) : Prop where
  whole : ∀ name ∈ splitPath key, name ≠ "" ∧ name ≠ "."
  flat : ∀ front (versionID : VersionID), versionID.text ≠ "" →
    keyPath key ≠ front ++ ["versions", versionID.text]

theorem SpelledOut.key_eq
    {left right : String} (leftOut : SpelledOut left)
    (rightOut : SpelledOut right) (same : keyPath left = keyPath right) :
    left = right := by
  have kept : ∀ {key : String}, SpelledOut key →
      keyPath key = splitPath key := by
    intro key spelled
    rw [keyPath, List.filter_eq_self]
    intro name member
    exact decide_eq_true (spelled.whole name member)
  rw [kept leftOut, kept rightOut] at same
  have runes := List.map_injective_iff.mpr
    (fun _ _ => String.ofList_injective) same
  have joined : ∀ key : String,
      ['/'].intercalate (key.toList.splitOn '/') = key.toList :=
    fun key => List.intercalate_splitOn '/'
  rw [← String.toList_inj, ← joined left, runes, joined right]

end DataSafe.Storage
