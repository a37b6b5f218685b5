import DataSafe.S3.CopyAccess
import DataSafe.Storage.Confinement

/-!
# Requests and the directories of their bucket

Every request names its object by a key, and the backend turns this key into
paths.  `ValidateObjectKey` is called by the handlers of put, get, head,
delete and multi-delete, but not by those of copies and of multipart uploads.
The calls of the backend behind a request are listed with the paths that each
of them opens, creates, renames or removes.
-/

namespace DataSafe.S3

open Base Metadata Storage

/-! ## Calls of the backend -/

/-- A call of the backend, with the version or the upload it is for. -/
inductive BackendCall where
  /-- `PutObject` or `PutObjectVersion` -/
  | put (versionID : VersionID)
  /-- `GetObject` or `GetObjectVersion` -/
  | get (versionID : VersionID)
  /-- `StatObject` or `StatObjectVersion` -/
  | stat (versionID : VersionID)
  /-- `DeleteObject` or `DeleteObjectVersion` -/
  | delete (versionID : VersionID)
  | deleteAllObjectVersions
  | createMultipartUpload (uploadID : RandomID)
  | uploadPart (uploadID : RandomID) (number : Nat)
  | openPart (uploadID : RandomID) (number : Nat)
  | completeMultipartUpload (uploadID : RandomID) (numbers : List Nat)
  | abortMultipartUpload (uploadID : RandomID)

/-- The file of a version, or of an object without versions. -/
def dataPathAt (base : Path) (bucket key : String) (versionID : VersionID) :
    Path :=
  if versionID.text = "" then keyAt base bucket "objects" key
  else
    locate base ["buckets", bucket, "objects", keyToPath key, "versions",
      versionID.text]

def multipartDirAt (base : Path) (bucket key : String)
    (uploadID : RandomID) : Path :=
  locate base ["buckets", bucket, "multipart", keyToPath key,
    hexEncode uploadID.bytes]

def partPathAt (base : Path) (bucket key : String) (uploadID : RandomID)
    (number : Nat) : Path :=
  multipartDirAt base bucket key uploadID ++ [partName number]

/--
What a call opens, creates, renames or removes for a key.  A file is written
under a temporary name, with random digits, and renamed.
-/
def BackendCall.touched (base : Path) (bucket key random : String) :
    BackendCall → List Path
  | .put versionID =>
    let path := dataPathAt base bucket key versionID
    [path, tempSibling path random]
  | .get versionID => [dataPathAt base bucket key versionID]
  | .stat versionID => [dataPathAt base bucket key versionID]
  | .delete versionID => [dataPathAt base bucket key versionID]
  | .deleteAllObjectVersions => [keyAt base bucket "objects" key]
  | .createMultipartUpload uploadID =>
    [multipartDirAt base bucket key uploadID]
  | .uploadPart uploadID number =>
    let path := partPathAt base bucket key uploadID number
    [multipartDirAt base bucket key uploadID, path, tempSibling path random]
  | .openPart uploadID number => [partPathAt base bucket key uploadID number]
  | .completeMultipartUpload uploadID numbers =>
    let path := keyAt base bucket "objects" key
    [path, tempSibling path random,
      multipartDirAt base bucket key uploadID] ++
      numbers.map (partPathAt base bucket key uploadID)
  | .abortMultipartUpload uploadID =>
    [multipartDirAt base bucket key uploadID]

/-! ## Requests -/

/-- A request that names objects by keys. -/
inductive KeyRequest where
  | putObject (key : String)
  | getObject (key : String)
  | headObject (key : String)
  | deleteObject (key : String)
  | deleteObjects (keys : List String)
  | copyObject (source key : String)
  | createMultipart (key : String)
  | uploadPart (key : String)
  | completeMultipart (key : String)
  | abortMultipart (key : String)

/-- What `PutObject` of the service calls. -/
inductive PutCall : BackendCall → Prop where
  | put (versionID : VersionID) : PutCall (.put versionID)
  | stat (versionID : VersionID) : PutCall (.stat versionID)
  | purge (versionID : VersionID) : PutCall (.delete versionID)
  | purgeAll : PutCall .deleteAllObjectVersions

/-- What `DeleteObject` of the service calls. -/
inductive DeleteCall : BackendCall → Prop where
  | delete (versionID : VersionID) : DeleteCall (.delete versionID)
  | deleteAll : DeleteCall .deleteAllObjectVersions

/-- What completing an upload calls, with a put for a sealed one. -/
inductive CompleteCall : BackendCall → Prop where
  | complete (uploadID : RandomID) (numbers : List Nat) :
      CompleteCall (.completeMultipartUpload uploadID numbers)
  | moveAside : CompleteCall (.get .null)
  | openPart (uploadID : RandomID) (number : Nat) :
      CompleteCall (.openPart uploadID number)
  | abort (uploadID : RandomID) :
      CompleteCall (.abortMultipartUpload uploadID)
  | put {call : BackendCall} (made : PutCall call) : CompleteCall call

/--
The calls that a request makes in some state, with the key they are for.  They
are made in the bucket of the request, or in that of the source of a copy.  A
request whose key is rejected makes none.
-/
inductive Makes : KeyRequest → String → BackendCall → Prop where
  | putObject {key : String} {call : BackendCall}
      (valid : validateObjectKey key = .ok ()) (made : PutCall call) :
      Makes (.putObject key) key call
  | getObject {key : String} (valid : validateObjectKey key = .ok ())
      (versionID : VersionID) :
      Makes (.getObject key) key (.get versionID)
  | deleteObject {key : String} {call : BackendCall}
      (valid : validateObjectKey key = .ok ()) (made : DeleteCall call) :
      Makes (.deleteObject key) key call
  | deleteObjects {keys : List String} {key : String} {call : BackendCall}
      (member : key ∈ keys) (valid : validateObjectKey key = .ok ())
      (made : DeleteCall call) :
      Makes (.deleteObjects keys) key call
  | copySource {source key : String} (versionID : VersionID) :
      Makes (.copyObject source key) source (.get versionID)
  | copyTarget {source key : String} {call : BackendCall}
      (made : PutCall call) :
      Makes (.copyObject source key) key call
  | createMultipart {key : String} (uploadID : RandomID) :
      Makes (.createMultipart key) key (.createMultipartUpload uploadID)
  | uploadPart {key : String} (uploadID : RandomID) (number : Nat) :
      Makes (.uploadPart key) key (.uploadPart uploadID number)
  | completeMultipart {key : String} {call : BackendCall}
      (made : CompleteCall call) :
      Makes (.completeMultipart key) key call
  | abortMultipart {key : String} (uploadID : RandomID) :
      Makes (.abortMultipart key) key (.abortMultipartUpload uploadID)

/-- A call for a key touches the directories of its bucket only. -/
def BackendCall.Confined (call : BackendCall) (key : String) : Prop :=
  ∀ base bucket, PlainName bucket →
    ∀ random, ∀ path ∈ call.touched base bucket key random,
      Inside base bucket path

/-- The keys of the request stay in the directories of their bucket. -/
def KeyRequest.KeysStay : KeyRequest → Prop
  | .putObject key =>
    validateObjectKey key = .ok () → keyPath key ≠ []
  | .getObject key =>
    validateObjectKey key = .ok () → keyPath key ≠ []
  | .headObject _ => True
  | .deleteObject key =>
    validateObjectKey key = .ok () → keyPath key ≠ []
  | .deleteObjects keys =>
    ∀ key ∈ keys, validateObjectKey key = .ok () → keyPath key ≠ []
  | .copyObject source key => Stays source ∧ Stays key
  | .createMultipart key => StaysBelow key
  | .uploadPart key => StaysBelow key
  | .completeMultipart key => Stays key
  | .abortMultipart key => StaysBelow key

/-! ## Paths of a key that stays -/

theorem locate_append_plainName
    (base : Path) (parts : List String) {name : String}
    (plain : PlainName name) :
    locate base (parts ++ [name]) = locate base parts ++ [name] := by
  simp [locate, splitPath_of_plainName plain, cleanStep_of_plainName plain]

variable {key bucket : String} {call : BackendCall}

theorem dataPathAt_inside
    (stays : Stays key) (base : Path)
    (plain : PlainName bucket) (versionID : VersionID) :
    Inside base bucket (dataPathAt base bucket key versionID) := by
  unfold dataPathAt
  split_ifs with unnamed
  · exact stays.keyAt base plain (by decide)
  · have versions := locate_append_plainName base
      ["buckets", bucket, "objects", keyToPath key]
      (show PlainName "versions" by decide)
    have named := locate_append_plainName base
      ["buckets", bucket, "objects", keyToPath key, "versions"]
      (VersionID.plainName unnamed)
    simp only [List.cons_append, List.nil_append] at versions named
    rw [named, versions, List.append_assoc]
    exact (stays.below.keyAt base plain (by decide)).below _ _

theorem multipartDirAt_eq
    (base : Path) (bucket key : String) (uploadID : RandomID) :
    multipartDirAt base bucket key uploadID =
      keyAt base bucket "multipart" key ++ [hexEncode uploadID.bytes] :=
  locate_append_plainName base ["buckets", bucket, "multipart", keyToPath key]
    (hexEncode_plainName uploadID.nonempty)

theorem multipartDirAt_inside
    (stays : StaysBelow key) (base : Path)
    (plain : PlainName bucket) (uploadID : RandomID) :
    Inside base bucket (multipartDirAt base bucket key uploadID) := by
  rw [multipartDirAt_eq]
  exact (stays.keyAt base plain (by decide)).below _ []

theorem partPathAt_inside
    (stays : StaysBelow key) (base : Path)
    (plain : PlainName bucket) (uploadID : RandomID) (number : Nat) :
    Inside base bucket (partPathAt base bucket key uploadID number) :=
  (multipartDirAt_inside stays base plain uploadID).atOrInside.below _ []

/-- The calls that use the directory of an upload only. -/
inductive UploadCall : BackendCall → Prop where
  | create (uploadID : RandomID) :
      UploadCall (.createMultipartUpload uploadID)
  | uploadPart (uploadID : RandomID) (number : Nat) :
      UploadCall (.uploadPart uploadID number)
  | openPart (uploadID : RandomID) (number : Nat) :
      UploadCall (.openPart uploadID number)
  | abort (uploadID : RandomID) :
      UploadCall (.abortMultipartUpload uploadID)

theorem UploadCall.confined
    (upload : UploadCall call)
    (stays : StaysBelow key) : call.Confined key := by
  intro base bucket plain random path member
  cases upload with
  | create uploadID =>
    rw [List.mem_singleton.mp member]
    exact multipartDirAt_inside stays base plain uploadID
  | uploadPart uploadID number =>
    have part := partPathAt_inside stays base plain uploadID number
    rcases List.mem_cons.mp member with rfl | member
    · exact multipartDirAt_inside stays base plain uploadID
    · rcases List.mem_cons.mp member with rfl | member
      · exact part
      · rw [List.mem_singleton.mp member]
        exact part.tempSibling random
  | openPart uploadID number =>
    rw [List.mem_singleton.mp member]
    exact partPathAt_inside stays base plain uploadID number
  | abort uploadID =>
    rw [List.mem_singleton.mp member]
    exact multipartDirAt_inside stays base plain uploadID

/-- Every call for a key that stays is confined. -/
theorem BackendCall.confined_of_stays
    (call : BackendCall) (stays : Stays key) :
    call.Confined key := by
  cases call with
  | put versionID =>
    intro base bucket plain random path member
    have inside := dataPathAt_inside stays base plain versionID
    rcases List.mem_cons.mp member with rfl | member
    · exact inside
    · rw [List.mem_singleton.mp member]
      exact inside.tempSibling random
  | get versionID =>
    intro base bucket plain random path member
    rw [List.mem_singleton.mp member]
    exact dataPathAt_inside stays base plain versionID
  | stat versionID =>
    intro base bucket plain random path member
    rw [List.mem_singleton.mp member]
    exact dataPathAt_inside stays base plain versionID
  | delete versionID =>
    intro base bucket plain random path member
    rw [List.mem_singleton.mp member]
    exact dataPathAt_inside stays base plain versionID
  | deleteAllObjectVersions =>
    intro base bucket plain random path member
    rw [List.mem_singleton.mp member]
    exact stays.keyAt base plain (by decide)
  | createMultipartUpload uploadID =>
    exact (UploadCall.create uploadID).confined stays.below
  | uploadPart uploadID number =>
    exact (UploadCall.uploadPart uploadID number).confined stays.below
  | openPart uploadID number =>
    exact (UploadCall.openPart uploadID number).confined stays.below
  | abortMultipartUpload uploadID =>
    exact (UploadCall.abort uploadID).confined stays.below
  | completeMultipartUpload uploadID numbers =>
    intro base bucket plain random path member
    have inside : Inside base bucket (keyAt base bucket "objects" key) :=
      stays.keyAt base plain (by decide)
    rcases List.mem_append.mp member with fixed | part
    · rcases List.mem_cons.mp fixed with rfl | fixed
      · exact inside
      · rcases List.mem_cons.mp fixed with rfl | fixed
        · exact inside.tempSibling random
        · rw [List.mem_singleton.mp fixed]
          exact multipartDirAt_inside stays.below base plain uploadID
    · obtain ⟨number, _, rfl⟩ := List.mem_map.mp part
      exact partPathAt_inside stays.below base plain uploadID number

section

variable (valid : validateObjectKey key = .ok ())
  (confined : call.Confined key)
  (uses : ∀ bucket, keyAt [] bucket "objects" key ∈ call.touched [] bucket key "")

include valid confined uses

omit confined uses in
theorem stays_of_valid
    (some : keyPath key ≠ []) : Stays key := by
  left
  rw [cleanKey_of_valid valid]
  exact ⟨rfl, some⟩

/-! ## Keys of confined calls -/

omit valid in
/-- A confined call that uses the path of an object shows that its key stays. -/
theorem stays_of_confined : Stays key :=
  stays_of_inside (show "objects" ∈ ["objects", "multipart"] by decide)
    (fun bucket plain => confined [] bucket plain "" _ (uses bucket))

omit confined uses in
theorem keyPath_of_stays
    (stays : Stays key) : keyPath key ≠ [] := by
  unfold Stays at stays
  rw [cleanKey_of_valid valid] at stays
  rcases stays with ⟨_, some⟩ | ⟨one, _⟩
  · exact some
  · cases one

omit valid confined uses in
/-- A directory that lies strictly inside was at least reached from there. -/
theorem atOrInside_of_below
    {base : Path} {path : Path} {name : String}
    (inside : Inside base bucket (path ++ [name])) :
    AtOrInside base bucket path := by
  obtain ⟨root, member, above, proper⟩ := inside
  rcases List.prefix_concat_iff.mp above with same | above
  · exact absurd same.symm proper
  · exact ⟨root, member, above⟩

omit valid uses in
/-- A confined call that uses the directory of an upload. -/
theorem staysBelow_of_confined
    (uploadID : RandomID)
    (uses : ∀ bucket, multipartDirAt [] bucket key uploadID ∈
      call.touched [] bucket key "") : StaysBelow key := by
  refine staysBelow_of_atOrInside
    (show "multipart" ∈ ["objects", "multipart"] by decide)
    (fun bucket plain => ?_)
  have inside := confined [] bucket plain "" _ (uses bucket)
  rw [multipartDirAt_eq] at inside
  exact atOrInside_of_below inside

/-- Calls that include one for the path of the object. -/
theorem keyPath_of_confined : keyPath key ≠ [] :=
  keyPath_of_stays valid (stays_of_confined confined uses)

end

theorem get_uses (bucket key : String) :
    keyAt [] bucket "objects" key ∈
      (BackendCall.get .null).touched [] bucket key "" :=
  List.mem_singleton.mpr rfl

theorem deleteAll_uses (bucket key : String) :
    keyAt [] bucket "objects" key ∈
      BackendCall.deleteAllObjectVersions.touched [] bucket key "" :=
  List.mem_singleton.mpr rfl

/-- Some upload. -/
def anyUpload : RandomID := ⟨[0], by simp⟩

end DataSafe.S3
