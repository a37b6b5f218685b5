import DataSafe.Base.ByteSource
import DataSafe.Base.Table

/-!
# Metadata records

The rows of the metadata store.  A field that no modelled function reads or
writes is left out.  Wrapped data keys are kept decoded from base64, and the
string maps of user metadata and tags are lists of pairs.
-/

namespace DataSafe.Metadata

open Base

/-- Nanoseconds since the Unix epoch. -/
abbrev Time := Int

/-- The zero `time.Time`, the first of January of the year one. -/
def zeroTime : Time := -62135596800 * 1000000000

/-- 24 hours. -/
def day : Time := 24 * 3600 * 1000000000

/-! ## Version ids -/

/-- A string that is one component of a path. -/
def PlainName (name : String) : Prop :=
  name ≠ "" ∧ name ≠ "." ∧ name ≠ ".." ∧ '/' ∉ name.toList

instance (name : String) : Decidable (PlainName name) :=
  inferInstanceAs (Decidable (_ ∧ _))

/-- The digits of `encoding/hex`. -/
def hexDigit (digit : Nat) : Char :=
  if digit < 10 then Char.ofNat (48 + digit) else Char.ofNat (87 + digit)

/-- `hex.EncodeToString` -/
def hexEncode (bytes : Bytes) : String :=
  String.ofList (bytes.flatMap (fun byte =>
    [hexDigit (byte.toNat / 16), hexDigit (byte.toNat % 16)]))

theorem hexDigit_spec :
    ∀ digit < 16, hexDigit digit ≠ '.' ∧ hexDigit digit ≠ '/' ∧
      hexDigit digit ≠ 'v' := by
  decide

variable {bytes : Bytes}

/-- The letters that paths are made of are no digits. -/
theorem hexEncode_digits
    {rune : Char} (member : rune ∈ (hexEncode bytes).toList) :
    rune ≠ '.' ∧ rune ≠ '/' ∧ rune ≠ 'v' := by
  simp only [hexEncode, String.toList_ofList, List.mem_flatMap,
    List.mem_cons, List.not_mem_nil, or_false] at member
  obtain ⟨byte, _, rfl | rfl⟩ := member
  · exact hexDigit_spec _ (by have := byte.toNat_lt; omega)
  · exact hexDigit_spec _ (Nat.mod_lt _ (by decide))

/-- The digits come behind the control characters. -/
theorem hexEncode_ge
    {rune : Char}
    (member : rune ∈ (hexEncode bytes).toList) : '0' ≤ rune := by
  have digits : ∀ digit < 16, '0' ≤ hexDigit digit := by decide
  simp only [hexEncode, String.toList_ofList, List.mem_flatMap,
    List.mem_cons, List.not_mem_nil, or_false] at member
  obtain ⟨byte, _, rfl | rfl⟩ := member
  · exact digits _ (by have := byte.toNat_lt; omega)
  · exact digits _ (Nat.mod_lt _ (by decide))

theorem hexEncode_plainName
    (nonempty : bytes ≠ []) :
    PlainName (hexEncode bytes) := by
  have first : ∃ rune, rune ∈ (hexEncode bytes).toList := by
    cases bytes with
    | nil => exact absurd rfl nonempty
    | cons byte bytes =>
      exact ⟨hexDigit (byte.toNat / 16), by simp [hexEncode]⟩
  obtain ⟨rune, member⟩ := first
  refine ⟨?_, ?_, ?_, fun slash => (hexEncode_digits slash).2.1 rfl⟩
  · intro empty
    rw [empty] at member
    simp at member
  · intro dot
    have : '.' ∈ (hexEncode bytes).toList := by rw [dot]; decide
    exact (hexEncode_digits this).1 rfl
  · intro dots
    have : '.' ∈ (hexEncode bytes).toList := by rw [dots]; decide
    exact (hexEncode_digits this).1 rfl

/-- The bytes that `rand.Read` yields for an id. -/
structure RandomID where
  bytes : Bytes
  nonempty : bytes ≠ []

/-- A version id of a record: none, or one that was generated. -/
structure VersionID where
  text : String
  generated : text = "" ∨ ∃ random : RandomID, text = hexEncode random.bytes

theorem VersionID.eq_of_text
    {left right : VersionID} (same : left.text = right.text) :
    left = right := by
  cases left
  cases right
  cases same
  rfl

instance : DecidableEq VersionID := fun left right =>
  decidable_of_iff (left.text = right.text)
    ⟨VersionID.eq_of_text, fun same => by rw [same]⟩

/-- No version id. -/
def VersionID.null : VersionID := ⟨"", .inl rfl⟩

/-- A version id is one component of a path. -/
theorem VersionID.plainName
    {versionID : VersionID} (named : versionID.text ≠ "") :
    PlainName versionID.text := by
  obtain ⟨random, text⟩ := versionID.generated.resolve_left named
  rw [text]
  exact hexEncode_plainName random.nonempty

theorem VersionID.dot_notMem (versionID : VersionID) :
    '.' ∉ versionID.text.toList := by
  intro member
  rcases versionID.generated with empty | ⟨random, text⟩
  · simp [empty] at member
  · rw [text] at member
    exact (hexEncode_digits member).1 rfl

/-- `newVersionID` -/
def newVersionID (random : RandomID) : VersionID :=
  ⟨hexEncode random.bytes, .inr ⟨random, rfl⟩⟩

theorem newVersionID_ne (random : RandomID) :
    (newVersionID random).text ≠ "" :=
  (hexEncode_plainName random.nonempty).1

/-! ## Objects -/

/-- How the bytes of an object are sealed. -/
structure ObjectEncryption where
  formatVersion : Int := 0
  provider : String := ""
  keyID : String := ""
  keyVersion : Int := 0
  wrappedDEK : Bytes := []
  alg : String := ""
  sseAlgorithm : String := ""
  plainSize : Int := 0
  plaintext : Bool := false
deriving DecidableEq

/-- `ObjectEncryption.Sealed`: the payload is ciphertext. -/
def ObjectEncryption.sealed (encryption : ObjectEncryption) : Bool :=
  !encryption.plaintext && (decide (0 < encryption.formatVersion) ||
      encryption.sseAlgorithm != "" || encryption.provider != "")

structure ObjectRecord where
  bucket : String
  key : String
  size : Int
  etag : String
  contentType : String
  versionID : VersionID
  lastModified : Time
  isDeleteMarker : Bool := false
  legalHold : Bool := false
  retentionUntil : Option Time := none
  retentionMode : String := ""
  storageClass : String := ""
  metadata : List (String × String) := []
  tags : List (String × String) := []
  createdAt : Time := zeroTime
  encryption : Option ObjectEncryption := none
  scheduledDeleteAt : Option Time := none
deriving DecidableEq

/-- The payload of the object is known to be plain or sealed. -/
def ObjectRecord.marked (record : ObjectRecord) : Bool :=
  match record.encryption with
  | some encryption => encryption.plaintext || encryption.sealed
  | none => false

/-! ## Buckets, uploads, keys and users -/

structure LifecycleRule where
  keyStart : String := ""
  action : String := ""
  expirationDays : Int
  enabled : Bool
deriving DecidableEq

structure BucketRecord where
  storageKey : String
  name : String
  owner : String := ""
  tenantID : String := ""
  versioning : Bool := false
  versioningSuspended : Bool := false
  objectLock : Bool := false
  retentionDays : Int := 0
  retentionMode : String := ""
  storageClass : String := ""
  defaultEncryption : String := ""
  kmsMasterKeyID : String := ""
  encryptionProvider : String := ""
  kmsKeyStatus : String := ""
  maxSizeBytes : Int := 0
  maxObjects : Int := 0
  lifecycleRules : List LifecycleRule := []
deriving DecidableEq

/-- The key under which the bucket is stored. -/
def BucketRecord.effectiveStorageKey (bucket : BucketRecord) : String :=
  if bucket.storageKey ≠ "" then bucket.storageKey else bucket.name

structure MultipartRecord where
  uploadID : String
  bucket : String
  key : String
  initiated : Time := zeroTime
  contentType : String := ""
  metadata : List (String × String) := []
  encryption : Option ObjectEncryption := none
deriving DecidableEq

structure KMSKeyRecord where
  id : String
  provider : String
  status : String
  version : Int
  generation : Int
  tenantID : String
  bucketKey : String
deriving DecidableEq

structure UserRecord where
  username : String
  maxSizeBytes : Int := 0
  maxObjects : Int := 0
deriving DecidableEq

end DataSafe.Metadata
