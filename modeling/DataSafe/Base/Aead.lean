import DataSafe.Base.ByteSource

/-!
# Authenticated encryption

An authenticated cipher seals a plaintext under a key, a nonce and
associated data, and opens a ciphertext again only if it was sealed.

The ideal notion is relative to what was sealed: `IdealOn key log` says that
`openBox` succeeds on the boxes of `log` with their plaintexts, and on
nothing else.  A reader who is given bytes of an adversary's choosing can
then open only boxes of the log.  `Correct` is the weaker law that whatever is
sealed can be opened.
-/

namespace DataSafe.Base

/-- An authenticated cipher whose ciphertexts carry a 16-byte tag. -/
structure Aead where
  sealBox : (key nonce plaintext aad : Bytes) → Bytes
  openBox : (key nonce ciphertext aad : Bytes) → Option Bytes
  sealBox_length : ∀ key nonce plaintext aad,
    (sealBox key nonce plaintext aad).length = plaintext.length + 16

/-- What was sealed under a key can be opened with it. -/
def Aead.Correct (aead : Aead) : Prop :=
  ∀ key nonce plaintext aad,
    aead.openBox key nonce (aead.sealBox key nonce plaintext aad) aad =
      some plaintext

/-- The cipher that only appends a tag, and cuts it off again. -/
def Aead.tagging : Aead where
  sealBox := fun _ _ plaintext _ => plaintext ++ List.replicate 16 0
  openBox := fun _ _ ciphertext _ =>
    if 16 ≤ ciphertext.length then
      some (ciphertext.take (ciphertext.length - 16))
    else none
  sealBox_length := by simp

theorem Aead.tagging_correct : Aead.tagging.Correct := by
  intro key nonce plaintext aad
  simp [Aead.tagging]

/-- One sealed plaintext with everything that is needed to open it. -/
structure SealedBox where
  nonce : Bytes
  plaintext : Bytes
  ciphertext : Bytes
  aad : Bytes
deriving DecidableEq

/-- Under `key` exactly the boxes of `log` can be opened. -/
structure Aead.IdealOn
    (aead : Aead) (key : Bytes) (log : List SealedBox) : Prop where
  opens : ∀ box ∈ log, aead.openBox key box.nonce box.ciphertext box.aad =
      some box.plaintext
  unforged : ∀ nonce ciphertext aad plaintext,
    aead.openBox key nonce ciphertext aad = some plaintext → ∃ box ∈ log,
        box.nonce = nonce ∧ box.ciphertext = ciphertext ∧ box.aad = aad

/-- An ideal cipher opens a box of the log with the sealed plaintext. -/
theorem Aead.IdealOn.box_of_open
    {aead : Aead} {key : Bytes} {log : List SealedBox}
    (ideal : aead.IdealOn key log) {nonce ciphertext aad plaintext : Bytes}
    (opened : aead.openBox key nonce ciphertext aad = some plaintext) :
    ∃ box ∈ log, box = ⟨nonce, plaintext, ciphertext, aad⟩ := by
  obtain ⟨box, member, rfl, rfl, rfl⟩ :=
    ideal.unforged nonce ciphertext aad plaintext opened
  refine ⟨box, member, ?_⟩
  have sealedPlaintext := ideal.opens box member
  rw [opened] at sealedPlaintext
  cases sealedPlaintext
  rfl

/--
The cipher that opens what a log lists.  Sealing appends a tag of zeros, so
the log decides alone what can be opened.
-/
def Aead.ofLog (log : List SealedBox) : Aead where
  sealBox := fun _ _ plaintext _ => plaintext ++ List.replicate 16 0
  openBox := fun _ nonce ciphertext aad =>
    (log.find? (fun box =>
      box.nonce = nonce && box.ciphertext = ciphertext &&
        box.aad = aad)).map SealedBox.plaintext
  sealBox_length := by simp

/-- The cipher of a log is ideal on it when its boxes are told apart. -/
theorem Aead.ofLog_idealOn
    (key : Bytes) {log : List SealedBox}
    (separated : ∀ box ∈ log, ∀ other ∈ log,
      box.nonce = other.nonce → box = other) :
    (Aead.ofLog log).IdealOn key log where
  opens := by
    intro box member
    cases found : log.find? (fun other =>
        other.nonce = box.nonce && other.ciphertext = box.ciphertext &&
          other.aad = box.aad) with
    | none =>
      have rejected := List.find?_eq_none.mp found box member
      simp at rejected
    | some other =>
      have accepted := List.find?_some found
      have otherMember := List.mem_of_find?_eq_some found
      have same : other = box :=
        separated other otherMember box member (by
          simp only [Bool.and_eq_true, decide_eq_true_eq] at accepted
          exact accepted.1.1)
      simp only [Aead.ofLog]
      rw [found, same]
      rfl
  unforged := by
    intro nonce ciphertext aad plaintext opened
    obtain ⟨box, found, _⟩ := Option.map_eq_some_iff.mp opened
    have accepted := List.find?_some found
    simp only [Bool.and_eq_true, decide_eq_true_eq] at accepted
    exact ⟨box, List.mem_of_find?_eq_some found,
      accepted.1.1, accepted.1.2, accepted.2⟩

end DataSafe.Base
