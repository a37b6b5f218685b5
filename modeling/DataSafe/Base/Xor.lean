import DataSafe.Base.ByteSource
import Mathlib.Algebra.BigOperators.Group.Finset.Basic
import Mathlib.Algebra.Group.Pi.Basic
import Mathlib.Tactic.Abel

/-!
# Bytes under exclusive or

Bytes form a commutative group under exclusive or, in which every element is
its own inverse.  A string of bytes is read as a function of the position, so
that folding strings of one length with exclusive or becomes a sum.
-/

namespace DataSafe.Base

/-- A byte that is added by exclusive or. -/
@[ext]
structure XorByte where
  byte : UInt8
deriving DecidableEq

instance : Add XorByte := ⟨fun left right => ⟨left.byte ^^^ right.byte⟩⟩

instance : Zero XorByte := ⟨⟨0⟩⟩

instance : Neg XorByte := ⟨id⟩

instance : AddCommGroup XorByte where
  add_assoc _ _ _ := XorByte.ext (UInt8.xor_assoc _ _ _)
  zero_add _ := XorByte.ext (UInt8.zero_xor ..)
  add_zero _ := XorByte.ext (UInt8.xor_zero ..)
  add_comm _ _ := XorByte.ext (UInt8.xor_comm _ _)
  neg_add_cancel _ := XorByte.ext (UInt8.xor_self ..)
  nsmul := nsmulRec
  zsmul := zsmulRec

@[simp]
theorem XorByte.neg_eq (value : XorByte) : -value = value := rfl

theorem XorByte.add_self (value : XorByte) : value + value = 0 :=
  XorByte.ext (UInt8.xor_self ..)

def xorBytes (left right : Bytes) : Bytes := List.zipWith (· ^^^ ·) left right

/-- A string of bytes by positions, with zeros behind its end. -/
def signal (bytes : Bytes) (place : Nat) : XorByte := ⟨bytes.getD place 0⟩

variable {left right : Bytes}

theorem length_xorBytes
    (same : right.length = left.length) :
    (xorBytes left right).length = left.length := by
  rw [xorBytes, List.length_zipWith, same, Nat.min_self]

theorem signal_xorBytes
    (same : right.length = left.length) :
    signal (xorBytes left right) = signal left + signal right := by
  funext place
  apply XorByte.ext
  change (xorBytes left right).getD place 0 =
    left.getD place 0 ^^^ right.getD place 0
  rcases Nat.lt_or_ge place left.length with inside | outside
  · simp [xorBytes, inside, same ▸ inside]
  · simp [xorBytes, outside, same ▸ outside]

theorem foldl_xorBytes
    (start : Bytes) (shards : List Bytes)
    (sized : ∀ shard ∈ shards, shard.length = start.length) :
    (shards.foldl xorBytes start).length = start.length ∧
      signal (shards.foldl xorBytes start) =
        signal start + (shards.map signal).sum := by
  induction shards generalizing start with
  | nil => simp
  | cons shard shards induction =>
    have same := sized shard List.mem_cons_self
    have length := length_xorBytes same
    have rest := induction (xorBytes start shard) fun other member => by
        rw [length]
        exact sized other (List.mem_cons_of_mem shard member)
    rw [List.foldl_cons, rest.1, rest.2, length, signal_xorBytes same,
      add_assoc]
    exact ⟨rfl, rfl⟩

theorem eq_of_signal
    (same : left.length = right.length)
    (agree : signal left = signal right) : left = right := by
  apply List.ext_getElem same
  intro place inLeft inRight
  have bytes := congrArg XorByte.byte (congrFun agree place)
  simpa [signal, inLeft, inRight] using bytes

@[simp]
theorem signal_replicate_zero (size : Nat) :
    signal (List.replicate size 0) = 0 := by
  funext place
  apply XorByte.ext
  change (List.replicate size (0 : UInt8)).getD place 0 = 0
  rw [List.getD_eq_getElem?_getD, List.getElem?_replicate]
  split <;> rfl

/-- A sum that is added to its own summands gives zero. -/
theorem foldl_xorBytes_cancel
    {start : Bytes} {front back : List Bytes}
    (sized : ∀ shard ∈ front ++ back, shard.length = start.length) :
    (front ++ (front ++ back).foldl xorBytes start :: back).foldl xorBytes
        start =
      List.replicate start.length 0 := by
  have sum := foldl_xorBytes start (front ++ back) sized
  have twice := foldl_xorBytes start
    (front ++ (front ++ back).foldl xorBytes start :: back) (by
      intro shard member
      rcases List.mem_append.mp member with before | same | after
      · exact sized shard (List.mem_append_left back before)
      · exact sum.1
      · exact sized shard (List.mem_append_right front ‹_›))
  apply eq_of_signal
  · rw [twice.1, List.length_replicate]
  · rw [twice.2, signal_replicate_zero]
    simp only [List.map_append, List.map_cons, List.sum_append,
      List.sum_cons, sum.2]
    funext place
    have self := XorByte.add_self (signal start place +
      ((front.map signal).sum place + (back.map signal).sum place))
    simp only [Pi.add_apply, Pi.zero_apply]
    rw [← self]
    abel

end DataSafe.Base
