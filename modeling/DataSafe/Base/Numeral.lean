import Mathlib.Data.Nat.Digits.Defs
import Mathlib.Order.Monotone.Basic

/-!
# Numerals

The digits of a numeral stand with the highest one first.  Numerals of one
length are ordered like texts, whatever letters the digits are written with,
as long as the letters are in the order of the digits.
-/

namespace DataSafe.Base

/-- The number that some digits stand for. -/
def numeral (base : Nat) (digits : List Nat) : Nat :=
  Nat.ofDigits base digits.reverse

variable {base : Nat}

theorem numeral_append (front back : List Nat) :
    numeral base (front ++ back) =
      numeral base front * base ^ back.length + numeral base back := by
  rw [numeral, List.reverse_append, Nat.ofDigits_append, List.length_reverse,
    Nat.add_comm, Nat.mul_comm]
  rfl

theorem numeral_cons (digit : Nat) (digits : List Nat) :
    numeral base (digit :: digits) =
      digit * base ^ digits.length + numeral base digits := by
  rw [← List.singleton_append, numeral_append]
  simp [numeral]

theorem numeral_lt
    (wide : 1 < base) {digits : List Nat}
    (small : ∀ digit ∈ digits, digit < base) :
    numeral base digits < base ^ digits.length := by
  rw [← List.length_reverse]
  exact Nat.ofDigits_lt_base_pow_length wide fun digit member =>
    small digit (List.mem_reverse.mp member)

/-- Texts of one length are ordered like the numbers they stand for. -/
theorem map_lt_map_iff_numeral
    {Letter : Type} [Preorder Letter] {letter : Nat → Letter}
    (wide : 1 < base) (rising : StrictMonoOn letter (Set.Iio base))
    {left right : List Nat} (same : left.length = right.length)
    (leftSmall : ∀ digit ∈ left, digit < base)
    (rightSmall : ∀ digit ∈ right, digit < base) :
    left.map letter < right.map letter ↔
      numeral base left < numeral base right := by
  induction left generalizing right with
  | nil =>
    rw [List.length_eq_zero_iff.mp same.symm]
    simp
  | cons digit left induction =>
    cases right with
    | nil => cases same
    | cons other right =>
      rw [List.forall_mem_cons] at leftSmall rightSmall
      have lengths := Nat.succ.inj same
      have leftBound := numeral_lt wide leftSmall.2
      have rightBound := numeral_lt wide rightSmall.2
      rw [List.map_cons, List.map_cons, List.cons_lt_cons_iff,
        rising.lt_iff_lt leftSmall.1 rightSmall.1,
        rising.injOn.eq_iff leftSmall.1 rightSmall.1,
        induction lengths leftSmall.2 rightSmall.2, numeral_cons,
        numeral_cons, lengths]
      rw [lengths] at leftBound
      -- A higher first digit outweighs all that follows.
      have outweighs : ∀ low high : Nat, low < high →
          low * base ^ right.length + base ^ right.length ≤
            high * base ^ right.length := by
        intro low high less
        rw [← Nat.succ_mul]
        exact Nat.mul_le_mul_right _ less
      rcases Nat.lt_trichotomy digit other with less | rfl | more
      · have := outweighs digit other less
        constructor <;> omega
      · omega
      · have := outweighs other digit more
        constructor <;> omega

end DataSafe.Base
