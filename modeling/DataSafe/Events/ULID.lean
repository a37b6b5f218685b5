import DataSafe.Base.Numeral
import DataSafe.Metadata.Records
import Mathlib.Data.Char
import Mathlib.Data.Nat.Digits.Lemmas
import Mathlib.Data.String.Basic
import Mathlib.Tactic.IntervalCases

/-!
# The order of event ids

`NewULID` puts the milliseconds of the clock into the first six bytes of an id
and random bytes into the other ten.  `encodeULID` regroups the bits of the
bytes into digits of five bits: one byte gives the first two digits, and each
of the three groups of five bytes behind it gives eight.
-/

namespace DataSafe.Events

open Base Metadata

def crockford : List Char := "0123456789ABCDEFGHJKMNPQRSTVWXYZ".toList

def crockfordLetter (digit : Nat) : Char := crockford.getD digit '0'

/-- The indices into `crockford` that `encodeULID` computes. -/
def ulidDigits (id : Vector UInt8 16) : List UInt8 :=
  [(id[0] &&& 224) >>> 5, id[0] &&& 31, (id[1] &&& 248) >>> 3,
    ((id[1] &&& 7) <<< 2) ||| ((id[2] &&& 192) >>> 6),
    (id[2] &&& 62) >>> 1,
    ((id[2] &&& 1) <<< 4) ||| ((id[3] &&& 240) >>> 4),
    ((id[3] &&& 15) <<< 1) ||| ((id[4] &&& 128) >>> 7),
    (id[4] &&& 124) >>> 2,
    ((id[4] &&& 3) <<< 3) ||| ((id[5] &&& 224) >>> 5),
    id[5] &&& 31,
    (id[6] &&& 248) >>> 3,
    ((id[6] &&& 7) <<< 2) ||| ((id[7] &&& 192) >>> 6),
    (id[7] &&& 62) >>> 1,
    ((id[7] &&& 1) <<< 4) ||| ((id[8] &&& 240) >>> 4),
    ((id[8] &&& 15) <<< 1) ||| ((id[9] &&& 128) >>> 7),
    (id[9] &&& 124) >>> 2,
    ((id[9] &&& 3) <<< 3) ||| ((id[10] &&& 224) >>> 5),
    id[10] &&& 31,
    (id[11] &&& 248) >>> 3,
    ((id[11] &&& 7) <<< 2) ||| ((id[12] &&& 192) >>> 6),
    (id[12] &&& 62) >>> 1,
    ((id[12] &&& 1) <<< 4) ||| ((id[13] &&& 240) >>> 4),
    ((id[13] &&& 15) <<< 1) ||| ((id[14] &&& 128) >>> 7),
    (id[14] &&& 124) >>> 2,
    ((id[14] &&& 3) <<< 3) ||| ((id[15] &&& 224) >>> 5),
    id[15] &&& 31]

def encodeULID (id : Vector UInt8 16) : String :=
  String.ofList ((ulidDigits id).map fun digit => crockfordLetter digit.toNat)

/-- `Time.UnixMilli` -/
def unixMilli (now : Time) : Int := now / 1000000

def newULID (now : Time) (random : Vector UInt8 10) : String :=
  let ms := UInt64.ofInt (unixMilli now)
  encodeULID (#v[(ms >>> 40).toUInt8, (ms >>> 32).toUInt8,
    (ms >>> 24).toUInt8, (ms >>> 16).toUInt8, (ms >>> 8).toUInt8,
    ms.toUInt8] ++ random)

/-- An id as a number with the first byte as the highest. -/
def idNumber (id : Vector UInt8 16) : Nat :=
  numeral 256 (id.toList.map UInt8.toNat)

/-! ## Digits of five bits -/

/-- The parts of a byte that the masks and shifts take. -/
theorem byte_parts (byte : UInt8) :
    ((byte &&& 224) >>> 5).toNat = byte.toNat / 32 ∧
    (byte &&& 31).toNat = byte.toNat % 32 ∧
    ((byte &&& 248) >>> 3).toNat = byte.toNat / 8 ∧
    ((byte &&& 62) >>> 1).toNat = byte.toNat / 2 % 32 ∧
    ((byte &&& 124) >>> 2).toNat = byte.toNat / 4 % 32 ∧
    ((byte &&& 192) >>> 6).toNat = byte.toNat / 64 ∧
    ((byte &&& 240) >>> 4).toNat = byte.toNat / 16 ∧
    ((byte &&& 128) >>> 7).toNat = byte.toNat / 128 ∧
    ((byte &&& 7) <<< 2).toNat = 2 ^ 2 * (byte.toNat % 8) ∧
    ((byte &&& 1) <<< 4).toNat = 2 ^ 4 * (byte.toNat % 2) ∧
    ((byte &&& 15) <<< 1).toNat = 2 ^ 1 * (byte.toNat % 16) ∧
    ((byte &&& 3) <<< 3).toNat = 2 ^ 3 * (byte.toNat % 4) := by
  rw [← UInt8.ofNat_toNat (x := byte)]
  have below := byte.toNat_lt
  generalize byte.toNat = number at below
  revert number
  decide +kernel

theorem toNat_or
    {high low : UInt8} {width part : Nat}
    (shifted : high.toNat = 2 ^ width * part) (small : low.toNat < 2 ^ width) :
    (high ||| low).toNat = 2 ^ width * part + low.toNat := by
  rw [UInt8.toNat_or, shifted, Nat.two_pow_add_eq_or_of_lt small]

/-- The eight digits of five bytes. -/
def group (a b c d e : UInt8) : List UInt8 :=
  [(a &&& 248) >>> 3, ((a &&& 7) <<< 2) ||| ((b &&& 192) >>> 6),
    (b &&& 62) >>> 1, ((b &&& 1) <<< 4) ||| ((c &&& 240) >>> 4),
    ((c &&& 15) <<< 1) ||| ((d &&& 128) >>> 7), (d &&& 124) >>> 2,
    ((d &&& 3) <<< 3) ||| ((e &&& 224) >>> 5), e &&& 31]

theorem group_digits (a b c d e : UInt8) :
    (group a b c d e).map UInt8.toNat =
      [a.toNat / 8, 4 * (a.toNat % 8) + b.toNat / 64, b.toNat / 2 % 32,
        16 * (b.toNat % 2) + c.toNat / 16,
        2 * (c.toNat % 16) + d.toNat / 128, d.toNat / 4 % 32,
        8 * (d.toNat % 4) + e.toNat / 32, e.toNat % 32] := by
  rcases byte_parts a with ⟨-, -, a8, -, -, -, -, -, a7, -, -, -⟩
  rcases byte_parts b with ⟨-, -, -, b62, -, b192, -, -, -, b1, -, -⟩
  rcases byte_parts c with ⟨-, -, -, -, -, -, c240, -, -, -, c15, -⟩
  rcases byte_parts d with ⟨-, -, -, -, d124, -, -, d128, -, -, -, d3⟩
  rcases byte_parts e with ⟨e224, e31, -, -, -, -, -, -, -, -, -, -⟩
  have bBound := b.toNat_lt
  have cBound := c.toNat_lt
  have dBound := d.toNat_lt
  have eBound := e.toNat_lt
  simp only [group, List.map_cons, a8, b62, d124, e31,
    toNat_or a7 (by omega : ((b &&& 192) >>> 6).toNat < 2 ^ 2),
    toNat_or b1 (by omega : ((c &&& 240) >>> 4).toNat < 2 ^ 4),
    toNat_or c15 (by omega : ((d &&& 128) >>> 7).toNat < 2 ^ 1),
    toNat_or d3 (by omega : ((e &&& 224) >>> 5).toNat < 2 ^ 3), b192, c240,
    d128, e224]
  rfl

theorem group_spec (a b c d e : UInt8) :
    (∀ digit ∈ (group a b c d e).map UInt8.toNat, digit < 32) ∧
      numeral 32 ((group a b c d e).map UInt8.toNat) =
        numeral 256 ([a, b, c, d, e].map UInt8.toNat) := by
  have aBound := a.toNat_lt
  have bBound := b.toNat_lt
  have cBound := c.toNat_lt
  have dBound := d.toNat_lt
  have eBound := e.toNat_lt
  rw [group_digits]
  constructor
  · simp only [List.forall_mem_cons, List.not_mem_nil, false_imp_iff,
      implies_true, and_true]
    omega
  · simp only [numeral, Nat.ofDigits_cons, Nat.ofDigits_nil, List.map_cons,
      List.map_nil, List.reverse_cons, List.reverse_nil, List.nil_append,
      List.cons_append]
    omega

theorem ulidDigits_spec (id : Vector UInt8 16) :
    (∀ digit ∈ (ulidDigits id).map UInt8.toNat, digit < 32) ∧
      numeral 32 ((ulidDigits id).map UInt8.toNat) = idNumber id := by
  have digits : ulidDigits id = [(id[0] &&& 224) >>> 5, id[0] &&& 31] ++
      (group id[1] id[2] id[3] id[4] id[5] ++
        (group id[6] id[7] id[8] id[9] id[10] ++
          group id[11] id[12] id[13] id[14] id[15])) := rfl
  have bytes : id.toList = [id[0]] ++ ([id[1], id[2], id[3], id[4], id[5]] ++
      ([id[6], id[7], id[8], id[9], id[10]] ++
        [id[11], id[12], id[13], id[14], id[15]])) := by
    apply List.ext_getElem (by simp)
    intro index inside _
    simp only [Vector.length_toList] at inside
    interval_cases index <;> simp
  rcases byte_parts id[0] with ⟨top, rest, -⟩
  rcases group_spec id[1] id[2] id[3] id[4] id[5] with ⟨small₁, same₁⟩
  rcases group_spec id[6] id[7] id[8] id[9] id[10] with ⟨small₂, same₂⟩
  rcases group_spec id[11] id[12] id[13] id[14] id[15] with ⟨small₃, same₃⟩
  have bound := id[0].toNat_lt
  have first : numeral 32 [id[0].toNat / 32, id[0].toNat % 32] =
      numeral 256 [id[0].toNat] := by
    simp [numeral, Nat.ofDigits_cons]
    omega
  rw [idNumber, digits, bytes]
  simp only [List.map_append, List.forall_mem_append, numeral_append, same₁,
    same₂, same₃]
  simp only [List.map_cons, List.map_nil, top, rest, first]
  refine ⟨⟨?_, small₁, small₂, small₃⟩, ?_⟩
  · simp only [List.forall_mem_cons, List.not_mem_nil, false_imp_iff,
      implies_true, and_true]
    omega
  · -- Five bytes and eight digits have as many bits.
    simp only [group]
    norm_num

theorem crockfordLetter_rising :
    StrictMonoOn crockfordLetter (Set.Iio 32) := by
  have table : ∀ high < 32, ∀ low < high,
      crockfordLetter low < crockfordLetter high := by decide +kernel
  intro low _ high inside less
  exact table high inside low less

theorem encodeULID_lt_iff (left right : Vector UInt8 16) :
    encodeULID left < encodeULID right ↔ idNumber left < idNumber right := by
  rcases ulidDigits_spec left with ⟨leftSmall, leftNumber⟩
  rcases ulidDigits_spec right with ⟨rightSmall, rightNumber⟩
  have order := map_lt_map_iff_numeral (by decide) crockfordLetter_rising
    (by simp [ulidDigits]) leftSmall rightSmall
  rw [leftNumber, rightNumber] at order
  rw [String.lt_iff_toList_lt, encodeULID, encodeULID, String.toList_ofList,
    String.toList_ofList]
  exact order

theorem byte_digit_lt (bytes : List UInt8) :
    ∀ digit ∈ bytes.map UInt8.toNat, digit < 256 := by
  rw [List.forall_mem_map]
  exact fun byte _ => byte.toNat_lt

theorem encodeULID_injective : Function.Injective encodeULID := by
  intro left right same
  have numbers : idNumber left = idNumber right := by
    apply Nat.le_antisymm <;>
      rw [← Nat.not_lt, ← encodeULID_lt_iff, same] <;>
      exact lt_irrefl _
  have bytes := List.reverse_injective (Nat.ofDigits_inj_of_len_eq
    (by decide) (by simp)
    (fun digit member => byte_digit_lt _ digit (List.mem_reverse.mp member))
    (fun digit member => byte_digit_lt _ digit (List.mem_reverse.mp member))
    numbers)
  have entries : left.toList = right.toList :=
    List.map_injective_iff.mpr (fun _ _ => UInt8.toNat_inj.mp) bytes
  exact Vector.toList_inj.mp entries

/-! ## Ids of two times -/

/-- The first six bytes of an id hold the milliseconds. -/
theorem clock_bytes (ms : UInt64) (fits : ms.toNat < 2 ^ 48) :
    numeral 256 ([(ms >>> 40).toUInt8, (ms >>> 32).toUInt8,
      (ms >>> 24).toUInt8, (ms >>> 16).toUInt8, (ms >>> 8).toUInt8,
      ms.toUInt8].map UInt8.toNat) = ms.toNat := by
  simp [numeral, Nat.ofDigits_cons]
  omega

/-- The milliseconds stand above the random bytes. -/
theorem newULID_number
    {now : Time} (random : Vector UInt8 10) (since : 0 ≤ unixMilli now)
    (fits : unixMilli now < 2 ^ 48) :
    ∃ id, newULID now random = encodeULID id ∧
      idNumber id = (unixMilli now).toNat * 256 ^ 10 +
        numeral 256 (random.toList.map UInt8.toNat) := by
  have ms : (UInt64.ofInt (unixMilli now)).toNat = (unixMilli now).toNat := by
    rw [UInt64.ofInt, UInt64.toNat_ofNat']
    omega
  refine ⟨_, rfl, ?_⟩
  rw [idNumber, Vector.toList_append, List.map_append, numeral_append]
  have clock := clock_bytes (UInt64.ofInt (unixMilli now)) (by omega)
  rw [ms] at clock
  simp [← clock]

/--
The texts of two ids are ordered like the ids, so that no two ids have one
text, and an id made at an earlier millisecond sorts before a later one.
-/
theorem ulid_order :
    (∀ left right : Vector UInt8 16, encodeULID left < encodeULID right ↔
        idNumber left < idNumber right) ∧
    Function.Injective encodeULID ∧
    ∀ (earlier later : Time) (random other : Vector UInt8 10),
      0 ≤ unixMilli earlier → unixMilli earlier < unixMilli later →
      unixMilli later < 2 ^ 48 →
      newULID earlier random < newULID later other := by
  refine ⟨encodeULID_lt_iff, encodeULID_injective, ?_⟩
  intro earlier later random other since less fits
  rcases newULID_number random since (by omega) with ⟨left, made, low⟩
  rcases newULID_number other (by omega) fits with ⟨right, remade, high⟩
  have bound : numeral 256 (random.toList.map UInt8.toNat) < 256 ^ 10 := by
    simpa using numeral_lt (by decide) (byte_digit_lt random.toList)
  rw [made, remade, encodeULID_lt_iff]
  omega

/-- The random bytes of an earlier id do not lift it above a later one. -/
theorem next_millisecond_sorts_behind :
    newULID 0 (.replicate 10 255) < newULID 1000000 (.replicate 10 0) :=
  ulid_order.2.2 0 1000000 _ _ (by decide) (by decide) (by decide)

end DataSafe.Events
