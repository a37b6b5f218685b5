import DataSafe.Base.ByteSource

/-!
# Hexadecimal and percent codes

Bytes written with two hexadecimal digits each, and texts in which all bytes
but the plain ones are written so behind a percent sign.  Reading either code
gives back what was written, so both are injective.
-/

namespace DataSafe.Base

/-! ## Digits -/

def lowerDigit (digit : Nat) : UInt8 :=
  if digit < 10 then UInt8.ofNat (48 + digit) else UInt8.ofNat (87 + digit)

def upperDigit (digit : Nat) : UInt8 :=
  if digit < 10 then UInt8.ofNat (48 + digit) else UInt8.ofNat (55 + digit)

/-- The value of a digit in either case. -/
def digitValue (byte : UInt8) : Option Nat :=
  if 48 ≤ byte ∧ byte ≤ 57 then some (byte.toNat - 48)
  else if 97 ≤ byte ∧ byte ≤ 102 then some (byte.toNat - 87)
  else if 65 ≤ byte ∧ byte ≤ 70 then some (byte.toNat - 55)
  else none

theorem digitValue_lowerDigit :
    ∀ digit < 16, digitValue (lowerDigit digit) = some digit := by
  decide

theorem digitValue_upperDigit :
    ∀ digit < 16, digitValue (upperDigit digit) = some digit := by
  decide

/-- Two digits make a byte. -/
def digitPair (high low : UInt8) : Option UInt8 := do
  let high ← digitValue high
  let low ← digitValue low
  return UInt8.ofNat (16 * high + low)

theorem ofNat_digits (byte : UInt8) :
    UInt8.ofNat (16 * (byte.toNat / 16) + byte.toNat % 16) = byte := by
  rw [Nat.div_add_mod, UInt8.ofNat_toNat]

theorem digits_lt (byte : UInt8) :
    byte.toNat / 16 < 16 ∧ byte.toNat % 16 < 16 := by
  have bound := byte.toNat_lt
  omega

theorem digitPair_lower (byte : UInt8) :
    digitPair (lowerDigit (byte.toNat / 16)) (lowerDigit (byte.toNat % 16)) =
      some byte := by
  obtain ⟨high, low⟩ := digits_lt byte
  rw [digitPair, digitValue_lowerDigit _ high, digitValue_lowerDigit _ low]
  exact congrArg some (ofNat_digits byte)

theorem digitPair_upper (byte : UInt8) :
    digitPair (upperDigit (byte.toNat / 16)) (upperDigit (byte.toNat % 16)) =
      some byte := by
  obtain ⟨high, low⟩ := digits_lt byte
  rw [digitPair, digitValue_upperDigit _ high, digitValue_upperDigit _ low]
  exact congrArg some (ofNat_digits byte)

/-! ## Hexadecimal texts -/

/-- Two lower-case digits for each byte. -/
def hexText (bytes : Bytes) : Bytes :=
  bytes.flatMap (fun byte =>
    [lowerDigit (byte.toNat / 16), lowerDigit (byte.toNat % 16)])

/-- The bytes that pairs of digits stand for. -/
def readHex : Bytes → Option Bytes
  | [] => some []
  | [_] => none
  | high :: low :: rest => do
    let byte ← digitPair high low
    let bytes ← readHex rest
    return byte :: bytes

theorem readHex_hexText (bytes : Bytes) :
    readHex (hexText bytes) = some bytes := by
  induction bytes with
  | nil => rfl
  | cons byte bytes induction =>
    rw [hexText] at induction
    rw [hexText, List.flatMap_cons, List.cons_append, List.cons_append,
      List.nil_append, readHex, digitPair_lower, induction]
    rfl

theorem notMem_hexText
    {byte : UInt8} (other : ∀ digit < 16, byte ≠ lowerDigit digit)
    (bytes : Bytes) : byte ∉ hexText bytes := by
  simp only [hexText, List.mem_flatMap, not_exists, not_and]
  intro code _
  simp [other _ (digits_lt code).1, other _ (digits_lt code).2]

theorem hexText_injective : Function.Injective hexText := by
  intro left right same
  have read := readHex_hexText left
  rw [same, readHex_hexText] at read
  exact (Option.some.inj read).symm

/-! ## Percent codes -/

section Percent

variable (plain : UInt8 → Bool)

/-- One byte of a percent code. -/
def percentByte (byte : UInt8) : Bytes :=
  if plain byte then [byte]
  else [37, upperDigit (byte.toNat / 16), upperDigit (byte.toNat % 16)]

/-- Write all bytes but the plain ones as percent codes. -/
def percentEncode (bytes : Bytes) : Bytes :=
  bytes.flatMap (percentByte plain)

end Percent

/-- Read percent codes; other bytes stand for themselves. -/
def percentDecode : Bytes → Option Bytes
  | [] => some []
  | 37 :: high :: low :: rest => do
    let byte ← digitPair high low
    let bytes ← percentDecode rest
    return byte :: bytes
  | byte :: rest =>
    if byte = 37 then none
    else do
      let bytes ← percentDecode rest
      return byte :: bytes

theorem percentDecode_cons_of_ne
    {byte : UInt8} (other : byte ≠ 37) (rest : Bytes) :
    percentDecode (byte :: rest) = (percentDecode rest).map (byte :: ·) := by
  rw [percentDecode.eq_3 byte rest (fun _ _ _ percent => absurd percent other),
    if_neg other]
  cases percentDecode rest <;> rfl

variable {plain : UInt8 → Bool}

theorem percentDecode_percentEncode
    (escaped : plain 37 = false) (bytes : Bytes) :
    percentDecode (percentEncode plain bytes) = some bytes := by
  induction bytes with
  | nil => rfl
  | cons byte bytes induction =>
    rw [percentEncode] at induction
    rw [percentEncode, List.flatMap_cons, percentByte]
    by_cases kept : plain byte = true
    · have other : byte ≠ 37 := by
        rintro rfl
        exact absurd kept (by simp [escaped])
      rw [if_pos kept, List.singleton_append,
        percentDecode_cons_of_ne other, induction]
      rfl
    · rw [if_neg kept, List.cons_append, List.cons_append, List.cons_append,
        List.nil_append, percentDecode, digitPair_upper, induction]
      rfl

theorem percentEncode_injective
    (escaped : plain 37 = false) :
    Function.Injective (percentEncode plain) := by
  intro left right same
  have decoded := percentDecode_percentEncode escaped left
  rw [same, percentDecode_percentEncode escaped] at decoded
  exact (Option.some.inj decoded).symm

theorem upperDigit_between :
    ∀ digit < 16, 48 ≤ upperDigit digit ∧ upperDigit digit ≤ 57 ∨
      65 ≤ upperDigit digit ∧ upperDigit digit ≤ 70 := by
  decide

/-- The bytes of a percent code: plain ones, percent signs and digits. -/
theorem mem_percentEncode
    {bytes : Bytes} {byte : UInt8}
    (member : byte ∈ percentEncode plain bytes) :
    plain byte = true ∨ byte = 37 ∨ (48 ≤ byte ∧ byte ≤ 57) ∨
      (65 ≤ byte ∧ byte ≤ 70) := by
  obtain ⟨source, -, found⟩ := List.mem_flatMap.mp member
  rw [percentByte] at found
  by_cases kept : plain source = true
  · rw [if_pos kept, List.mem_singleton] at found
    exact .inl (found ▸ kept)
  · obtain ⟨high, low⟩ := digits_lt source
    rw [if_neg kept, List.mem_cons, List.mem_cons, List.mem_singleton]
      at found
    rcases found with rfl | rfl | rfl
    · exact .inr (.inl rfl)
    · exact .inr (.inr (upperDigit_between _ high))
    · exact .inr (.inr (upperDigit_between _ low))

end DataSafe.Base
