import DataSafe.Base.Percent
import Mathlib.Data.List.Induction
import Mathlib.Data.List.TakeWhile

/-!
# Texts of requests

The strings of a request are bytes.  The functions here are those of the
package `strings` that signing uses, on bytes: trimming of white space in its
UTF-8 encodings, and the case mapping as far as it yields letters of header
names.  Query strings are parsed as `net/url` parses them, with malformed
pairs left out.
-/

namespace DataSafe.Auth

open Base

/-- The bytes of an ASCII literal. -/
def ascii (text : String) : Bytes :=
  text.toList.map (fun rune => UInt8.ofNat rune.toNat)

/-- The line feed. -/
def lineFeed : UInt8 := 10

/-! ## Cutting -/

/-- `strings.Cut` at one byte. -/
def cut (separator : UInt8) (text : Bytes) : Bytes × Bytes :=
  (text.takeWhile (· ≠ separator), (text.dropWhile (· ≠ separator)).drop 1)

variable {text : Bytes} {byte : UInt8}

theorem cut_of_notMem
    {separator : UInt8} (absent : separator ∉ text) :
    cut separator text = (text, []) := by
  have other : ∀ byte ∈ text, decide (byte ≠ separator) = true := by
    intro byte member
    exact decide_eq_true (fun same => absent (same ▸ member))
  rw [cut, List.takeWhile_eq_self_iff.mpr other,
    List.dropWhile_eq_nil_iff.mpr other, List.drop_nil]

theorem cut_append
    {separator : UInt8} {front : Bytes} (absent : separator ∉ front)
    (back : Bytes) : cut separator (front ++ separator :: back) =
      (front, back) := by
  have other : ∀ byte ∈ front, decide (byte ≠ separator) = true := by
    intro byte member
    exact decide_eq_true (fun same => absent (same ▸ member))
  rw [cut, List.takeWhile_append_of_pos other,
    List.dropWhile_append_of_pos other]
  simp

/-! ## White space -/

/-- The encodings of the runes that `unicode.IsSpace` takes. -/
def spaceRunes : List Bytes :=
  [[9], [10], [11], [12], [13], [32], [0xC2, 0x85], [0xC2, 0xA0],
    [0xE1, 0x9A, 0x80], [0xE2, 0x80, 0x80], [0xE2, 0x80, 0x81],
    [0xE2, 0x80, 0x82], [0xE2, 0x80, 0x83], [0xE2, 0x80, 0x84],
    [0xE2, 0x80, 0x85], [0xE2, 0x80, 0x86], [0xE2, 0x80, 0x87],
    [0xE2, 0x80, 0x88], [0xE2, 0x80, 0x89], [0xE2, 0x80, 0x8A],
    [0xE2, 0x80, 0xA8], [0xE2, 0x80, 0xA9], [0xE2, 0x80, 0xAF],
    [0xE2, 0x81, 0x9F], [0xE3, 0x80, 0x80]]

/-- The length of the rune of `runes` that the text starts with. -/
def leadingRune (runes : List Bytes) (text : Bytes) : Nat :=
  match runes.find? (fun rune => rune.isPrefixOf text) with
  | some rune => rune.length
  | none => 0

/-- Drop `skip` bytes and then all leading `runes`. -/
def trimRunes (runes : List Bytes) : Nat → Bytes → Bytes
  | _, [] => []
  | skip + 1, _ :: rest => trimRunes runes skip rest
  | 0, byte :: rest =>
    match leadingRune runes (byte :: rest) with
    | 0 => byte :: rest
    | more + 1 => trimRunes runes more rest

/-- `strings.TrimSpace` -/
def trimSpace (text : Bytes) : Bytes :=
  (trimRunes (spaceRunes.map List.reverse) 0
    (trimRunes spaceRunes 0 text).reverse).reverse

theorem trimRunes_suffix
    (runes : List Bytes) (skip : Nat) (text : Bytes) :
    trimRunes runes skip text <:+ text := by
  induction text generalizing skip with
  | nil => cases skip <;> exact List.suffix_refl _
  | cons byte rest induction =>
    cases skip with
    | succ skip =>
      exact (induction skip).trans (List.suffix_cons byte rest)
    | zero =>
      rw [trimRunes]
      cases leadingRune runes (byte :: rest) with
      | zero => exact List.suffix_refl _
      | succ more =>
        exact (induction more).trans (List.suffix_cons byte rest)

theorem mem_of_mem_trimSpace
    (member : byte ∈ trimSpace text) :
    byte ∈ text := by
  rw [trimSpace, List.mem_reverse] at member
  have back := (trimRunes_suffix _ _ _).subset member
  rw [List.mem_reverse] at back
  exact (trimRunes_suffix _ _ _).subset back

theorem leadingRune_leads
    {runes : List Bytes} {more : Nat}
    (found : leadingRune runes text = more + 1) :
    ∃ rune ∈ runes, rune <+: text ∧ rune.length = more + 1 := by
  rw [leadingRune] at found
  cases picked : runes.find? (fun rune => rune.isPrefixOf text) with
  | none =>
    rw [picked] at found
    cases found
  | some rune =>
    rw [picked] at found
    have accepted := List.find?_some picked
    exact ⟨rune, List.mem_of_find?_eq_some picked,
      List.isPrefixOf_iff_prefix.mp accepted, found⟩

/-- A byte that is in no rune survives the trimming. -/
theorem mem_trimRunes
    {runes : List Bytes} (outside : ∀ rune ∈ runes, byte ∉ rune) {skip : Nat}
    (kept : byte ∉ text.take skip) (member : byte ∈ text) :
    byte ∈ trimRunes runes skip text := by
  induction text generalizing skip with
  | nil => cases member
  | cons head rest induction =>
    cases skip with
    | succ skip =>
      rcases List.mem_cons.mp member with rfl | member
      · exact absurd List.mem_cons_self kept
      · exact induction (fun taken => kept (.tail _ taken)) member
    | zero =>
      rw [trimRunes]
      cases found : leadingRune runes (head :: rest) with
      | zero => exact member
      | succ more =>
        obtain ⟨rune, known, leads, size⟩ := leadingRune_leads found
        have taken : (head :: rest).take (more + 1) = rune := by
          rw [← size]
          exact (List.prefix_iff_eq_take.mp leads).symm
        have apart := outside rune known
        rw [← taken] at apart
        rcases List.mem_cons.mp member with rfl | member
        · exact absurd List.mem_cons_self apart
        · exact induction (fun inside => apart (.tail _ inside)) member

/-- A last byte that is in no white space stays the last one. -/
theorem getLast_trimSpace
    (outside : ∀ rune ∈ spaceRunes, byte ∉ rune) (text : Bytes) :
    (trimSpace (text ++ [byte])).getLast? = some byte := by
  have member : byte ∈ trimRunes spaceRunes 0 (text ++ [byte]) :=
    mem_trimRunes outside List.not_mem_nil
      (List.mem_append_right text List.mem_cons_self)
  obtain ⟨front, whole⟩ := trimRunes_suffix spaceRunes 0 (text ++ [byte])
  cases kept : trimRunes spaceRunes 0 (text ++ [byte]) using
      List.reverseRecOn with
  | nil =>
    rw [kept] at member
    cases member
  | append_singleton body last =>
    rw [kept, ← List.append_assoc] at whole
    have sameLast : last = byte :=
      List.singleton_inj.mp (List.append_inj' whole rfl).2
    have stays : leadingRune (spaceRunes.map List.reverse)
        (byte :: body.reverse) = 0 := by
      by_contra leads
      obtain ⟨more, found⟩ := Nat.exists_eq_succ_of_ne_zero leads
      obtain ⟨rune, known, leading, size⟩ := leadingRune_leads found
      obtain ⟨source, present, rfl⟩ := List.mem_map.mp known
      have inside : byte ∈ source.reverse := by
        cases reversed : source.reverse with
        | nil =>
          rw [reversed] at size
          cases size
        | cons head rest =>
          rw [reversed, List.cons_prefix_cons] at leading
          exact leading.1 ▸ List.mem_cons_self
      exact outside source present (List.mem_reverse.mp inside)
    rw [trimSpace, kept, sameLast, List.reverse_append,
      List.reverse_singleton, List.singleton_append, trimRunes, stays]
    simp

/-! ## Case -/

/-- The lower case of an ASCII letter. -/
def lowerByte (byte : UInt8) : UInt8 :=
  if 65 ≤ byte ∧ byte ≤ 90 then byte + 32 else byte

/-- `strings.ToLower`, up to runes whose lower case is not ASCII. -/
def toLower : Bytes → Bytes
  | [] => []
  -- The Kelvin sign and the dotted capital I have ASCII lower case.
  | 0xE2 :: 0x84 :: 0xAA :: rest => 107 :: toLower rest
  | 0xC4 :: 0xB0 :: rest => 105 :: toLower rest
  | byte :: rest => lowerByte byte :: toLower rest

/-! ## Query strings -/

/-- `url.QueryUnescape` -/
def queryUnescape (text : Bytes) : Option Bytes :=
  percentDecode (text.map (fun byte => if byte = 43 then 32 else byte))

/-- One pair of a query string. -/
def queryPair (part : Bytes) : Option (Bytes × Bytes) :=
  if 59 ∈ part then none
  else if part = [] then none
  else do
    let key ← queryUnescape (cut 61 part).1
    let value ← queryUnescape (cut 61 part).2
    return (key, value)

/-- `url.ParseQuery` with its errors dropped, as `URL.Query` does. -/
def parseQuery (raw : Bytes) : List (Bytes × Bytes) :=
  (raw.splitOn 38).filterMap queryPair

/-- `Values.Get` -/
def queryGet (pairs : List (Bytes × Bytes)) (key : Bytes) : Bytes :=
  match pairs.find? (fun pair => pair.1 = key) with
  | some pair => pair.2
  | none => []

end DataSafe.Auth
