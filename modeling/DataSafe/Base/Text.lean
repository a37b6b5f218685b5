import Mathlib.Data.List.Basic

/-!
# Texts

The functions of the package `strings` that compare names: trimming of white
space, prefixes, suffixes and occurrences, and the comparison without regard
to case.  Case mapping is that of Unicode as far as it yields ASCII letters.
-/

namespace DataSafe.Base

/-- `unicode.IsSpace` -/
def isSpaceRune (rune : Char) : Bool :=
  let code := rune.toNat
  (9 ≤ code && code ≤ 13) || code == 0x20 || code == 0x85 ||
    code == 0xa0 || code == 0x1680 || (0x2000 ≤ code && code ≤ 0x200a) ||
    code == 0x2028 || code == 0x2029 || code == 0x202f ||
    code == 0x205f || code == 0x3000

/-- `strings.TrimSpace` -/
def trimText (text : String) : String :=
  String.ofList (((text.toList.dropWhile isSpaceRune).reverse.dropWhile
      isSpaceRune).reverse)

/-- `strings.HasPrefix` -/
def startsWith (start text : String) : Bool :=
  start.toList.isPrefixOf text.toList

/-- `strings.HasSuffix` -/
def endsWith (ending text : String) : Bool :=
  ending.toList.isSuffixOf text.toList

/-- `strings.Contains` -/
def includes (part text : String) : Bool :=
  text.toList.tails.any (part.toList.isPrefixOf ·)

/-- The fold of `strings.EqualFold` with ASCII texts. -/
def foldCase (rune : Char) : Char :=
  if rune = '\u017f' then 'S'
  else if rune = '\u212a' then 'K'
  else if 'a' ≤ rune ∧ rune ≤ 'z' then Char.ofNat (rune.toNat - 32)
  else rune

/-- `strings.EqualFold` -/
def equalFoldText (left right : String) : Bool :=
  decide (left.toList.map foldCase = right.toList.map foldCase)

/-- `unicode.ToLower` as far as its result is an ASCII letter. -/
def lowerCase (rune : Char) : Char :=
  if rune = '\u0130' then 'i'
  else if rune = '\u212a' then 'k'
  else if 'A' ≤ rune ∧ rune ≤ 'Z' then Char.ofNat (rune.toNat + 32)
  else rune

/-- `strings.ToLower` -/
def lowerText (text : String) : String :=
  String.ofList (text.toList.map lowerCase)

end DataSafe.Base
