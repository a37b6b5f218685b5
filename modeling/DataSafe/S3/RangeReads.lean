import DataSafe.Api.ReplicaRequests
import Mathlib.Data.List.TakeWhile

/-!
# Reads of ranges

`ParseRange` reads the header `Range` for an object of some size, and
`serveObject` sends the bytes of the range, or the status 416 if the header is
not understood.  The parser never compares the first position with the size,
and takes for granted that a first position has a dash behind it.

The result says for which headers and sizes the parser returns and its ranges
lie in the object, and that `serveObject` then sends their bytes.
-/

namespace DataSafe.S3

open DataSafe.Api (parseInt64)
open Base

/-! ## The parser -/

inductive RangeResult where
  | panicked
  | invalid
  | ok (start stop : Int)
deriving DecidableEq

/-- The suffix form: the last bytes of the object. -/
def parseSuffix (text : String) (size : Int) : RangeResult :=
  match parseInt64 text with
  | none => .invalid
  | some count =>
    if count ≤ 0 then .invalid
    else .ok (size - if size < count then size else count) (size - 1)

/-- The last position, given what stands behind the first dash. -/
def parseStop (start : Int) (text : String) (size : Int) : RangeResult :=
  if text = "" then .ok start (size - 1)
  else
    match parseInt64 text with
    | none => .invalid
    | some stop =>
      if stop < start then .invalid
      else .ok start (if size ≤ stop then size - 1 else stop)

/-- The form with a first position. -/
def parsePositions (spec : List Char) (size : Int) : RangeResult :=
  match parseInt64 (String.ofList (spec.takeWhile (· ≠ '-'))) with
  | none => .invalid
  | some start =>
    if start < 0 then .invalid
    else
      match spec.dropWhile (· ≠ '-') with
      -- The split has one part only, and its second part is looked at.
      | [] => .panicked
      | _ :: text => parseStop start (String.ofList text) size

/-- The text that announces a range of bytes. -/
def bytesUnit : List Char := "bytes=".toList

/-- `ParseRange` -/
def parseRange (header : String) (size : Int) : RangeResult :=
  if header = "" then .ok 0 (size - 1)
  else if bytesUnit <+: header.toList then
    match header.toList.drop bytesUnit.length with
    | '-' :: text => parseSuffix (String.ofList text) size
    | spec => parsePositions spec size
  else .invalid

/-- `ContentRange` -/
def contentRange (start stop total : Int) : String :=
  "bytes " ++ toString start ++ "-" ++ toString stop ++ "/" ++ toString total

/-! ## Serving an object -/

/-- What an object is read from: a file, or a stream that cannot seek. -/
inductive ObjectReader where
  | file (data : Bytes)
  | stream (source : Source)

def ObjectReader.content : ObjectReader → Bytes
  | .file data => data
  | .stream source => source.content

/-- Seek to a position, or read and drop what stands before it. -/
def ObjectReader.skip (start : Int) : ObjectReader → Source
  | .file data => Source.ofBytes (data.drop start.toNat)
  | .stream source => (source.readFull start.toNat).rest

/-- The part of a response that depends on the range. -/
structure RangeResponse where
  status : Nat
  contentRange : Option String := none
  contentLength : Option Int := none
  body : Bytes := []
deriving DecidableEq

/-- `serveObject` for an object that is open; nothing if it panics. -/
def serveObject (header : String) (size : Int) (reader : ObjectReader) :
    Option RangeResponse :=
  match parseRange header size with
  | .panicked => none
  | .invalid => some { status := 416 }
  | .ok start stop =>
    if header = "" then
      some
        { status := 200
          contentLength := some size
          body := reader.content }
    else
      let length := stop - start + 1
      some
        { status := 206
          contentRange := some (contentRange start stop size)
          contentLength := some length
          body := ((reader.skip start).readFull length.toNat).data }

/-! ## Ranges in the object -/

/-- The bytes from one position up to another. -/
def bytesBetween (content : Bytes) (start stop : Int) : Bytes :=
  (content.drop start.toNat).take (stop - start + 1).toNat

/-- A header is read safely and exactly for objects of this size. -/
structure RangeExact (header : String) (size : Nat) : Prop where
  returns : parseRange header size ≠ .panicked
  bounds : header ≠ "" → ∀ start stop,
    parseRange header size = .ok start stop →
      0 ≤ start ∧ start ≤ stop ∧ stop < size
  served : header ≠ "" → ∀ start stop,
    parseRange header size = .ok start stop →
      ∀ reader : ObjectReader, reader.content.length = size →
        serveObject header size reader = some
            { status := 206
              contentRange := some (contentRange start stop size)
              contentLength := some (stop - start + 1)
              body := bytesBetween reader.content start stop }
  refused : (∀ start stop, parseRange header size ≠ .ok start stop) →
    ∀ reader, serveObject header size reader = some { status := 416 }

/-- A header that the parser misreads for objects of this size. -/
inductive Misread (size : Nat) : String → Prop where
  /-- A position without a dash behind it. -/
  | undashed (text : String) (position : Int)
      (plain : '-' ∉ text.toList)
      (parsed : parseInt64 text = some position) :
      Misread size ("bytes=" ++ text)
  /-- A first position behind the end of the object. -/
  | beyond (first last : String) (position : Int)
      (plain : '-' ∉ first.toList)
      (parsed : parseInt64 first = some position)
      (outside : size ≤ position)
      (ordered : last = "" ∨
        ∃ stop, parseInt64 last = some stop ∧ position ≤ stop) :
      Misread size ("bytes=" ++ first ++ "-" ++ last)
  /-- The last bytes of an empty object. -/
  | suffix (text : String) (count : Int)
      (parsed : parseInt64 text = some count) (positive : 0 < count)
      (empty : size = 0) :
      Misread size ("bytes=-" ++ text)

/-! ## The forms of a header -/

theorem parseInt64_nonneg {text : String} {number : Int}
    (plain : '-' ∉ text.toList) (parsed : parseInt64 text = some number) :
    0 ≤ number := by
  unfold Api.parseInt64 at parsed
  split at parsed
  · rename_i digits spelled
    rw [spelled] at plain
    exact absurd List.mem_cons_self plain
  · simp only [Option.bind_eq_bind, Option.bind_eq_some_iff,
      Option.ite_none_right_eq_some, Option.some.injEq] at parsed
    obtain ⟨value, -, -, rfl⟩ := parsed
    exact Int.natCast_nonneg value
  · simp only [Option.bind_eq_bind, Option.bind_eq_some_iff,
      Option.ite_none_right_eq_some, Option.some.injEq] at parsed
    obtain ⟨value, -, -, rfl⟩ := parsed
    exact Int.natCast_nonneg value

/-- The parser behind the unit. -/
theorem parseRange_unit (text : String) (size : Int) :
    parseRange ("bytes=" ++ text) size =
      match text.toList with
      | '-' :: text => parseSuffix (String.ofList text) size
      | spec => parsePositions spec size := by
  have spelled : ("bytes=" ++ text).toList = bytesUnit ++ text.toList := by
    rw [String.toList_append]
    rfl
  have given : "bytes=" ++ text ≠ "" := by
    intro none
    have listed := congrArg String.toList none
    rw [spelled] at listed
    cases listed
  rw [parseRange, if_neg given, spelled, if_pos (List.prefix_append _ _),
    List.drop_left]

theorem parseRange_suffix (text : String) (size : Int) :
    parseRange ("bytes=-" ++ text) size = parseSuffix text size := by
  have split : "bytes=-" ++ text = "bytes=" ++ ("-" ++ text) := by
    rfl
  have spelled : ("-" ++ text).toList = '-' :: text.toList := by
    rw [String.toList_append]
    rfl
  rw [split, parseRange_unit]
  simp

/-- The forms that do not begin with a dash. -/
theorem parseRange_positions {text : String}
    (other : text.toList.head? ≠ some '-') (size : Int) :
    parseRange ("bytes=" ++ text) size = parsePositions text.toList size := by
  rw [parseRange_unit]
  cases spelled : text.toList with
  | nil => rfl
  | cons rune rest =>
    rw [spelled] at other
    split
    · rename_i shape
      cases shape
      simp at other
    · rfl

theorem parseRange_undashed {text : String} (plain : '-' ∉ text.toList)
    (size : Int) :
    parseRange ("bytes=" ++ text) size =
      if (parseInt64 text).isSome then .panicked else .invalid := by
  have whole : text.toList.takeWhile (· ≠ '-') = text.toList := by
    rw [List.takeWhile_eq_self_iff]
    intro rune listed
    exact decide_eq_true (fun dash => plain (dash ▸ listed))
  have nothing : text.toList.dropWhile (· ≠ '-') = [] := by
    rw [List.dropWhile_eq_nil_iff]
    intro rune listed
    exact decide_eq_true (fun dash => plain (dash ▸ listed))
  rw [parseRange_positions (fun first => plain
    (List.mem_of_mem_head? first)), parsePositions, whole, nothing,
    String.ofList_toList]
  cases parsed : parseInt64 text with
  | none => rfl
  | some position =>
    simp [not_lt.mpr (parseInt64_nonneg plain parsed)]

theorem parseRange_dashed {first last : String} (plain : '-' ∉ first.toList)
    (named : first ≠ "") (size : Int) :
    parseRange ("bytes=" ++ first ++ "-" ++ last) size =
      match parseInt64 first with
      | none => .invalid
      | some start => parseStop start last size := by
  have dashless : ∀ rune ∈ first.toList, decide (rune ≠ '-') = true :=
    fun rune listed => decide_eq_true (fun dash => plain (dash ▸ listed))
  have spelled : (first ++ "-" ++ last).toList =
      first.toList ++ '-' :: last.toList := by
    simp [String.toList_append]
  have other : (first ++ "-" ++ last).toList.head? ≠ some '-' := by
    rw [spelled]
    cases shape : first.toList with
    | nil => exact absurd (String.toList_eq_nil_iff.mp shape) named
    | cons rune rest =>
      rw [shape] at plain
      intro dash
      cases dash
      exact plain List.mem_cons_self
  have split : "bytes=" ++ first ++ "-" ++ last =
      "bytes=" ++ (first ++ "-" ++ last) := by
    simp [String.append_assoc]
  rw [split, parseRange_positions other, parsePositions, spelled,
    List.takeWhile_append_of_pos dashless,
    List.dropWhile_append_of_pos dashless]
  simp only [List.takeWhile_cons, ne_eq, not_true_eq_false, decide_false,
    Bool.false_eq_true, if_false, List.append_nil, String.ofList_toList]
  cases parsed : parseInt64 first with
  | none => rfl
  | some position =>
    simp [not_lt.mpr (parseInt64_nonneg plain parsed)]

/-- Every header has one of these forms. -/
theorem header_form (header : String) :
    header = "" ∨ (∀ size, parseRange header size = .invalid) ∨
      (∃ text, header = "bytes=-" ++ text) ∨
      (∃ text : String, '-' ∉ text.toList ∧ header = "bytes=" ++ text) ∨
      ∃ first last : String, first ≠ "" ∧ '-' ∉ first.toList ∧
        header = "bytes=" ++ first ++ "-" ++ last := by
  by_cases given : header = ""
  · exact .inl given
  · by_cases unit : bytesUnit <+: header.toList
    · obtain ⟨spec, spelled⟩ := unit
      have whole : header = "bytes=" ++ String.ofList spec := by
        rw [← String.toList_inj, ← spelled, String.toList_append,
          String.toList_ofList (l := spec)]
        rfl
      refine .inr (.inr ?_)
      by_cases plain : '-' ∈ spec
      · obtain ⟨front, rest, shape, dashless⟩ :=
          List.eq_append_cons_of_mem plain
        cases front with
        | nil =>
          refine .inl ⟨String.ofList rest, ?_⟩
          rw [whole, shape, ← String.toList_inj, String.toList_append,
            String.toList_append, String.toList_ofList (l := rest),
            String.toList_ofList (l := [] ++ '-' :: rest)]
          rfl
        | cons rune front =>
          refine .inr (.inr ⟨String.ofList (rune :: front),
            String.ofList rest, ?_, by rwa [String.toList_ofList], ?_⟩)
          · intro none
            have listed := congrArg String.toList none
            rw [String.toList_ofList] at listed
            cases listed
          · rw [whole, shape, ← String.toList_inj]
            simp [String.toList_append]
      · exact .inr (.inl ⟨String.ofList spec,
          by rwa [String.toList_ofList], whole⟩)
    · refine .inr (.inl fun size => ?_)
      rw [parseRange, if_neg given, if_neg unit]

/-! ## Bounds -/

/-- The parser returns, and its range lies in the object. -/
def InBounds (size : Nat) (result : RangeResult) : Prop :=
  result ≠ .panicked ∧ ∀ start stop, result = .ok start stop →
      0 ≤ start ∧ start ≤ stop ∧ stop < size

section Bounds

variable {size : Nat}

theorem inBounds_invalid : InBounds size .invalid :=
  ⟨by simp, by simp⟩

theorem inBounds_ok_iff {start stop : Int} :
    InBounds size (.ok start stop) ↔
      0 ≤ start ∧ start ≤ stop ∧ stop < size := by
  simp [InBounds]

theorem inBounds_parseSuffix_iff {text : String} :
    InBounds size (parseSuffix text size) ↔
      ¬ ∃ count, parseInt64 text = some count ∧ 0 < count ∧ size = 0 := by
  unfold parseSuffix
  cases parsed : parseInt64 text with
  | none => simp [inBounds_invalid]
  | some count =>
    dsimp only
    by_cases positive : 0 < count
    · rw [if_neg (not_le.mpr positive), inBounds_ok_iff]
      simp only [Option.some.injEq, exists_eq_left']
      split_ifs <;> omega
    · rw [if_pos (not_lt.mp positive)]
      simp [inBounds_invalid, positive]

theorem inBounds_parseStop_iff {start : Int} {text : String}
    (nonneg : 0 ≤ start) :
    InBounds size (parseStop start text size) ↔
      ¬ (size ≤ start ∧ (text = "" ∨
        ∃ stop, parseInt64 text = some stop ∧ start ≤ stop)) := by
  unfold parseStop
  split_ifs with bare
  · rw [inBounds_ok_iff]
    simp only [bare, true_or, and_true]
    omega
  · cases parsed : parseInt64 text with
    | none => simp [inBounds_invalid, bare]
    | some stop =>
      dsimp only
      by_cases ordered : start ≤ stop
      · rw [if_neg (not_lt.mpr ordered), inBounds_ok_iff]
        simp only [Option.some.injEq, exists_eq_left']
        split_ifs <;> omega
      · rw [if_pos (not_le.mp ordered)]
        simp [inBounds_invalid, bare, ordered]

/-- The parser misreads exactly the headers that `Misread` lists. -/
theorem inBounds_parseRange_iff {header : String} (given : header ≠ "") :
    InBounds size (parseRange header size) ↔ ¬ Misread size header := by
  constructor
  · intro bounded misread
    cases misread with
    | undashed text position plain parsed =>
      rw [parseRange_undashed plain, parsed] at bounded
      exact bounded.1 rfl
    | beyond first last position plain parsed outside ordered =>
      have named : first ≠ "" := by
        rintro rfl
        cases parsed
      rw [parseRange_dashed plain named, parsed] at bounded
      exact (inBounds_parseStop_iff
        (parseInt64_nonneg plain parsed)).mp bounded ⟨outside, ordered⟩
    | suffix text count parsed positive empty =>
      rw [parseRange_suffix] at bounded
      exact inBounds_parseSuffix_iff.mp bounded
        ⟨count, parsed, positive, empty⟩
  · intro fine
    rcases header_form header with
      none | invalid | ⟨text, rfl⟩ | ⟨text, plain, rfl⟩ |
        ⟨first, last, named, plain, rfl⟩
    · exact absurd none given
    · rw [invalid]
      exact inBounds_invalid
    · rw [parseRange_suffix, inBounds_parseSuffix_iff]
      rintro ⟨count, parsed, positive, empty⟩
      exact fine (.suffix text count parsed positive empty)
    · rw [parseRange_undashed plain]
      cases parsed : parseInt64 text with
      | none => exact inBounds_invalid
      | some position =>
        exact absurd (.undashed text position plain parsed) fine
    · rw [parseRange_dashed plain named]
      cases parsed : parseInt64 first with
      | none => exact inBounds_invalid
      | some position =>
        rw [inBounds_parseStop_iff (parseInt64_nonneg plain parsed)]
        rintro ⟨outside, ordered⟩
        exact fine (.beyond first last position plain parsed outside ordered)

end Bounds

/-! ## The bytes -/

/-- Behind the skipped bytes the reader holds the rest of the object. -/
theorem skip_content {reader : ObjectReader} {start : Int}
    (inside : start.toNat ≤ reader.content.length) :
    (reader.skip start).content = reader.content.drop start.toNat := by
  cases reader with
  | file data => simp [ObjectReader.skip, ObjectReader.content,
      Source.content, Source.ofBytes]
  | stream source =>
    exact (Source.readFull_enough start.toNat source inside).2.2.1

theorem served_bytes {reader : ObjectReader} {start stop : Int}
    (nonneg : 0 ≤ start) (ordered : start ≤ stop)
    (inside : stop < reader.content.length) :
    ((reader.skip start).readFull (stop - start + 1).toNat).data =
      bytesBetween reader.content start stop := by
  have rest := @skip_content reader start (by omega)
  have enough : (stop - start + 1).toNat ≤
      (reader.skip start).content.length := by
    rw [rest, List.length_drop]
    omega
  rw [(Source.readFull_enough _ _ enough).1, rest, bytesBetween]

/--
A header is read safely and exactly, and its range is served to the byte,
exactly if it is none that the parser misreads: a position without a dash, a
first position behind the end, or a suffix of an empty object.
-/
theorem range_exact_iff (header : String) (size : Nat) :
    RangeExact header size ↔ ¬ Misread size header := by
  by_cases given : header = ""
  · subst given
    refine iff_of_true ⟨by simp [parseRange], fun given => absurd rfl given,
      fun given => absurd rfl given, fun none => ?_⟩ ?_
    · exact absurd rfl (none 0 (size - 1))
    · intro misread
      generalize spelled : "" = header at misread
      have listed := congrArg String.toList spelled
      cases misread <;> simp [String.toList_append] at listed
  · rw [← inBounds_parseRange_iff given]
    constructor
    · intro exact
      exact ⟨exact.returns, exact.bounds given⟩
    · rintro ⟨returns, bounds⟩
      refine ⟨returns, fun _ => bounds, fun _ start stop parsed reader
        whole => ?_, fun none reader => ?_⟩
      · obtain ⟨nonneg, ordered, inside⟩ := bounds start stop parsed
        have bytes := served_bytes nonneg ordered (whole ▸ inside)
        simp only [serveObject, parsed, given, if_false, bytes]
      · unfold serveObject
        cases parsed : parseRange header size with
        | panicked => exact absurd parsed returns
        | invalid => rfl
        | ok start stop => exact absurd parsed (none start stop)

/-! ### Headers that are misread -/

/--
A position without a dash makes the parser panic, and a range behind the end
of an object of three bytes is served as a range that ends before it starts.
-/
theorem ranges_misread :
    parseRange "bytes=5" 3 = .panicked ∧
      parseRange "bytes=100-200" 3 = .ok 100 2 ∧
      serveObject "bytes=100-200" 3 (.file [1, 2, 3]) = some
          { status := 206
            contentRange := some "bytes 100-2/3"
            contentLength := some (-97)
            body := [] } ∧
      parseRange "bytes=-1" 0 = .ok 0 (-1) := by
  decide +kernel

end DataSafe.S3
