import DataSafe.Auth.SigV4

/-!
# What a canonical request determines

A canonical request is a join of lines.  When none of its parts holds a line
feed, the parts can be read off it: the method, the encoded path and query,
the sorted header lines and the list of signed names.  The encoded query
determines the query up to the order of its pairs, and the header lines
determine the value of each signed name that is the name of a header.
-/

namespace DataSafe.Auth

open Base Metadata

/-! ## Queries -/

theorem uriEncode_injective : Function.Injective uriEncode :=
  percentEncode_injective (by decide)

theorem uriEncodeQuery_injective : Function.Injective uriEncodeQuery :=
  percentEncode_injective (by decide)

theorem sortTexts_perm (texts : List Bytes) :
    (sortTexts texts).Perm texts :=
  List.perm_insertionSort _ _

variable (pairs : List (Bytes × Bytes)) (request : HTTPRequest)
  {byte : UInt8}

/-- The bytes that no encoded text holds. -/
theorem notMem_percentEncode
    {plain : UInt8 → Bool} (escaped : plain byte = false)
    (other : byte ≠ 37 ∧ ¬(48 ≤ byte ∧ byte ≤ 57) ∧ ¬(65 ≤ byte ∧ byte ≤ 70))
    (text : Bytes) :
    byte ∉ percentEncode plain text := by
  intro member
  obtain ⟨notPercent, notDigit, notLetter⟩ := other
  rcases mem_percentEncode member with kept | percent | digit | letter
  · exact absurd kept (by simp [escaped])
  · exact notPercent percent
  · exact notDigit digit
  · exact notLetter letter

theorem lineFeed_notMem_uriEncode (text : Bytes) :
    lineFeed ∉ uriEncode text :=
  notMem_percentEncode (by decide) (by decide) text

/-- One pair as it stands in the canonical query. -/
def encodedPair (pair : Bytes × Bytes) : Bytes :=
  uriEncodeQuery pair.1 ++ 61 :: uriEncodeQuery pair.2

theorem notMem_encodedPair
    (escaped : unreserved byte = false)
    (other : byte ≠ 37 ∧ ¬(48 ≤ byte ∧ byte ≤ 57) ∧ ¬(65 ≤ byte ∧ byte ≤ 70))
    (notEquals : byte ≠ 61) (pair : Bytes × Bytes) :
    byte ∉ encodedPair pair := by
  intro member
  rcases List.mem_append.mp member with key | value
  · exact notMem_percentEncode escaped other _ key
  · rcases List.mem_cons.mp value with same | value
    · exact notEquals same
    · exact notMem_percentEncode escaped other _ value

theorem encodedPair_injective : Function.Injective encodedPair := by
  intro left right same
  obtain ⟨sameKey, sameValue⟩ := append_cons_eq_of_notMem
    (notMem_percentEncode (by decide) (by decide) _)
    (notMem_percentEncode (by decide) (by decide) _) same
  exact Prod.ext (uriEncodeQuery_injective sameKey)
    (uriEncodeQuery_injective sameValue)

/-- The pairs in the order of the canonical query. -/
def sortedPairs (pairs : List (Bytes × Bytes)) : List (Bytes × Bytes) :=
  grouped sortTexts (sortTexts (pairs.map Prod.fst).dedup) pairs

theorem sortedPairs_perm :
    (sortedPairs pairs).Perm pairs := by
  refine grouped_perm sortTexts_perm
    ((sortTexts_perm _).nodup_iff.mpr (List.nodup_dedup _)) ?_
  intro pair member
  rw [(sortTexts_perm _).mem_iff, List.mem_dedup]
  exact List.mem_map_of_mem member

theorem canonicalQuery_eq :
    canonicalQuery pairs =
      [38].intercalate ((sortedPairs pairs).map encodedPair) :=
  rfl

theorem lineFeed_notMem_canonicalQuery :
    lineFeed ∉ canonicalQuery pairs := by
  intro member
  rcases mem_intercalate member with separator | ⟨part, present, inside⟩
  · cases separator
  · obtain ⟨pair, -, rfl⟩ := List.mem_map.mp present
    exact notMem_encodedPair (by decide) (by decide) (by decide) pair inside

theorem encodedPair_ne_nil (pair : Bytes × Bytes) :
    encodedPair pair ≠ [] := by
  simp [encodedPair]

/-- A join of pairs is empty only if there are none. -/
theorem joined_pairs_eq_nil
    {pairs : List (Bytes × Bytes)}
    (empty : [38].intercalate (pairs.map encodedPair) = []) : pairs = [] := by
  cases pairs with
  | nil => rfl
  | cons pair rest =>
    have present := List.exists_mem_of_ne_nil _ (encodedPair_ne_nil pair)
    obtain ⟨byte, inside⟩ := present
    have member : byte ∈ [38].intercalate ((pair :: rest).map encodedPair) :=
      mem_intercalate_of_mem List.mem_cons_self inside
    rw [empty] at member
    cases member

/-- The canonical query determines the pairs up to their order. -/
theorem perm_of_canonicalQuery_eq
    {left right : List (Bytes × Bytes)}
    (same : canonicalQuery left = canonicalQuery right) :
    left.Perm right := by
  rw [canonicalQuery_eq, canonicalQuery_eq] at same
  have free : ∀ pairs : List (Bytes × Bytes),
      ∀ part ∈ pairs.map encodedPair, 38 ∉ part := by
    intro pairs part present
    obtain ⟨pair, -, rfl⟩ := List.mem_map.mp present
    exact notMem_encodedPair (by decide) (by decide) (by decide) pair
  have sameSorted : sortedPairs left = sortedPairs right := by
    by_cases leftEmpty : sortedPairs left = []
    · rw [leftEmpty] at same ⊢
      exact (joined_pairs_eq_nil same.symm).symm
    by_cases rightEmpty : sortedPairs right = []
    · rw [rightEmpty] at same ⊢
      exact joined_pairs_eq_nil same
    refine List.map_injective_iff.mpr encodedPair_injective
      (intercalate_free_inj ?_ ?_ (free _) (free _) same)
    · exact fun empty => leftEmpty (List.map_eq_nil_iff.mp empty)
    · exact fun empty => rightEmpty (List.map_eq_nil_iff.mp empty)
  exact (sortedPairs_perm left).symm.trans
    (sameSorted ▸ sortedPairs_perm right)

/-! ## Header lines -/

theorem lineFeed_notMem_value (name : HeaderName) :
    lineFeed ∉ request.value name := by
  intro member
  rw [HTTPRequest.value] at member
  cases found : request.header.get name with
  | none =>
    rw [found] at member
    cases member
  | some values =>
    rw [found] at member
    rcases mem_intercalate (mem_of_mem_trimSpace member) with
      comma | ⟨part, present, inside⟩
    · cases comma
    · obtain ⟨line, -, rfl⟩ := List.mem_map.mp present
      exact line.unbroken inside

theorem lineFeed_notMem_lower (name : Bytes) :
    lineFeed ∉ request.lower name := by
  unfold HTTPRequest.lower
  split_ifs
  · exact request.host.unbroken
  · exact lineFeed_notMem_value request _
  · exact List.not_mem_nil

variable {name : Bytes} {signed : List Bytes}

theorem lineFeed_notMem_headerLine
    (unbroken : lineFeed ∉ name) :
    lineFeed ∉ headerLine request name := by
  intro member
  rcases List.mem_append.mp member with inside | rest
  · exact unbroken inside
  · rcases List.mem_cons.mp rest with colon | value
    · cases colon
    · exact lineFeed_notMem_lower request name value

theorem IsHeaderName.colon_notMem
    (token : IsHeaderName name) : 58 ∉ name := by
  intro member
  exact absurd (token.2 58 member) (by decide)

/-- A name with a colon has no entry among the headers. -/
theorem lower_of_colon
    (colon : 58 ∈ name) :
    request.lower name = [] := by
  have noHost : name ≠ hostName.text := by
    rintro rfl
    exact hostName.token.colon_notMem colon
  have noToken : ¬IsHeaderName name := fun token => token.colon_notMem colon
  rw [HTTPRequest.lower, if_neg noHost, dif_neg noToken]

/-- Header lines bind the values of the signed names without a colon. -/
theorem lower_eq_of_lines_perm
    {left right : HTTPRequest}
    (lines : (signed.map (headerLine left)).Perm (signed.map (headerLine
      right))) (member : name ∈ signed) (plain : 58 ∉ name) :
    left.lower name = right.lower name := by
  -- The lines of names with a colon are the same in both requests.
  have split : ∀ request : HTTPRequest,
      (signed.map (headerLine request)).Perm
        ((signed.filter (fun name => 58 ∉ name)).map (headerLine request) ++
          (signed.filter (fun name => !decide (58 ∉ name))).map
            (headerLine request)) := by
    intro request
    rw [← List.map_append]
    exact (List.filter_append_perm _ _).symm.map _
  have fixed :
      (signed.filter (fun name => !decide (58 ∉ name))).map
          (headerLine left) =
        (signed.filter (fun name => !decide (58 ∉ name))).map
          (headerLine right) := by
    apply List.map_congr_left
    intro other present
    have colon : 58 ∈ other := by
      simpa using (List.mem_filter.mp present).2
    rw [headerLine, headerLine, lower_of_colon left colon,
      lower_of_colon right colon]
  have bound := (split left).symm.trans (lines.trans (split right))
  rw [fixed, List.perm_append_right_iff] at bound
  have leftLine : headerLine left name ∈
      (signed.filter (fun name => 58 ∉ name)).map (headerLine left) :=
    List.mem_map_of_mem (List.mem_filter.mpr ⟨member, decide_eq_true plain⟩)
  obtain ⟨other, present, sameLine⟩ :=
    List.mem_map.mp (bound.mem_iff.mp leftLine)
  have otherPlain : 58 ∉ other := by
    simpa using (List.mem_filter.mp present).2
  obtain ⟨rfl, sameValue⟩ :=
    append_cons_eq_of_notMem otherPlain plain sameLine
  exact sameValue.symm

/-! ## Lines of a canonical request -/

/-- The lines of a canonical request. -/
def canonicalLines
    (request : HTTPRequest) (signed : List Bytes)
    (path query payload : Bytes) : List Bytes :=
  [request.method.text, path, query] ++
    (sortTexts (signed.map (headerLine request)) ++
      [[], [59].intercalate signed, payload])

theorem canonicalText_eq
    (some : signed ≠ []) (path query payload : Bytes) :
    canonicalText request signed path query payload = [lineFeed].intercalate
        (canonicalLines request signed path query payload) := by
  have lines : sortTexts (signed.map (headerLine request)) ≠ [] := by
    intro empty
    have perm := sortTexts_perm (signed.map (headerLine request))
    rw [empty] at perm
    exact some (List.map_eq_nil_iff.mp perm.nil_eq.symm)
  rw [canonicalLines, intercalate_append lineFeed (by simp) (by simp),
    intercalate_append lineFeed lines (by simp)]
  simp [canonicalText, canonicalHeaders]

/-- What two equal canonical requests have in common. -/
structure SameLines
    (left right : HTTPRequest) (leftSigned rightSigned : List Bytes)
    (leftPath rightPath leftQuery rightQuery : Bytes) : Prop where
  method : left.method.text = right.method.text
  path : leftPath = rightPath
  query : leftQuery = rightQuery
  signed : [59].intercalate leftSigned = [59].intercalate rightSigned
  lines : (leftSigned.map (headerLine left)).Perm
    (rightSigned.map (headerLine right))

theorem lineFeed_notMem_canonicalLines
    {path query payload : Bytes} (unbroken : ∀ name ∈ signed, lineFeed ∉ name)
    (pathFree : lineFeed ∉ path) (queryFree : lineFeed ∉ query)
    (payloadFree : lineFeed ∉ payload) :
    ∀ line ∈ canonicalLines request signed path query payload,
      lineFeed ∉ line := by
  intro line present
  rw [canonicalLines, List.mem_append, List.mem_append] at present
  rcases present with first | header | last
  · simp only [List.mem_cons, List.not_mem_nil, or_false] at first
    rcases first with rfl | rfl | rfl
    · exact request.method.unbroken
    · exact pathFree
    · exact queryFree
  · rw [(sortTexts_perm _).mem_iff] at header
    obtain ⟨name, member, rfl⟩ := List.mem_map.mp header
    exact lineFeed_notMem_headerLine request (unbroken name member)
  · simp only [List.mem_cons, List.not_mem_nil, or_false] at last
    rcases last with rfl | rfl | rfl
    · exact List.not_mem_nil
    · intro inside
      rcases mem_intercalate inside with semicolon | ⟨name, member, inside⟩
      · cases semicolon
      · exact unbroken name member inside
    · exact payloadFree

theorem sameLines_of_canonicalText_eq
    {left right : HTTPRequest} {leftSigned rightSigned : List Bytes}
    {leftPath rightPath leftQuery rightQuery leftPayload rightPayload : Bytes}
    (leftSome : leftSigned ≠ []) (rightSome : rightSigned ≠ [])
    (leftFree : ∀ line ∈ canonicalLines left leftSigned leftPath leftQuery
      leftPayload, lineFeed ∉ line)
    (rightFree : ∀ line ∈ canonicalLines right rightSigned rightPath
      rightQuery rightPayload, lineFeed ∉ line)
    (same : canonicalText left leftSigned leftPath leftQuery leftPayload =
      canonicalText right rightSigned rightPath rightQuery rightPayload) :
    SameLines left right leftSigned rightSigned leftPath rightPath
      leftQuery rightQuery := by
  rw [canonicalText_eq left leftSome, canonicalText_eq right rightSome]
    at same
  have lines := intercalate_free_inj (by simp [canonicalLines])
    (by simp [canonicalLines]) leftFree rightFree same
  obtain ⟨first, rest⟩ := List.append_inj lines rfl
  obtain ⟨sorted, last⟩ := List.append_inj' rest rfl
  simp only [List.cons.injEq, and_true, true_and] at first last
  refine ⟨first.1, first.2.1, first.2.2, last.1, ?_⟩
  refine (sortTexts_perm _).symm.trans ?_
  rw [sorted]
  exact sortTexts_perm _

end DataSafe.Auth
