import DataSafe.Base.ByteSource
import DataSafe.Base.Joined
import DataSafe.Base.Machine

/-!
# The journal of a migration

`State` keeps the object versions that a migration is done with in a file, one
JSON text in each line.  `OpenState` reads the file and skips what it cannot
decode; `Mark` writes a line and syncs it.

A crash may leave the first part of a line.  The next process reads over it
and writes its own first line directly behind it.  In memory an object version
is known by its bucket, key and version with line feeds between them.

The encoding of a row is a parameter with what `encoding/json` guarantees:
control bytes are escaped, a row decodes to itself up to replaced invalid
UTF-8, and a text that was cut short does not decode.
-/

namespace DataSafe.Migrate

open Base

def newline : UInt8 := 10

/-- `stateKey` -/
structure StateKey where
  bucket : Bytes
  key : Bytes
  versionID : Bytes
deriving DecidableEq

/-- `stateKey.id` -/
def StateKey.id (key : StateKey) : Bytes :=
  key.bucket ++ newline :: (key.key ++ newline :: key.versionID)

/-- `stateRow` -/
structure StateRow where
  key : StateKey
  status : Bytes
  etag : Bytes
  size : Int
deriving DecidableEq

def copied : Bytes := [99, 111, 112, 105, 101, 100]

def skipped : Bytes := [115, 107, 105, 112, 112, 101, 100]

def StateRow.IsDone (row : StateRow) : Prop :=
  row.status = copied ∨ row.status = skipped

instance (row : StateRow) : Decidable row.IsDone :=
  inferInstanceAs (Decidable (_ ∨ _))

/-- JSON texts of rows; `toValid` replaces what is not UTF-8. -/
structure RowCodec where
  marshal : StateRow → Bytes
  unmarshal : Bytes → Option StateRow
  toValid : Bytes → Bytes

def StateKey.map (change : Bytes → Bytes) (key : StateKey) : StateKey :=
  ⟨change key.bucket, change key.key, change key.versionID⟩

def StateRow.map (change : Bytes → Bytes) (row : StateRow) : StateRow :=
  ⟨row.key.map change, change row.status, change row.etag, row.size⟩

structure RowCodec.Lawful (codec : RowCodec) : Prop where
  escaped : ∀ row, ∀ byte ∈ codec.marshal row, 32 ≤ byte
  exact : ∀ row, codec.unmarshal (codec.marshal row) =
    some (row.map codec.toValid)
  cut : ∀ row text, text <+: codec.marshal row → text ≠ codec.marshal row →
    codec.unmarshal text = none
  ascii : codec.toValid copied = copied ∧ codec.toValid skipped = skipped

/-! ## Reading the file -/

/-- The longest line that the scanner accepts has one byte less. -/
def maxToken : Nat := 1024 * 1024

/-- The lines of a file; what stands behind the last line feed is one more
unless it is empty. -/
def scanLines (file : Bytes) : List Bytes :=
  let parts := file.splitOn newline
  if parts.getLast? = some [] then parts.dropLast else parts

/-- The scanner drops a carriage return at the end of a line. -/
def dropCR (line : Bytes) : Bytes :=
  if line.getLast? = some 13 then line.dropLast else line

/-- The entry that a line makes in the map. -/
def lineID (codec : RowCodec) (line : Bytes) : Option Bytes :=
  match codec.unmarshal (dropCR line) with
  | none => none
  | some row => if row.IsDone then some row.key.id else none

/-- `OpenState`: the keys of the map `done`; nothing if the scanner fails. -/
def openState (codec : RowCodec) (file : Bytes) : Option (List Bytes) :=
  if ∀ line ∈ scanLines file, line.length < maxToken then
    some ((scanLines file).filterMap (lineID codec))
  else none

/-- `State.Has` -/
def has (done : List Bytes) (key : StateKey) : Bool := decide (key.id ∈ done)

/-! ## Histories -/

/-- The file, the map of the running process, and the object versions whose
rows were written completely. -/
structure Journal where
  file : Bytes := []
  live : Option (List Bytes) := none
  written : List StateKey := []

inductive JournalEvent where
  /-- A `Mark` that returns nil. -/
  | mark (row : StateRow)
  /-- A crash in a `Mark` that leaves a part of the line. -/
  | crash (row : StateRow) (part : Bytes)
  /-- `OpenState` -/
  | reopen

def line (codec : RowCodec) (row : StateRow) : Bytes :=
  codec.marshal row ++ [newline]

def journalStep (codec : RowCodec) (journal : Journal) :
    JournalEvent → Journal
  | .mark row =>
    match journal.live with
    | none => journal
    | some done =>
      { file := journal.file ++ line codec row
        live := some (row.key.id :: done)
        written := row.key :: journal.written }
  | .crash row part =>
    match journal.live with
    | none => journal
    | some _ =>
      { file := journal.file ++ part
        live := none
        written :=
          if part = line codec row then row.key :: journal.written
          else journal.written }
  | .reopen => { journal with live := openState codec journal.file }

/-- The rows in question: done, and shorter than the scanner's limit. -/
def Storable (codec : RowCodec) (row : StateRow) : Prop :=
  row.IsDone ∧ (codec.marshal row).length < maxToken

/-- No part of the identity has a line feed or is changed by the encoding. -/
def StateKey.Plain (codec : RowCodec) (key : StateKey) : Prop :=
  ∀ text ∈ [key.bucket, key.key, key.versionID],
    newline ∉ text ∧ codec.toValid text = text

/-- The file ends with a whole line. -/
def EndsLine (file : Bytes) : Prop :=
  file = [] ∨ file.getLast? = some newline

/-- What may happen: rows are storable, and a crash leaves a part of the
line. -/
def Legal (codec : RowCodec) : JournalEvent → Prop
  | .mark row => Storable codec row
  | .crash row part => Storable codec row ∧ part <+: line codec row
  | .reopen => True

/-- Rows with plain identities are written behind whole lines, and no crash
leaves a line that lacks just its line feed. -/
def Careful (codec : RowCodec) (journal : Journal) : JournalEvent → Prop
  | .mark row => row.key.Plain codec ∧ EndsLine journal.file
  | .crash row part =>
    row.key.Plain codec ∧ EndsLine journal.file ∧ part ≠ codec.marshal row
  | .reopen => True

instance (codec : RowCodec) (row : StateRow) :
    Decidable (Storable codec row) :=
  inferInstanceAs (Decidable (_ ∧ _))

instance (codec : RowCodec) (key : StateKey) :
    Decidable (key.Plain codec) :=
  inferInstanceAs (Decidable (∀ text ∈ _, _))

instance (file : Bytes) : Decidable (EndsLine file) :=
  inferInstanceAs (Decidable (_ ∨ _))

instance (codec : RowCodec) :
    (event : JournalEvent) → Decidable (Legal codec event)
  | .mark row => inferInstanceAs (Decidable (Storable codec row))
  | .crash _ _ => inferInstanceAs (Decidable (_ ∧ _))
  | .reopen => inferInstanceAs (Decidable True)

instance (codec : RowCodec) (journal : Journal) :
    (event : JournalEvent) → Decidable (Careful codec journal event)
  | .mark _ => inferInstanceAs (Decidable (_ ∧ _))
  | .crash _ _ => inferInstanceAs (Decidable (_ ∧ _ ∧ _))
  | .reopen => inferInstanceAs (Decidable True)

/-! ## The identity of an object version -/

theorem id_eq_intercalate (key : StateKey) :
    key.id = [newline].intercalate [key.bucket, key.key, key.versionID] := by
  simp [StateKey.id]

theorem id_inj
    {codec : RowCodec} {key other : StateKey} (plain : key.Plain codec)
    (same : other.id = key.id) : other = key := by
  rw [id_eq_intercalate, id_eq_intercalate] at same
  have parts : [key.bucket, key.key, key.versionID] =
      [other.bucket, other.key, other.versionID] :=
    intercalate_inj rfl (fun part member => (plain part member).1) same.symm
  cases key
  cases other
  simp_all

/-! ## What a file holds -/

variable {torn : Bytes} {row : StateRow} {journal : Journal}
  {rows : List StateRow}

section

variable {codec : RowCodec} (lawful : codec.Lawful)

/-- A text that a crash may leave at the end of a file. -/
def Torn (codec : RowCodec) (torn : Bytes) : Prop :=
  torn = [] ∨ ∃ row, Storable codec row ∧ torn <+: codec.marshal row ∧
    torn ≠ codec.marshal row

/-- The file has the lines of some rows and perhaps a part of one more. -/
structure Keeps (codec : RowCodec) (journal : Journal)
    (rows : List StateRow) (torn : Bytes) : Prop where
  file : journal.file =
    [newline].intercalate (rows.map codec.marshal ++ [torn])
  good : ∀ row ∈ rows, Storable codec row ∧ row.key.Plain codec
  left : Torn codec torn
  written : ∀ key, key ∈ journal.written ↔ ∃ row ∈ rows, row.key = key
  live : ∀ done, journal.live = some done →
    ∀ id, id ∈ done ↔ ∃ row ∈ rows, row.key.id = id

theorem dropCR_of_escaped
    {text : Bytes} (escaped : ∀ byte ∈ text, 32 ≤ byte) :
    dropCR text = text := by
  rw [dropCR, if_neg]
  intro last
  exact absurd (escaped 13 (List.mem_of_getLast? last)) (by decide)

theorem newline_notMem
    {text : Bytes} (escaped : ∀ byte ∈ text, 32 ≤ byte) :
    newline ∉ text :=
  fun member => absurd (escaped newline member) (by decide)

include lawful

theorem escaped_of_torn
    (valid : Torn codec torn) :
    ∀ byte ∈ torn, 32 ≤ byte := by
  rcases valid with rfl | ⟨row, -, part, -⟩
  · simp
  · intro byte member
    exact lawful.escaped row byte (part.subset member)

theorem lineID_marshal
    (storable : Storable codec row) (plain : row.key.Plain codec) :
    lineID codec (codec.marshal row) = some row.key.id := by
  have key : row.key.map codec.toValid = row.key := by
    have fields := fun text member => (plain text member).2
    simp only [List.mem_cons, List.not_mem_nil, or_false, forall_eq_or_imp,
      forall_eq] at fields
    simp [StateKey.map, fields]
  have done : (row.map codec.toValid).IsDone := by
    rcases storable.1 with status | status
    · exact .inl (by simp [StateRow.map, status, lawful.ascii])
    · exact .inr (by simp [StateRow.map, status, lawful.ascii])
  rw [lineID, dropCR_of_escaped (lawful.escaped row), lawful.exact]
  dsimp only
  rw [if_pos done, StateRow.map, key]

/-- Opening a file gives the rows of its whole lines. -/
theorem openState_of_keeps
    (keeps : Keeps codec journal rows torn) :
    openState codec journal.file =
      some (rows.map fun row => row.key.id) := by
  have free : ∀ part ∈ rows.map codec.marshal ++ [torn], newline ∉ part := by
    intro part member
    rcases List.mem_append.mp member with whole | last
    · rcases List.mem_map.mp whole with ⟨row, -, rfl⟩
      exact newline_notMem (lawful.escaped row)
    · rw [List.mem_singleton.mp last]
      exact newline_notMem (escaped_of_torn lawful keeps.left)
  have parts : journal.file.splitOn newline =
      rows.map codec.marshal ++ [torn] := by
    rw [keeps.file, List.splitOn_intercalate newline free (by simp)]
  have lines : (rows.map codec.marshal).filterMap (lineID codec) =
      rows.map fun row => row.key.id := by
    rw [List.filterMap_map, ← List.filterMap_eq_map]
    apply List.filterMap_congr
    intro row member
    rcases keeps.good row member with ⟨storable, plain⟩
    exact lineID_marshal lawful storable plain
  have short : ∀ text ∈ rows.map codec.marshal, text.length < maxToken := by
    intro text member
    rcases List.mem_map.mp member with ⟨row, among, rfl⟩
    exact (keeps.good row among).1.2
  rcases keeps.left with rfl | ⟨row, storable, part, proper⟩
  · have scanned : scanLines journal.file = rows.map codec.marshal := by
      simp [scanLines, parts]
    rw [openState, scanned, if_pos short, lines]
  · rcases eq_or_ne torn [] with rfl | some
    · have scanned : scanLines journal.file = rows.map codec.marshal := by
        simp [scanLines, parts]
      rw [openState, scanned, if_pos short, lines]
    · have scanned : scanLines journal.file =
          rows.map codec.marshal ++ [torn] := by
        simp [scanLines, parts, some]
      have nothing : lineID codec torn = none := by
        rw [lineID, dropCR_of_escaped
          (escaped_of_torn lawful keeps.left), lawful.cut row torn part
            proper]
      rw [openState, scanned, if_pos, List.filterMap_append, lines]
      · simp [nothing]
      · intro text member
        rcases List.mem_append.mp member with whole | last
        · exact short text whole
        · rw [List.mem_singleton.mp last]
          exact lt_of_le_of_lt part.length_le storable.2

theorem torn_eq_nil
    (keeps : Keeps codec journal rows torn) (ends : EndsLine journal.file) :
    torn = [] := by
  by_contra some
  have last : journal.file.getLast? = torn.getLast? := by
    rw [keeps.file]
    rcases eq_or_ne (rows.map codec.marshal) [] with none | front
    · rw [none, List.nil_append, List.intercalate_singleton]
    · rw [intercalate_append newline front (by simp)]
      cases torn with
      | nil => exact absurd rfl some
      | cons byte torn => simp [List.getLast?_cons]
  have escaped := escaped_of_torn lawful keeps.left
  rcases ends with empty | newlineLast
  · rw [empty] at last
    exact some (List.getLast?_eq_none_iff.mp last.symm)
  · rw [newlineLast] at last
    exact absurd (List.mem_of_getLast? last.symm) (newline_notMem escaped)

omit lawful in
/-- A file that ends with a whole line, with a text behind it. -/
theorem file_append
    (file : journal.file =
      [newline].intercalate (rows.map codec.marshal ++ [[]])) (text : Bytes) :
    journal.file ++ text =
      [newline].intercalate (rows.map codec.marshal ++ [text]) := by
  rw [file]
  rcases eq_or_ne (rows.map codec.marshal) [] with none | front
  · simp [none]
  · rw [intercalate_append newline front (by simp),
      intercalate_append newline front (by simp)]
    simp

omit lawful in
theorem file_append_line
    (file : journal.file = [newline].intercalate (rows.map codec.marshal ++
      [[]])) (row : StateRow) :
    journal.file ++ line codec row =
      [newline].intercalate ((rows ++ [row]).map codec.marshal ++ [[]]) := by
  rw [line, ← List.append_assoc, file_append file, List.map_append,
    @intercalate_append UInt8 newline
      (rows.map codec.marshal ++ [row].map codec.marshal) [[]] (by simp)
      (by simp)]
  simp

omit lawful in
/-- A whole line more. -/
private theorem Keeps.append
    (keeps : Keeps codec journal rows []) (storable : Storable codec row)
    (plain : row.key.Plain codec) {live : Option (List Bytes)}
    (known : ∀ done, live = some done → ∀ id, id ∈ done ↔ ∃ other ∈ rows ++
      [row], other.key.id = id) :
    Keeps codec
      { file := journal.file ++ line codec row
        live := live
        written := row.key :: journal.written } (rows ++ [row]) [] where
  file := file_append_line keeps.file row
  good other member := by
    rcases List.mem_append.mp member with before | same
    · exact keeps.good other before
    · rw [List.mem_singleton.mp same]
      exact ⟨storable, plain⟩
  left := .inl rfl
  written key := by
    rw [List.mem_cons, keeps.written]
    simp [or_comm, eq_comm]
  live := known

/-- One event keeps what the file holds. -/
theorem journalStep_keeps
    (keeps : Keeps codec journal rows torn) {event : JournalEvent}
    (legal : Legal codec event) (careful : Careful codec journal event) :
    ∃ rows torn, Keeps codec (journalStep codec journal event) rows torn := by
  cases event with
  | reopen =>
    refine ⟨rows, torn, keeps.file, keeps.good, keeps.left, keeps.written,
      ?_⟩
    intro done opened id
    change openState codec journal.file = some done at opened
    rw [openState_of_keeps lawful keeps] at opened
    rw [← Option.some.inj opened]
    simp
  | mark row =>
    rw [torn_eq_nil lawful keeps careful.2] at keeps
    cases live : journal.live with
    | none =>
      exact ⟨rows, [], by simpa only [journalStep, live] using keeps⟩
    | some done =>
      have known := keeps.live done live
      refine ⟨rows ++ [row], [], ?_⟩
      simp only [journalStep, live]
      apply keeps.append legal careful.1
      rintro _ ⟨⟩ id
      rw [List.mem_cons, known]
      simp [or_comm, eq_comm]
  | crash row part =>
    rw [torn_eq_nil lawful keeps careful.2.1] at keeps
    cases live : journal.live with
    | none =>
      exact ⟨rows, [], by simpa only [journalStep, live] using keeps⟩
    | some done =>
      simp only [journalStep, live]
      by_cases whole : part = line codec row
      · refine ⟨rows ++ [row], [], ?_⟩
        rw [if_pos whole, whole]
        apply keeps.append legal.1 careful.1
        rintro _ ⟨⟩
      · have front : part <+: codec.marshal row := by
          rcases List.prefix_concat_iff.mp legal.2 with same | shorter
          · exact absurd same whole
          · exact shorter
        rw [if_neg whole]
        exact ⟨rows, part, file_append keeps.file part, keeps.good,
          .inr ⟨row, legal.1, front, careful.2.2⟩, keeps.written,
          by rintro _ ⟨⟩⟩

end

/--
If rows with plain identities are written behind whole lines and no crash
leaves a line that lacks just its line feed, every `OpenState` succeeds, and
while a process runs `Has` tells the object versions whose rows were written
completely from all others.
-/
theorem journal_exact
    (codec : RowCodec) (lawful : codec.Lawful) (events : List JournalEvent)
    (guarded : Guarded (journalStep codec) (fun journal event => Legal codec
      event ∧ Careful codec journal event) {} events) :
    let journal := runAll (journalStep codec) {} events
    (openState codec journal.file).isSome ∧
      ∀ done, journal.live = some done →
        ∀ key, has done key = true ↔ key ∈ journal.written := by
  have held := guarded.invariant
    (motive := fun journal => ∃ rows torn, Keeps codec journal rows torn)
    ⟨[], [], rfl, by simp, .inl rfl, by simp, by rintro _ ⟨⟩⟩
    (by
      rintro journal event ⟨rows, torn, keeps⟩ ⟨legal, careful⟩
      exact journalStep_keeps lawful keeps legal careful)
  intro journal
  rcases held with ⟨rows, torn, keeps⟩
  refine ⟨by rw [openState_of_keeps lawful keeps]; rfl, ?_⟩
  intro done live key
  rw [has, decide_eq_true_iff, keeps.live done live, keeps.written]
  constructor
  · rintro ⟨row, member, same⟩
    exact ⟨row, member, (id_inj (keeps.good row member).2 same.symm).symm⟩
  · rintro ⟨row, member, rfl⟩
    exact ⟨row, member, rfl⟩

/-! ## A plain encoding -/

/-- Two letters for a byte. -/
def letters (byte : UInt8) : Bytes := [97 + byte / 16, 97 + byte % 16]

def ofLetters : Bytes → Option Bytes
  | [] => some []
  | [_] => none
  | high :: low :: rest =>
    (ofLetters rest).map fun bytes =>
      ((high - 97) * 16 + (low - 97)) :: bytes

/-- A size as so many ones, or twos if it is negative. -/
def unary (size : Int) : Bytes :=
  if 0 ≤ size then List.replicate size.toNat 1
  else List.replicate (-size).toNat 2

def StateRow.fields (row : StateRow) : List Bytes :=
  [row.key.bucket, row.key.key, row.key.versionID, row.status, row.etag,
    unary row.size]

def ofFields : List Bytes → Option StateRow
  | [bucket, key, versionID, status, etag, size] =>
    some ⟨⟨bucket, key, versionID⟩, status, etag,
      size.count 1 - size.count 2⟩
  | _ => none

/-- Fields in letters, with commas between them, in braces. -/
def plainCodec : RowCodec where
  marshal row :=
    123 :: ([44].intercalate (row.fields.map fun field =>
      field.flatMap letters) ++ [125])
  unmarshal
    | 123 :: rest =>
      if rest.getLast? = some 125 then
        ((rest.dropLast.splitOn 44).mapM ofLetters).bind ofFields
      else none
    | _ => none
  toValid := id

theorem letters_spec (byte : UInt8) :
    (97 + byte / 16 - 97) * 16 + (97 + byte % 16 - 97) = byte ∧
      ∀ letter ∈ letters byte, 97 ≤ letter ∧ letter < 113 := by
  have all : ∀ code : Fin 256, (97 + UInt8.ofFin code / 16 - 97) * 16 +
          (97 + UInt8.ofFin code % 16 - 97) = UInt8.ofFin code ∧
        ∀ letter ∈ letters (UInt8.ofFin code),
          97 ≤ letter ∧ letter < 113 := by
    simp only [letters, List.mem_cons, List.not_mem_nil, or_false,
      forall_eq_or_imp, forall_eq]
    decide +kernel
  exact all byte.toFin

theorem ofLetters_letters (bytes : Bytes) :
    ofLetters (bytes.flatMap letters) = some bytes := by
  induction bytes with
  | nil => rfl
  | cons byte bytes induction =>
    rw [List.flatMap_cons, letters, List.cons_append, List.cons_append,
      List.nil_append, ofLetters, induction, Option.map_some,
      (letters_spec byte).1]

theorem mem_plain_body
    {byte : UInt8}
    (member : byte ∈ [44].intercalate (row.fields.map fun field =>
      field.flatMap letters)) :
    byte = 44 ∨ 97 ≤ byte ∧ byte < 113 := by
  rcases mem_intercalate member with comma | ⟨part, among, inside⟩
  · exact .inl comma
  · rcases List.mem_map.mp among with ⟨field, -, rfl⟩
    rcases List.mem_flatMap.mp inside with ⟨origin, -, letter⟩
    exact .inr ((letters_spec origin).2 byte letter)

theorem plainCodec_lawful : plainCodec.Lawful where
  escaped row byte member := by
    simp only [plainCodec, List.mem_cons, List.mem_append,
      List.not_mem_nil, or_false] at member
    rcases member with rfl | inside | rfl
    · decide
    · rcases mem_plain_body inside with rfl | ⟨low, -⟩
      · decide
      · exact UInt8.le_trans (by decide : (32 : UInt8) ≤ 97) low
    · decide
  exact row := by
    have free : ∀ part ∈ row.fields.map fun field => field.flatMap letters,
        (44 : UInt8) ∉ part := by
      intro part among comma
      rcases List.mem_map.mp among with ⟨field, -, rfl⟩
      rcases List.mem_flatMap.mp comma with ⟨origin, -, letter⟩
      exact absurd ((letters_spec origin).2 44 letter).1 (by decide)
    have size : ((unary row.size).count 1 : Int) - (unary row.size).count 2 =
        row.size := by
      rw [unary]
      split
      · simp [List.count_replicate]
        omega
      · simp [List.count_replicate]
        omega
    simp only [plainCodec, List.getLast?_concat, List.dropLast_concat]
    rw [List.splitOn_intercalate 44 free (by simp [StateRow.fields])]
    simp [StateRow.fields, ofLetters_letters, ofFields, size, StateRow.map,
      StateKey.map]
  cut row text part proper := by
    cases text with
    | nil => rfl
    | cons first rest =>
      rcases List.cons_prefix_cons.mp part with ⟨rfl, shorter⟩
      have inside : rest <+: [44].intercalate (row.fields.map fun field =>
          field.flatMap letters) := by
        rcases List.prefix_concat_iff.mp shorter with same | inside
        · exact absurd (congrArg (List.cons 123) same) proper
        · exact inside
      have unclosed : rest.getLast? ≠ some 125 := by
        intro last
        rcases mem_plain_body (inside.subset (List.mem_of_getLast? last))
          with same | ⟨-, high⟩
        · exact absurd same (by decide)
        · exact absurd high (by decide)
      simp only [plainCodec, unclosed, if_false]
  ascii := ⟨rfl, rfl⟩

def copiedRow (name : UInt8) : StateRow :=
  ⟨⟨[98], [name], []⟩, copied, [], 1⟩

/-- A crash leaves a brace; the row behind it is lost when the journal is
opened again, although its `Mark` returned nil. -/
theorem torn_line_loses_next_row :
    let journal := runAll (journalStep plainCodec) {}
      [.reopen, .crash (copiedRow 97) [123], .reopen, .mark (copiedRow 98),
        .reopen]
    ([123] <+: line plainCodec (copiedRow 97) ∧
      (copiedRow 98).key ∈ journal.written) ∧
      journal.live = some [] := by
  decide

/-- A history with a crash that leaves nothing. -/
theorem journal_exact_after_crash :
    let journal := runAll (journalStep plainCodec) {}
      [.reopen, .mark (copiedRow 97), .crash (copiedRow 98) [], .reopen]
    (openState plainCodec journal.file).isSome ∧
      ∀ done, journal.live = some done →
        ∀ key, has done key = true ↔ key ∈ journal.written :=
  journal_exact plainCodec plainCodec_lawful _ (by decide)

end DataSafe.Migrate
