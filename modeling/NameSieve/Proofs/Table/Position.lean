import NameSieve.Proofs.Table.Readings
import NameSieve.Proofs.Table.Whole
import NameSieve.Proofs.Text.WellFormed

/-!
# Where the reader fails

An error says at which record the reader stopped, and where it had begun to look for it.  That
place is told here from the bytes: what stands before it is a file of its own, with the same header
and the rows so far, and what stands behind it begins with the record that is to blame.

* `Malformed` records are those that cannot be rows, and `Reports` is what an error says of one.
  `readRow_eq_ok_iff` and `reports_of_readRow` tell rows from malformed records.
* `readRows_cut` finds the rows of a table among the records of its file again, and the record
  behind them at which the reader stopped.
* `Located` collects what is true of the place of an error, and `ReadsUpTo.located` proves it.

**`read_error_located`** is the main result.
-/

namespace NameSieve

/-- The position that an error tells. -/
def ReadError.position : ReadError → Position
  | .unequalLengths position _ _ => position
  | .invalidText position _ _ => position

namespace Table

open Format

/-! ## Malformed records -/

/-- **A malformed record** cannot be a row below a header of so many columns. -/
def Malformed (columns : Nat) (record : List Bytes) : Prop :=
  record.length ≠ columns ∨ ∃ field ∈ record, ¬Utf8.Valid field

/-- **What an error says of a record.**  The number of its fields comes first; only if that is right
a field can be to blame, and it is the first that is no text. -/
inductive Reports (columns : Nat) (record : List Bytes) : ReadError → Prop where
  | unequalLengths {position : Position} (misfit : record.length ≠ columns) :
      Reports columns record (.unequalLengths position columns record.length)
  | invalidText {position : Position} {i validBytes : Nat} {field : Bytes}
      (fits : record.length = columns) (here : record[i]? = some field)
      (upTo : Utf8.ValidUpTo field validBytes)
      (before : ∀ earlier ∈ record.take i, Utf8.Valid earlier) :
      Reports columns record (.invalidText position i validBytes)

lemma Reports.malformed {columns : Nat} {record : List Bytes} {cause : ReadError}
    (reports : Reports columns record cause) : Malformed columns record := by
  cases reports with
  | unequalLengths misfit => exact Or.inl misfit
  | invalidText fits here upTo before =>
      exact Or.inr ⟨_, List.mem_of_getElem? here, upTo.not_valid⟩

section Records

variable {columns number : Nat} {record : RawRecord} {row : List String}

lemma decodeFields_eq_ok_iff {fields : List Bytes} {texts : List String} :
    decodeFields number fields = .ok texts ↔ fields = rowBytes texts := by
  constructor
  · intro decoded
    induction fields generalizing number texts with
    | nil =>
        obtain rfl : [] = texts := Except.ok.inj decoded
        rfl
    | cons field rest ih =>
        simp only [decodeFields] at decoded
        split at decoded
        · cases decoded
        · next text first =>
            split at decoded
            · cases decoded
            · next more behind =>
                obtain rfl := Except.ok.inj decoded
                rw [ih behind, ← Utf8.decode_eq_ok_iff.mp first]
                rfl
  · rintro rfl
    exact decodeFields_rowBytes texts number

/-- The first field that is no text is found. -/
lemma decodeFields_eq_error {fields : List Bytes} {i validBytes : Nat}
    (refused : decodeFields number fields = .error (i, validBytes)) :
    ∃ j field, i = number + j ∧ fields[j]? = some field ∧ Utf8.ValidUpTo field validBytes ∧
      ∀ earlier ∈ fields.take j, Utf8.Valid earlier := by
  induction fields generalizing number with
  | nil => cases refused
  | cons field rest ih =>
      simp only [decodeFields] at refused
      split at refused
      · next first =>
          obtain ⟨rfl, rfl⟩ := Prod.mk.inj (Except.error.inj refused)
          exact ⟨0, field, rfl, rfl, Utf8.validUpTo_of_decode first, List.forall_mem_nil _⟩
      · next text first =>
          split at refused
          · next behind =>
              obtain rfl := Except.error.inj refused
              obtain ⟨j, other, rfl, here, upTo, before⟩ := ih behind
              refine ⟨j + 1, other, by omega, here, upTo, ?_⟩
              rw [List.take_succ_cons]
              exact List.forall_mem_cons.mpr ⟨⟨text, Utf8.decode_eq_ok_iff.mp first⟩, before⟩
          · cases refused

lemma decodeRecord_eq_ok_iff :
    decodeRecord number record = .ok row ↔ record.fields = rowBytes row := by
  constructor
  · intro decoded
    rw [decodeRecord] at decoded
    split at decoded
    · next texts found =>
        obtain rfl := Except.ok.inj decoded
        exact decodeFields_eq_ok_iff.mp found
    · cases decoded
  · exact decodeRecord_rowBytes

/-- **A row** is a record of texts, as many as there are columns. -/
lemma readRow_eq_ok_iff :
    readRow columns number record = .ok row
      ↔ record.fields = rowBytes row ∧ row.length = columns := by
  constructor
  · intro accepted
    have long := length_of_readRow accepted
    rw [readRow] at accepted
    split_ifs at accepted
    exact ⟨decodeRecord_eq_ok_iff.mp accepted, long⟩
  · rintro ⟨spelled, fits⟩
    have long : record.fields.length = columns := by
      rw [spelled, rowBytes, List.length_map, fits]
    rw [readRow, if_pos long, decodeRecord_eq_ok_iff.mpr spelled]

/-- Rows are not malformed. -/
lemma not_malformed_of_row (spelled : record.fields = rowBytes row) (fits : row.length = columns) :
    ¬Malformed columns record.fields := by
  rintro (misfit | ⟨field, member, invalid⟩)
  · rw [spelled, rowBytes, List.length_map] at misfit
    exact misfit fits
  · rw [spelled, rowBytes] at member
    obtain ⟨text, -, rfl⟩ := List.mem_map.mp member
    exact invalid ⟨text, rfl⟩

/-- **What is no row is reported**, at the place where it was looked for. -/
lemma reports_of_readRow {cause : ReadError}
    (refused : readRow columns number record = .error cause) :
    Reports columns record.fields cause ∧
      cause.position = positionOf number record := by
  rw [readRow] at refused
  split_ifs at refused with long
  · rw [decodeRecord] at refused
    split at refused
    · cases refused
    · next field validBytes found =>
        obtain rfl := Except.error.inj refused
        obtain ⟨j, bad, rfl, here, upTo, before⟩ := decodeFields_eq_error found
        rw [Nat.zero_add]
        exact ⟨.invalidText long here upTo before, rfl⟩
  · obtain rfl := Except.error.inj refused
    exact ⟨.unequalLengths long, rfl⟩

end Records

/-! ## The header -/

/-- The fields of the header of a file. -/
def headerFields (bytes : Bytes) : List Bytes :=
  ((Format.records bytes).head?.map RawRecord.fields).getD []

lemma readHeader_eq_ok_iff {bytes : Bytes} {header : List String} :
    readHeader bytes = .ok header ↔ headerFields bytes = rowBytes header := by
  rw [readHeader, headerFields]
  split
  · next none =>
      rw [none]
      simp [rowBytes, eq_comm]
  · next first rest found =>
      rw [found]
      exact decodeRecord_eq_ok_iff

/-- An error of the header tells that it is the header. -/
lemma readHeader_position {bytes : Bytes} {cause : ReadError}
    (refused : readHeader bytes = .error cause) : cause.position.record = 0 := by
  rw [readHeader] at refused
  split at refused
  · cases refused
  · rw [decodeRecord] at refused
    split at refused
    · cases refused
    · obtain rfl := Except.error.inj refused
      rfl

lemma valid_headerFields_iff {bytes : Bytes} :
    (∀ field ∈ headerFields bytes, Utf8.Valid field) ↔ ∃ header, readHeader bytes = .ok header := by
  simp only [readHeader_eq_ok_iff]
  constructor
  · intro valid
    choose! text spells using valid
    refine ⟨(headerFields bytes).map text, ?_⟩
    rw [rowBytes, List.map_map]
    refine (List.map_id _).symm.trans (List.map_congr_left fun field member => ?_)
    exact (spells field member).symm
  · rintro ⟨header, spelled⟩ field member
    rw [spelled, rowBytes] at member
    obtain ⟨text, -, rfl⟩ := List.mem_map.mp member
    exact ⟨text, rfl⟩

/-! ## Rows among records -/

/-- **The reader cuts the records in two.**  The first are its rows; the others are none if there
was no failure, and begin with the record that failed if there was one. -/
lemma readRows_cut {columns number : Nat} {records : List RawRecord}
    {rows : List (List String)} {failure : Option ReadError}
    (stopped : readRows columns number records = (rows, failure)) :
    ∃ found behind, records = found ++ behind ∧
      found.map RawRecord.fields = rows.map rowBytes ∧ (failure = none → behind = []) ∧
      ∀ cause, failure = some cause → ∃ record, behind.head? = some record ∧
        readRow columns (number + rows.length) record = .error cause := by
  induction records generalizing number rows with
  | nil =>
      obtain ⟨rfl, rfl⟩ := Prod.mk.inj stopped
      exact ⟨[], [], rfl, rfl, fun _ => rfl, nofun⟩
  | cons record rest ih =>
      cases reading : readRow columns number record with
      | error cause =>
          rw [readRows_of_error reading] at stopped
          obtain ⟨rfl, rfl⟩ := Prod.mk.inj stopped
          refine ⟨[], record :: rest, rfl, rfl, nofun, fun other same => ⟨record, rfl, ?_⟩⟩
          rw [← Option.some.inj same]
          exact reading
      | ok row =>
          rw [readRows_of_ok reading] at stopped
          obtain ⟨rfl, rfl⟩ := Prod.mk.inj stopped
          obtain ⟨found, behind, rfl, hfound, whole, failed⟩ := ih rfl
          refine ⟨record :: found, behind, rfl, ?_, whole, fun cause same => ?_⟩
          · rw [List.map_cons, List.map_cons, hfound, (readRow_eq_ok_iff.mp reading).1]
          · rw [List.length_cons, Nat.add_comm _ 1, ← Nat.add_assoc]
            exact failed cause same

section Files

variable {bytes : Bytes} {table : Table} {failure : Option ReadError}

lemma ReadsUpTo.cut (upTo : ReadsUpTo bytes table failure) :
    ∃ found behind, (Format.records bytes).tail = found ++ behind ∧
      found.map RawRecord.fields = table.rows.map rowBytes ∧ (failure = none → behind = []) ∧
      ∀ cause, failure = some cause → ∃ record, behind.head? = some record ∧
        readRow table.header.length (table.size + 1) record = .error cause := by
  rw [size, Nat.add_comm _ 1]
  exact readRows_cut (readsUpTo_iff.mp upTo).2

/-- Records that make rows are not malformed. -/
lemma not_malformed_of_found {found : List RawRecord} (rectangular : table.Rectangular)
    (spelled : found.map RawRecord.fields = table.rows.map rowBytes) :
    ∀ record ∈ found, ¬Malformed table.header.length record.fields := by
  intro record member
  have inside : record.fields ∈ table.rows.map rowBytes := by
    rw [← spelled]
    exact List.mem_map_of_mem member
  obtain ⟨row, hrow, hfields⟩ := List.mem_map.mp inside
  exact not_malformed_of_row hfields.symm (rectangular row hrow)

/-- **What can be read**: a header of texts, and no malformed record below it. -/
lemma exists_read_iff :
    (∃ table, read bytes = .ok table) ↔ (∀ field ∈ headerFields bytes, Utf8.Valid field) ∧
      ∀ record ∈ (Format.records bytes).tail,
        ¬Malformed (headerFields bytes).length record.fields := by
  have columns : ∀ {header}, readHeader bytes = .ok header →
      (headerFields bytes).length = header.length := by
    intro header readable
    rw [readHeader_eq_ok_iff.mp readable, rowBytes, List.length_map]
  rw [valid_headerFields_iff]
  constructor
  · rintro ⟨whole, accepted⟩
    cases readable : readHeader bytes with
    | error cause =>
        rw [read_of_readHeader_error readable] at accepted
        cases accepted
    | ok header =>
        refine ⟨⟨header, rfl⟩, ?_⟩
        obtain ⟨table, failure, rfl, upTo⟩ := exists_readsUpTo readable
        obtain ⟨found, behind, cut, spelled, complete, -⟩ := upTo.cut
        have ended : failure = none := by
          cases failure with
          | none => rfl
          | some cause =>
              rw [upTo.read] at accepted
              cases accepted
        rw [cut, complete ended, List.append_nil, columns readable]
        exact not_malformed_of_found upTo.rectangular spelled
  · rintro ⟨⟨header, readable⟩, wellFormed⟩
    obtain ⟨table, failure, rfl, upTo⟩ := exists_readsUpTo readable
    obtain ⟨found, behind, cut, -, -, failed⟩ := upTo.cut
    cases failure with
    | none => exact ⟨table, upTo.read⟩
    | some cause =>
        obtain ⟨record, first, refused⟩ := failed cause rfl
        have member : record ∈ (Format.records bytes).tail := by
          rw [cut]
          exact List.mem_append_right _ (List.mem_of_head? first)
        rw [columns readable] at wellFormed
        exact absurd (reports_of_readRow refused).1.malformed (wellFormed record member)

end Files

/-! ## The place of an error -/

/-- **An error stands at its place.**  What it says is true of the bytes on both sides of it. -/
structure Located (bytes : Bytes) (table : Table) (cause : ReadError) : Prop where
  /-- The bytes before are the file of a table. -/
  before : read (bytes.take cause.position.byte) = .ok table
  rectangular : table.Rectangular
  header : readHeader bytes = .ok table.header
  /-- Its rows are all records that have been counted, but for the header. -/
  record : cause.position.record = table.size + 1
  line : cause.position.line = (bytes.take cause.position.byte).count lineFeed + 1
  /-- They end with the byte that ends the last of its records. -/
  whole : ∃ front, bytes.take cause.position.byte = bytes.take (markSize bytes) ++ front ∧
    WholeRecords table.records front
  /-- No record among them is malformed. -/
  first : ∀ earlier ∈ (Format.records bytes).tail.take table.size,
    ¬Malformed table.header.length earlier.fields
  /-- The next record behind them is, and it is what the error is about. -/
  next : ∃ record,
    (Format.records bytes)[cause.position.record]?.map RawRecord.fields = some record ∧
    nextRecord? (bytes.drop cause.position.byte) = some record ∧
    Malformed table.header.length record ∧ Reports table.header.length record cause

/-- The record at which the reader stops, behind the records of the table so far. -/
lemma ReadsUpTo.stopped {bytes : Bytes} {table : Table} {cause : ReadError}
    (upTo : ReadsUpTo bytes table (some cause)) :
    ∃ record, (Format.records bytes)[table.size + 1]? = some record ∧
      ((Format.records bytes).take (table.size + 1)).map RawRecord.fields = table.records ∧
      readRow table.header.length (table.size + 1) record = .error cause := by
  obtain ⟨found, behind, cut, spelled, -, failed⟩ := upTo.cut
  obtain ⟨record, first, refused⟩ := failed cause rfl
  obtain ⟨others, rfl⟩ := List.head?_eq_some_iff.mp first
  have long : found.length = table.size := by
    simpa [size] using congrArg List.length spelled
  cases listed : Format.records bytes with
  | nil =>
      rw [listed] at cut
      simp at cut
  | cons top rest =>
      obtain rfl : rest = found ++ record :: others := by rwa [listed] at cut
      have header : top.fields = rowBytes table.header := by
        have fields := readHeader_eq_ok_iff.mp upTo.header
        rwa [headerFields, listed] at fields
      refine ⟨record, ?_, ?_, refused⟩
      · rw [List.getElem?_cons_succ, ← long, List.getElem?_append_right le_rfl]
        simp
      · rw [List.take_succ_cons, ← long, List.take_left, List.map_cons, header, spelled]
        rfl

/-- **The reader fails at the place that it tells.** -/
lemma ReadsUpTo.located {bytes : Bytes} {table : Table} {cause : ReadError}
    (upTo : ReadsUpTo bytes table (some cause)) : Located bytes table cause := by
  obtain ⟨record, here, spelled, refused⟩ := upTo.stopped
  obtain ⟨reports, place⟩ := reports_of_readRow refused
  obtain ⟨front, rest, cut, passed, next, whole⟩ := records_before here
  rw [spelled] at whole
  rw [positionOf, passed, Cursor.advanceAll_eq] at place
  have size : (bytes.take (markSize bytes) ++ front).length = cause.position.byte := by
    rw [place]
    exact (Nat.zero_add _).symm
  have counted : cause.position.record = table.size + 1 := by
    rw [place]
  have sides : bytes = (bytes.take (markSize bytes) ++ front) ++ rest :=
    cut.trans (List.append_assoc _ _ _).symm
  have before : bytes.take cause.position.byte = bytes.take (markSize bytes) ++ front :=
    (congrArg (List.take cause.position.byte) sides).trans (List.take_left' size)
  have after : bytes.drop cause.position.byte = rest :=
    (congrArg (List.drop cause.position.byte) sides).trans (List.drop_left' size)
  have rows : ((Format.records bytes).tail.take table.size).map RawRecord.fields
      = table.rows.map rowBytes := by
    have tails := congrArg List.tail spelled
    cases listed : Format.records bytes with
    | nil =>
        rw [listed] at here
        cases here
    | cons top rest => rwa [listed, List.take_succ_cons] at tails
  refine
    { before := ?_
      rectangular := upTo.rectangular
      header := upTo.header
      record := counted
      line := ?_
      whole := ⟨front, before, whole⟩
      first := not_malformed_of_found upTo.rectangular rows
      next := ⟨record.fields, ?_, by rwa [after], reports.malformed, reports⟩ }
  · rw [before]
    exact read_of_records upTo.rectangular (records_whole cut whole)
  · rw [before, place]
    exact Nat.add_comm _ _
  · rw [counted, here]
    rfl

/-- **Where the reader fails, and when.**  If it fails below the header, the place that it tells is
right: what stands before is a file with the same header and all rows so far, the line is counted
by the line feeds in it, and the next record behind it is the first that is malformed.  Reading
succeeds just if the fields of the header are texts and no record below it is malformed. -/
theorem read_error_located (bytes : Bytes) :
    (∀ cause, read bytes = .error cause → 1 ≤ cause.position.record →
      ∃ table, Located bytes table cause) ∧
    ((∃ table, read bytes = .ok table) ↔ (∀ field ∈ headerFields bytes, Utf8.Valid field) ∧
      ∀ record ∈ (Format.records bytes).tail,
        ¬Malformed (headerFields bytes).length record.fields) := by
  refine ⟨fun cause refused below => ?_, exists_read_iff⟩
  cases readable : readHeader bytes with
  | error other =>
      rw [read_of_readHeader_error readable] at refused
      obtain rfl := Except.error.inj refused
      rw [readHeader_position readable] at below
      cases below
  | ok header =>
      obtain ⟨table, failure, -, upTo⟩ := exists_readsUpTo readable
      rw [upTo.read] at refused
      cases failure with
      | none => cases refused
      | some other =>
          obtain rfl := Except.error.inj refused
          exact ⟨table, upTo.located⟩

/-- A byte order mark, a row over two lines and a blank line before a row that is too short. -/
def shortRow : Bytes :=
  Utf8.encode "\uFEFFa,b\r\n\"x\ny\",1\r\n\nz\n"

/-- The short row is looked for from within the line end of the row before, so that the line feed
there does not count yet. -/
theorem read_error_located_shortRow :
    read shortRow = .error (.unequalLengths ⟨2, 3, 16⟩ 2 1) ∧
      Located shortRow ⟨["a", "b"], [["x\ny", "1"]]⟩ (.unequalLengths ⟨2, 3, 16⟩ 2 1) := by
  have refused : read shortRow = .error (.unequalLengths ⟨2, 3, 16⟩ 2 1) := by decide +kernel
  have before : read (shortRow.take 16) = .ok ⟨["a", "b"], [["x\ny", "1"]]⟩ := by decide +kernel
  obtain ⟨table, located⟩ := (read_error_located shortRow).1 _ refused (by decide)
  obtain rfl := Except.ok.inj (located.before.symm.trans before)
  exact ⟨refused, located⟩

end Table

end NameSieve
