import NameSieve.Proofs.Table.Readings
import NameSieve.Proofs.Table.RoundTrip
import NameSieve.Proofs.Table.Whole

/-!
# Tables that are torn off

A writer that meets a row of another length than the header stops, and leaves the row unfinished at
the end of its bytes.  What stands before it is whole, and the torn row is not taken for a row.

* `FirstMisfit` names the row, and `write_of_firstMisfit` tells what is left behind.
* `wholeRecords_encodeRecord`: the writer's records are whole, so that the place of what follows
  them is known.
* `fields_tornRecord`: in a torn record the reader finds the fields that were to be written, since
  quotes that are still open at the end of a file last up to it.  So the reader finds the length
  that the writer took exception to.

**`read_torn`** says what is read from the bytes.
-/

namespace NameSieve

open Format

/-! ## Torn records -/

namespace Format

open Text (consHead foldr_consHead)

/-- The quote that a torn record lacks: the closing one of its last field, if that has quotes. -/
def missingQuote (record : List Bytes) : Bytes :=
  if record.getLast?.any needsQuotes then [quote] else []

lemma joinFields_eq_torn (record : List Bytes) :
    joinFields (record.map closedField) = tornRecord record ++ missingQuote record := by
  induction record with
  | nil => rfl
  | cons field rest ih =>
      cases rest with
      | nil =>
          have last : [field].getLast?.any needsQuotes = needsQuotes field := rfl
          rw [tornRecord, List.map_singleton, joinFields, closedField, missingQuote, last]
          split_ifs
          · rfl
          · rw [List.append_nil]
      | cons other rest =>
          have last : missingQuote (field :: other :: rest) = missingQuote (other :: rest) := by
            rw [missingQuote, missingQuote, List.getLast?_cons_cons]
          rw [tornRecord, List.map_cons, List.map_cons, joinFields, last, List.append_assoc,
            List.cons_append, ← ih, List.map_cons]
          all_goals exact List.cons_ne_nil _ _

lemma openField_eq_nil {field : Bytes} : openField field = [] ↔ field = [] := by
  constructor
  · intro nothing
    rw [openField] at nothing
    split_ifs at nothing
    exact nothing
  · rintro rfl
    rfl

/-- Nothing is left of a record without fields, or of one with a single empty field. -/
lemma tornRecord_eq_nil {record : List Bytes} :
    tornRecord record = [] ↔ record = [] ∨ record = [[]] := by
  cases record with
  | nil => simp [tornRecord]
  | cons field rest =>
      cases rest with
      | nil => simp [tornRecord, openField_eq_nil]
      | cons other rest => simp [tornRecord]

/-- Where something is left, it is the text of the record without that quote. -/
lemma tornRecord_append_missingQuote {record : List Bytes} (visible : tornRecord record ≠ []) :
    tornRecord record ++ missingQuote record = recordText record := by
  rw [recordText, if_neg (mt tornRecord_eq_nil.mpr visible), joinFields_eq_torn]

/-- What is left does not begin with a line end. -/
lemma tornRecord_head {record : List Bytes} (visible : tornRecord record ≠ []) :
    ∀ byte ∈ (tornRecord record).head?, isLineEnd byte = false := by
  have columns : record ≠ [] := fun none => visible (tornRecord_eq_nil.mpr (Or.inl none))
  have spells := (recordText_text columns).1
  rw [← tornRecord_append_missingQuote visible] at spells
  rw [← List.head?_append_of_ne_nil _ visible]
  exact spells.head

/-- A field that is still open lasts up to the end of the bytes. -/
lemma fields_openField (field : Bytes) : fields .start (openField field) = [field] := by
  rw [openField]
  split_ifs with special
  · have collected := fields_doubleQuotes field []
    rw [List.append_nil] at collected
    calc fields .start (quote :: doubleQuotes field)
        = fields .quoted (doubleQuotes field) := rfl
      _ = field.foldr consHead [[]] := collected
      _ = [field] := by rw [foldr_consHead, List.append_nil]
  · have plain : FieldText field field := .bare (eq_false_of_ne_true special)
    have collected := fields_fieldText plain ends_nil.stops
    rwa [List.append_nil, fields, foldr_consHead, List.append_nil] at collected

lemma extent_openField (field : Bytes) :
    extent .start (openField field) = (openField field).length := by
  rw [openField]
  split_ifs with special
  · have counted := extent_doubleQuotes field []
    rw [List.append_nil] at counted
    calc extent .start (quote :: doubleQuotes field)
        = extent .quoted (doubleQuotes field) + 1 := rfl
      _ = (quote :: doubleQuotes field).length := by rw [counted, extent, List.length_cons]
  · have plain : FieldText field field := .bare (eq_false_of_ne_true special)
    have counted := extent_fieldText plain ends_nil.stops
    rwa [List.append_nil, extent] at counted

/-- **The fields of a torn record are found**, though the last is still open. -/
lemma fields_tornRecord {record : List Bytes} (columns : record ≠ []) :
    fields .start (tornRecord record) = record := by
  induction record with
  | nil => exact absurd rfl columns
  | cons field rest ih =>
      cases rest with
      | nil => exact fields_openField field
      | cons other rest =>
          rw [tornRecord, fields_fieldText (closedField_text field) (stops_comma _), fields_comma,
            ih (List.cons_ne_nil _ _), foldr_consHead, List.append_nil]
          exact List.cons_ne_nil _ _

lemma extent_tornRecord (record : List Bytes) :
    extent .start (tornRecord record) = (tornRecord record).length := by
  induction record with
  | nil => rfl
  | cons field rest ih =>
      cases rest with
      | nil => exact extent_openField field
      | cons other rest =>
          rw [tornRecord, extent_fieldText (closedField_text field) (stops_comma _), extent_comma,
            ih, List.length_append, List.length_cons]
          exact List.cons_ne_nil _ _

/-- A torn record is the last one. -/
lemma recordsFrom_tornRecord {record : List Bytes} (visible : tornRecord record ≠ [])
    (place : Cursor) : recordsFrom place (tornRecord record) = [⟨place, record⟩] := by
  have columns : record ≠ [] := fun none => visible (tornRecord_eq_nil.mpr (Or.inl none))
  have found := recordsFrom_visible (List.forall_mem_nil _) visible (tornRecord_head visible) place
  have nothing : (tornRecord record).drop ((tornRecord record).length + 1) = [] :=
    List.drop_eq_nil_of_le (Nat.le_succ _)
  rwa [List.nil_append, fields_tornRecord columns, extent_tornRecord, nothing,
    recordsFrom_blank (List.forall_mem_nil _)] at found

/-! ## Records behind records -/

/-- **The writer's records are whole.** -/
lemma wholeRecords_encodeRecord {records : List (List Bytes)}
    (columns : ∀ record ∈ records, record ≠ []) :
    WholeRecords records (records.flatMap encodeRecord) := by
  induction records with
  | nil => exact .nil
  | cons record records ih =>
      obtain ⟨column, columns⟩ := List.forall_mem_cons.mp columns
      obtain ⟨spells, visible⟩ := recordText_text column
      have ends : Ends [lineFeed] := ends_cons (by decide) []
      have first : ∀ byte ∈ (encodeRecord record).head?, isLineEnd byte = false := by
        rw [encodeRecord, List.head?_append_of_ne_nil _ visible]
        exact spells.head
      have closed : Closed .start (encodeRecord record) := by
        rw [Closed, encodeRecord, extent_recordText spells ends, List.length_append,
          List.length_singleton]
      have found : fields .start (encodeRecord record) = record := fields_recordText spells ends
      have whole := WholeRecords.cons (List.forall_mem_nil _) first closed (ih columns)
      rwa [found] at whole

/-- Without a byte order mark the records of a file are looked for from its begin on. -/
lemma records_of_unmarked {bytes : Bytes} (unmarked : ¬byteOrderMark <+: bytes) :
    Format.records bytes = recordsFrom .start bytes := by
  have begins : Cursor.start.advanceAll [] = .start := rfl
  rw [Format.records, markSize_of_unmarked unmarked, List.take_zero, List.drop_zero, begins]
  split
  · next none => exact none.symm
  · next first rest found =>
      rw [found]
      rw [recordsFrom] at found
      split at found
      · cases found
      · obtain ⟨rfl, -⟩ := List.cons.inj found
        rfl

end Format

/-! ## The row that does not fit -/

namespace Table

/-- **What is left of a row** that was torn off: its text without the quote that is missing, or
nothing if the row has no fields, or an empty one alone. -/
def LeftOf (row : List String) (torn : Bytes) : Prop :=
  if row = [] ∨ row = [""] then torn = []
  else torn ++ missingQuote (rowBytes row) = recordText (rowBytes row)

/-- **The first row of another length** than the header, and its place. -/
structure FirstMisfit (table : Table) (i : Nat) (row : List String) : Prop where
  here : table.rows[i]? = some row
  misfit : row.length ≠ table.header.length
  before : ∀ earlier ∈ table.rows.take i, earlier.length = table.header.length

/-- The table up to a row, which it has no more. -/
def upTo (table : Table) (i : Nat) : Table :=
  ⟨table.header, table.rows.take i⟩

section Misfit

variable {table : Table} {i : Nat} {row : List String}

/-- A table that is not rectangular has a first row that does not fit. -/
lemma exists_firstMisfit (ragged : ¬table.Rectangular) : ∃ i row, table.FirstMisfit i row := by
  have misfits : ∃ i : Nat, ∃ row : List String,
      table.rows[i]? = some row ∧ row.length ≠ table.header.length := by
    simp only [Rectangular, not_forall] at ragged
    obtain ⟨row, member, misfit⟩ := ragged
    obtain ⟨i, here⟩ := List.getElem?_of_mem member
    exact ⟨i, row, here, misfit⟩
  classical
  obtain ⟨row, here, misfit⟩ := Nat.find_spec misfits
  refine ⟨Nat.find misfits, row, here, misfit, fun earlier member => ?_⟩
  obtain ⟨j, hj, rfl⟩ := List.mem_take_iff_getElem.mp member
  rw [lt_min_iff] at hj
  by_contra other
  exact Nat.find_min misfits hj.1 ⟨_, List.getElem?_eq_getElem hj.2, other⟩

lemma FirstMisfit.upTo_rectangular (first : table.FirstMisfit i row) : (table.upTo i).Rectangular :=
  first.before

lemma FirstMisfit.upTo_size (first : table.FirstMisfit i row) : (table.upTo i).rows.length = i := by
  obtain ⟨inside, -⟩ := List.getElem?_eq_some_iff.mp first.here
  rw [upTo, List.length_take, Nat.min_eq_left (Nat.le_of_lt inside)]

/-- **What the writer leaves**: the table up to the row that does not fit, and that row torn. -/
theorem write_of_firstMisfit (first : table.FirstMisfit i row) :
    table.write = ⟨(table.upTo i).write.bytes ++ tornRecord (rowBytes row),
      some ⟨table.header.length, row.length⟩⟩ := by
  obtain ⟨inside, held⟩ := List.getElem?_eq_some_iff.mp first.here
  have split : table.rows.take i ++ row :: table.rows.drop (i + 1) = table.rows := by
    rw [← held, List.getElem_cons_drop, List.take_append_drop]
  have stopped := writeRows_append first.before (row :: table.rows.drop (i + 1))
  rw [split, writeRows, if_neg first.misfit] at stopped
  rw [write, stopped, write_eq first.upTo_rectangular, records, upTo, List.map_cons,
    List.flatMap_cons, List.append_assoc]

/-- The writer comes to the end of rectangular tables, and of no others. -/
lemma write_failure_eq_none : table.write.failure = none ↔ table.Rectangular := by
  constructor
  · intro whole
    by_contra ragged
    obtain ⟨i, row, first⟩ := exists_firstMisfit ragged
    rw [write_of_firstMisfit first] at whole
    cases whole
  · intro rectangular
    rw [write_eq rectangular]

/-! ## What is read -/

/-- A row of which nothing is left. -/
lemma tornRecord_rowBytes_eq_nil : tornRecord (rowBytes row) = [] ↔ row = [] ∨ row = [""] := by
  have empty : rowBytes row = [[]] ↔ row = [""] := by
    constructor
    · intro empty
      obtain ⟨field, rest, rfl, hfield, hrest⟩ := List.map_eq_cons_iff.mp empty
      have decoded : (.ok field : Except Nat String) = .ok "" := by
        rw [← Utf8.decode_encode field, hfield]
        exact Utf8.decode_encode ""
      rw [Except.ok.inj decoded, List.map_eq_nil_iff.mp hrest]
    · rintro rfl
      rfl
  rw [tornRecord_eq_nil, empty, rowBytes, List.map_eq_nil_iff]

lemma leftOf_tornRecord (row : List String) : LeftOf row (tornRecord (rowBytes row)) := by
  rw [LeftOf]
  split_ifs with blank
  · exact tornRecord_rowBytes_eq_nil.mpr blank
  · exact tornRecord_append_missingQuote (mt tornRecord_rowBytes_eq_nil.mp blank)

/-- The row that does not fit stops the reader where it stopped the writer. -/
lemma readsUpTo_of_firstMisfit (first : table.FirstMisfit i row) (columns : table.header ≠ [])
    (unmarked : ¬byteOrderMark <+: table.write.bytes) (visible : tornRecord (rowBytes row) ≠ []) :
    ReadsUpTo table.write.bytes (table.upTo i)
      (some (.unequalLengths ⟨i + 1, 1 + (table.upTo i).write.bytes.count lineFeed,
        (table.upTo i).write.bytes.length⟩ table.header.length row.length)) := by
  have rectangular := first.upTo_rectangular
  obtain ⟨found, hfields, hfound⟩ := recordsFrom_whole
    (wholeRecords_encodeRecord (records_ne_nil rectangular columns)) (tornRecord (rowBytes row))
    .start
  obtain ⟨top, rest, rfl, htop, hrest⟩ := List.map_eq_cons_iff.mp hfields
  have whole : (table.upTo i).records.flatMap encodeRecord = (table.upTo i).write.bytes := by
    rw [write_eq rectangular]
  have written : table.write.bytes = (table.upTo i).write.bytes ++ tornRecord (rowBytes row) := by
    rw [write_of_firstMisfit first]
  have listed : Format.records table.write.bytes
      = top :: (rest ++ [⟨Cursor.start.advanceAll (table.upTo i).write.bytes, rowBytes row⟩]) := by
    rw [records_of_unmarked unmarked, written, ← whole, hfound, recordsFrom_tornRecord visible,
      List.cons_append]
  have refused : readRow table.header.length (i + 1)
      ⟨Cursor.start.advanceAll (table.upTo i).write.bytes, rowBytes row⟩
        = .error (.unequalLengths ⟨i + 1, 1 + (table.upTo i).write.bytes.count lineFeed,
            (table.upTo i).write.bytes.length⟩ table.header.length row.length) := by
    have misfit : (rowBytes row).length ≠ table.header.length := by
      rw [rowBytes, List.length_map]
      exact first.misfit
    rw [readRow, if_neg misfit, positionOf, Cursor.advanceAll_eq, rowBytes, List.length_map]
    simp only [Cursor.start, Nat.zero_add]
  rw [readsUpTo_iff]
  constructor
  · rw [readHeader, listed]
    exact decodeRecord_rowBytes htop
  · have stopped : readRows (table.upTo i).header.length (i + 1)
        [⟨Cursor.start.advanceAll (table.upTo i).write.bytes, rowBytes row⟩] = ([], some _) :=
      readRows_of_error refused
    rw [listed, List.tail_cons, readRows_append rectangular hrest, first.upTo_size,
      Nat.add_comm 1 i, stopped, List.append_nil]

/-- **A torn row is not taken for data.**  If nothing is left of it, the table up to it is read;
otherwise reading fails at it, since it is found to have the length that the writer stopped at. -/
theorem read_torn (first : table.FirstMisfit i row) (columns : table.header ≠ [])
    (unmarked : ¬byteOrderMark <+: table.write.bytes) :
    read table.write.bytes = if row = [] ∨ row = [""] then .ok (table.upTo i)
      else .error (.unequalLengths ⟨i + 1, 1 + (table.upTo i).write.bytes.count lineFeed,
        (table.upTo i).write.bytes.length⟩ table.header.length row.length) := by
  split_ifs with blank
  · have written : table.write.bytes = (table.upTo i).write.bytes := by
      rw [write_of_firstMisfit first, tornRecord_rowBytes_eq_nil.mpr blank, List.append_nil]
    rw [written] at unmarked ⊢
    exact read_write first.upTo_rectangular columns (mt (mark_isPrefix_write _).mpr unmarked)
  · have visible := mt tornRecord_rowBytes_eq_nil.mp blank
    exact (readsUpTo_of_firstMisfit first columns unmarked visible).read

end Misfit

end Table

end NameSieve
