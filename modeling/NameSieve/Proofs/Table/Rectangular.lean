import NameSieve.Proofs.Text.Utf8
import NameSieve.Table.Reader
import NameSieve.Table.Writer

/-!
# Rectangular tables

A table is *rectangular* if its rows are as long as its header.  Rectangular tables are where the
reader and the writer meet: the reader makes no others (`rectangular_of_read`), and the writer
finishes no others.

On them both can be told by records alone.  `records` is a rectangular table as records of bytes;
it is what the writer encodes (`write_eq`), and a file whose records these are is read as the
table, wherever in the file they stand (`read_of_records`).
-/

namespace NameSieve.Table

/-- Every row is as long as the header. -/
def Rectangular (table : Table) : Prop :=
  ∀ row ∈ table.rows, row.length = table.header.length

instance (table : Table) : Decidable table.Rectangular :=
  inferInstanceAs (Decidable (∀ row ∈ table.rows, row.length = table.header.length))

/-- The header and the rows as records of bytes. -/
def records (table : Table) : List (List Bytes) :=
  (table.header :: table.rows).map rowBytes

/-! ## Rows that are read -/

lemma length_of_decodeFields {number : Nat} {fields : List Bytes} {texts : List String}
    (decoded : decodeFields number fields = .ok texts) : texts.length = fields.length := by
  induction fields generalizing number texts with
  | nil =>
      obtain rfl : [] = texts := Except.ok.inj decoded
      rfl
  | cons field rest ih =>
      simp only [decodeFields] at decoded
      split at decoded
      · cases decoded
      · split at decoded
        · cases decoded
        · next h =>
            obtain rfl := Except.ok.inj decoded
            rw [List.length_cons, List.length_cons, ih h]

lemma length_of_decodeRecord {number : Nat} {record : Format.RawRecord} {texts : List String}
    (decoded : decodeRecord number record = .ok texts) :
    texts.length = record.fields.length := by
  rw [decodeRecord] at decoded
  split at decoded
  · next h =>
      obtain rfl := Except.ok.inj decoded
      exact length_of_decodeFields h
  · cases decoded

lemma length_of_readRow {columns number : Nat} {record : Format.RawRecord} {row : List String}
    (accepted : readRow columns number record = .ok row) :
    row.length = columns := by
  rw [readRow] at accepted
  split at accepted
  · next fits => rw [length_of_decodeRecord accepted, fits]
  · cases accepted

/-- Every row that is read is as long as the header, also those before a malformed one. -/
lemma length_of_mem_readRows {columns number : Nat} {records : List Format.RawRecord} :
    ∀ row ∈ (readRows columns number records).1, row.length = columns := by
  induction records generalizing number with
  | nil => nofun
  | cons record rest ih =>
      rw [readRows]
      split
      · nofun
      · next row accepted => exact List.forall_mem_cons.mpr ⟨length_of_readRow accepted, ih⟩

/-- **The reader makes rectangular tables only.** -/
theorem rectangular_of_read {bytes : Bytes} {table : Table} (accepted : read bytes = .ok table) :
    table.Rectangular := by
  rw [read] at accepted
  split at accepted
  · cases accepted
  · next header rows scanned =>
      obtain rfl := Except.ok.inj accepted
      rw [scan] at scanned
      split at scanned
      · obtain ⟨rfl, rfl, -⟩ := Scan.mk.inj (Except.ok.inj scanned)
        nofun
      · split at scanned
        · cases scanned
        · obtain ⟨rfl, rfl, -⟩ := Scan.mk.inj (Except.ok.inj scanned)
          exact length_of_mem_readRows
  · cases accepted

/-! ## Reading by records -/

lemma decodeFields_rowBytes (row : List String) (number : Nat) :
    decodeFields number (rowBytes row) = .ok row := by
  induction row generalizing number with
  | nil => rfl
  | cons text rest ih =>
      rw [rowBytes] at ih ⊢
      simp only [List.map_cons, decodeFields, Utf8.decode_encode, ih]

lemma decodeRecord_rowBytes {number : Nat} {record : Format.RawRecord} {row : List String}
    (spelled : record.fields = rowBytes row) :
    decodeRecord number record = .ok row := by
  rw [decodeRecord, spelled, decodeFields_rowBytes]

/-- Rows are read from the records that hold them, whatever comes behind. -/
lemma readRows_append {columns : Nat} {rows : List (List String)}
    (fit : ∀ row ∈ rows, row.length = columns) {number : Nat} {records : List Format.RawRecord}
    (spelled : records.map Format.RawRecord.fields = rows.map rowBytes)
    (more : List Format.RawRecord) :
    readRows columns number (records ++ more)
      = (rows ++ (readRows columns (number + rows.length) more).1,
          (readRows columns (number + rows.length) more).2) := by
  induction rows generalizing number records with
  | nil =>
      obtain rfl := List.map_eq_nil_iff.mp spelled
      rfl
  | cons row rest ih =>
      obtain ⟨record, others, rfl, hrecord, hothers⟩ := List.map_eq_cons_iff.mp spelled
      obtain ⟨fits, fit⟩ := List.forall_mem_cons.mp fit
      have long : record.fields.length = columns := by
        rw [hrecord, rowBytes, List.length_map, fits]
      simp only [List.cons_append, readRows, readRow, if_pos long, decodeRecord_rowBytes hrecord,
        ih fit hothers, List.length_cons, Nat.add_comm rest.length 1, Nat.add_assoc]

lemma readRows_rowBytes {columns : Nat} {rows : List (List String)}
    (fit : ∀ row ∈ rows, row.length = columns) {number : Nat} {records : List Format.RawRecord}
    (spelled : records.map Format.RawRecord.fields = rows.map rowBytes) :
    readRows columns number records = (rows, none) := by
  have read : readRows columns number (records ++ []) = _ := readRows_append fit spelled []
  rwa [List.append_nil, readRows, List.append_nil] at read

/-- **A file is read as the table whose records it holds.** -/
theorem read_of_records {bytes : Bytes} {table : Table} (rectangular : table.Rectangular)
    (spelled : (Format.records bytes).map Format.RawRecord.fields = table.records) :
    read bytes = .ok table := by
  obtain ⟨first, rest, hrecords, hfirst, hrest⟩ := List.map_eq_cons_iff.mp spelled
  simp only [read, scan, hrecords, decodeRecord_rowBytes hfirst,
    readRows_rowBytes rectangular hrest]

/-- A file without records is read as the table without columns. -/
lemma read_of_no_records {bytes : Bytes}
    (spelled : (Format.records bytes).map Format.RawRecord.fields = []) :
    read bytes = .ok ⟨[], []⟩ := by
  rw [read, scan, List.map_eq_nil_iff.mp spelled]

/-! ## Writing by records -/

/-- Rows that are as long as the header are written, and writing goes on behind them. -/
lemma writeRows_append {columns : Nat} {rows : List (List String)}
    (fit : ∀ row ∈ rows, row.length = columns) (more : List (List String)) :
    writeRows columns (rows ++ more)
      = ⟨(rows.map rowBytes).flatMap Format.encodeRecord ++ (writeRows columns more).bytes,
          (writeRows columns more).failure⟩ := by
  induction rows with
  | nil => rfl
  | cons row rest ih =>
      obtain ⟨fits, fit⟩ := List.forall_mem_cons.mp fit
      rw [List.cons_append, writeRows, if_pos fits, ih fit, List.map_cons, List.flatMap_cons,
        List.append_assoc]

lemma writeRows_eq {columns : Nat} {rows : List (List String)}
    (fit : ∀ row ∈ rows, row.length = columns) :
    writeRows columns rows = ⟨(rows.map rowBytes).flatMap Format.encodeRecord, none⟩ := by
  have written := writeRows_append fit []
  rwa [List.append_nil, writeRows, List.append_nil] at written

/-- **A rectangular table is written to the end**, record by record. -/
theorem write_eq {table : Table} (rectangular : table.Rectangular) :
    table.write = ⟨table.records.flatMap Format.encodeRecord, none⟩ := by
  rw [write, writeRows_eq rectangular, records, List.map_cons, List.flatMap_cons]

end NameSieve.Table
