import NameSieve.Proofs.Table.Rectangular

/-!
# Files read record by record

Each record below the header can be read by itself; what it reads as does not hang on the records
before it.  `readings` lists what all of them read as, malformed ones included, and `ReadsUpTo`
cuts that list at the first malformed record.

The reader does not make the list but stops on the way.  **`readRows_eq_iff`** says that it stops
where the list is cut, and so `readsUpTo_iff` tells from the reader what a file reads up to.
-/

namespace NameSieve.Table

/-- What some records read as, each by itself; the first of them has a number. -/
def readingsFrom (columns : Nat) :
    Nat → List Format.RawRecord → List (Except ReadError (List String))
  | _, [] => []
  | number, record :: rest =>
      readRow columns number record :: readingsFrom columns (number + 1) rest

/-- What the records of a file read as, below a header of so many columns. -/
def readings (bytes : Bytes) (columns : Nat) : List (Except ReadError (List String)) :=
  readingsFrom columns 1 (Format.records bytes).tail

/-- **A file reads up to its first malformed record**: the header and the rows before that record
make a table, and the record fails to be a row.  Without such a record there is no failure, and the
table is the whole file. -/
structure ReadsUpTo (bytes : Bytes) (table : Table) (failure : Option ReadError) : Prop where
  header : readHeader bytes = .ok table.header
  rows : (readings bytes table.header.length).take table.size = table.rows.map .ok
  next : (readings bytes table.header.length)[table.size]? = failure.map .error

/-! ## Where the reader stops -/

section Rows

variable {columns number : Nat} {records : List Format.RawRecord}
  {rows : List (List String)} {failure : Option ReadError}

lemma readRows_of_ok {record : Format.RawRecord} {row : List String}
    (accepted : readRow columns number record = .ok row) :
    readRows columns number (record :: records)
      = (row :: (readRows columns (number + 1) records).1,
          (readRows columns (number + 1) records).2) := by
  rw [readRows, accepted]

lemma readRows_of_error {record : Format.RawRecord} {cause : ReadError}
    (refused : readRow columns number record = .error cause) :
    readRows columns number (record :: records) = ([], some cause) := by
  rw [readRows, refused]

/-- **The reader stops at the first malformed record**, or at the end. -/
theorem readRows_eq_iff :
    readRows columns number records = (rows, failure)
      ↔ (readingsFrom columns number records).take rows.length = rows.map .ok ∧
        (readingsFrom columns number records)[rows.length]? = failure.map .error := by
  induction records generalizing number rows with
  | nil => cases rows <;> cases failure <;> simp [readRows, readingsFrom]
  | cons record rest ih =>
      rw [readingsFrom]
      cases reading : readRow columns number record with
      | error cause =>
          rw [readRows_of_error reading]
          cases rows <;> cases failure <;> simp
      | ok row =>
          rw [readRows_of_ok reading]
          cases rows with
          | nil => cases failure <;> simp
          | cons first more =>
              rw [Prod.mk.injEq, List.cons.injEq, and_assoc, ← Prod.mk.injEq, ih]
              simp [and_assoc]

end Rows

/-! ## Whole files -/

variable {bytes : Bytes} {table : Table} {failure : Option ReadError}

lemma readsUpTo_iff :
    ReadsUpTo bytes table failure
      ↔ readHeader bytes = .ok table.header ∧
        readRows table.header.length 1 (Format.records bytes).tail
          = (table.rows, failure) := by
  constructor
  · rintro ⟨header, rows, next⟩
    exact ⟨header, readRows_eq_iff.mpr ⟨rows, next⟩⟩
  · rintro ⟨header, read⟩
    obtain ⟨rows, next⟩ := readRows_eq_iff.mp read
    exact ⟨header, rows, next⟩

/-- A file with a header that can be read reads up to some point. -/
lemma exists_readsUpTo {header : List String} (readable : readHeader bytes = .ok header) :
    ∃ table failure, table.header = header ∧ ReadsUpTo bytes table failure := by
  cases stopped : readRows header.length 1 (Format.records bytes).tail with
  | mk rows failure =>
      exact ⟨⟨header, rows⟩, failure, rfl, readsUpTo_iff.mpr ⟨readable, stopped⟩⟩

lemma read_of_readHeader_error {cause : ReadError} (refused : readHeader bytes = .error cause) :
    read bytes = .error cause := by
  rw [readHeader] at refused
  split at refused
  · cases refused
  · next first rest found => simp only [read, scan, found, refused]

/-- **The reader of whole files** fails with the first malformed record, if there is one. -/
lemma ReadsUpTo.read (upTo : ReadsUpTo bytes table failure) :
    read bytes = match failure with
      | some cause => .error cause
      | none => .ok table := by
  obtain ⟨header, rows⟩ := readsUpTo_iff.mp upTo
  have scanned : scan bytes = .ok ⟨table.header, table.rows, failure⟩ := by
    rw [readHeader] at header
    split at header
    · next none =>
        rw [none] at rows
        obtain ⟨noRows, noFailure⟩ := Prod.mk.inj rows
        simp only [scan, none, ← Except.ok.inj header, ← noRows, ← noFailure]
    · next first rest found =>
        rw [found, List.tail_cons] at rows
        simp only [scan, found, header, rows]
  rw [Table.read, scanned]
  cases failure <;> rfl

/-- The rows before the first malformed one are as long as the header. -/
lemma ReadsUpTo.rectangular (upTo : ReadsUpTo bytes table failure) : table.Rectangular := by
  obtain ⟨-, rows⟩ := readsUpTo_iff.mp upTo
  have kept : (readRows table.header.length 1 (Format.records bytes).tail).1 = table.rows :=
    congrArg Prod.fst rows
  intro row member
  rw [← kept] at member
  exact length_of_mem_readRows row member

end NameSieve.Table
