import NameSieve.Table.Format

/-!
# Reading tables

The first record of a file is the header, and each record after it is a row.  A row is malformed
if it is not as long as the header, or else if some field is not a text in UTF-8.

* `scan` reads a file up to its first malformed row: the header, the rows before, and what is wrong
  with the row, if there is one.
* `read` is the table of a file without malformed rows.

An error says where its record was looked for, as a `Position`.
-/

namespace NameSieve

open Format (RawRecord)

/-- Where a record was looked for. -/
structure Position where
  /-- The number of the record; the header has number zero. -/
  record : Nat
  /-- The number of the line, counted from one by the line feeds before. -/
  line : Nat
  /-- The number of bytes before. -/
  byte : Nat
deriving DecidableEq

inductive ReadError where
  | unequalLengths (position : Position) (expected found : Nat)
  /-- A field is no text; so many of its bytes are well formed. -/
  | invalidText (position : Position) (field validBytes : Nat)
deriving DecidableEq

def ReadError.message : ReadError → String
  | .unequalLengths position expected found =>
      "CSV error: record " ++ toString position.record ++ " (line: " ++ toString position.line
        ++ ", byte: " ++ toString position.byte ++ "): found record with " ++ toString found
        ++ " fields, but the previous record has " ++ toString expected ++ " fields"
  | .invalidText position field validBytes =>
      "CSV parse error: record " ++ toString position.record ++ " (line " ++ toString position.line
        ++ ", field: " ++ toString field ++ ", byte: " ++ toString position.byte
        ++ "): invalid utf-8: invalid UTF-8 in field " ++ toString field ++ " near byte index "
        ++ toString validBytes

namespace Table

/-- The position of a record with a number. -/
def positionOf (number : Nat) (record : RawRecord) : Position :=
  ⟨number, record.place.line, record.place.byte⟩

/-- The texts of some fields, of which the first has a number; or the number of the first that is
no text, with the size of its well-formed beginning. -/
def decodeFields (number : Nat) : List Bytes → Except (Nat × Nat) (List String)
  | [] => .ok []
  | field :: rest =>
      match Utf8.decode field with
      | .error validBytes => .error (number, validBytes)
      | .ok text =>
          match decodeFields (number + 1) rest with
          | .error e => .error e
          | .ok texts => .ok (text :: texts)

/-- The texts of a record with a number. -/
def decodeRecord (number : Nat) (record : RawRecord) : Except ReadError (List String) :=
  match decodeFields 0 record.fields with
  | .ok texts => .ok texts
  | .error (field, validBytes) =>
      .error (.invalidText (positionOf number record) field validBytes)

/-- The row of a record with a number, below a header of so many columns. -/
def readRow (columns number : Nat) (record : RawRecord) : Except ReadError (List String) :=
  if record.fields.length = columns then decodeRecord number record
  else .error (.unequalLengths (positionOf number record) columns record.fields.length)

/-- The rows of some records, the first of which has a number, up to the first malformed one, and
what is wrong with that. -/
def readRows (columns : Nat) : Nat → List RawRecord → List (List String) × Option ReadError
  | _, [] => ([], none)
  | number, record :: rest =>
      match readRow columns number record with
      | .error e => ([], some e)
      | .ok row =>
          let (rows, failure) := readRows columns (number + 1) rest
          (row :: rows, failure)

/-- The header of a file, which is its first record.  A file without records has a header without
columns. -/
def readHeader (bytes : Bytes) : Except ReadError (List String) :=
  match Format.records bytes with
  | [] => .ok []
  | first :: _ => decodeRecord 0 first

/-- A file read up to its first malformed row. -/
structure Scan where
  header : List String
  /-- The rows before the first malformed one. -/
  rows : List (List String)
  failure : Option ReadError
deriving DecidableEq

/-- Reads a file up to its first malformed row; the header itself must be well formed.  A file
without records has a header without columns. -/
def scan (bytes : Bytes) : Except ReadError Scan :=
  match Format.records bytes with
  | [] => .ok ⟨[], [], none⟩
  | first :: rest =>
      match decodeRecord 0 first with
      | .error e => .error e
      | .ok header =>
          let (rows, failure) := readRows header.length 1 rest
          .ok ⟨header, rows, failure⟩

def read (bytes : Bytes) : Except ReadError Table :=
  match scan bytes with
  | .error e => .error e
  | .ok ⟨header, rows, none⟩ => .ok ⟨header, rows⟩
  | .ok ⟨_, _, some e⟩ => .error e

end Table

end NameSieve
