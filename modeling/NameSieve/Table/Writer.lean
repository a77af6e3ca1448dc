import NameSieve.Table.Format

/-!
# Writing tables

A record is written with commas between its fields and a line feed behind it.  A field stands in
quotes only if it holds a comma, a quote or a line end; a record without bytes of its own is
written as a pair of quotes, so that it is not taken for a blank line.

Every row must be as long as the header.  At the first that is not, writing stops, and the file
keeps what had been written of it: a *torn* record, whose last field is still open.
-/

namespace NameSieve

/-- Why a table was not written: a row of so many fields below a header of so many columns. -/
structure WriteError where
  expected : Nat
  found : Nat
deriving DecidableEq

def WriteError.message (error : WriteError) : String :=
  "CSV error: found record with " ++ toString error.found
    ++ " fields, but the previous record has " ++ toString error.expected ++ " fields"

namespace Format

/-- Must the field stand in quotes? -/
def needsQuotes (field : Bytes) : Bool :=
  field.any fun byte => byte == comma || byte == quote || isLineEnd byte

/-- The field with each quote written twice. -/
def doubleQuotes (field : Bytes) : Bytes :=
  field.flatMap fun byte => if byte = quote then [quote, quote] else [byte]

/-- A field as far as it is written before it is known to be complete. -/
def openField (field : Bytes) : Bytes :=
  if needsQuotes field then quote :: doubleQuotes field else field

def closedField (field : Bytes) : Bytes :=
  if needsQuotes field then openField field ++ [quote] else openField field

def joinFields : List Bytes → Bytes
  | [] => []
  | [field] => field
  | field :: rest => field ++ comma :: joinFields rest

/-- A record without the line feed behind it. -/
def recordText (fields : List Bytes) : Bytes :=
  if fields = [] ∨ fields = [[]] then [quote, quote] else joinFields (fields.map closedField)

def encodeRecord (fields : List Bytes) : Bytes :=
  recordText fields ++ [lineFeed]

/-- A record of which the writer has seen every field, but not the end. -/
def tornRecord : List Bytes → Bytes
  | [] => []
  | [field] => openField field
  | field :: rest => closedField field ++ comma :: tornRecord rest

end Format

namespace Table

/-- What a writer leaves behind: the bytes, and why it stopped before the end, if it did. -/
structure Written where
  bytes : Bytes
  failure : Option WriteError
deriving DecidableEq

def rowBytes (row : List String) : List Bytes :=
  row.map Utf8.encode

/-- Writes rows below a header of so many columns. -/
def writeRows (columns : Nat) : List (List String) → Written
  | [] => ⟨[], none⟩
  | row :: rest =>
      if row.length = columns then
        let more := writeRows columns rest
        ⟨Format.encodeRecord (rowBytes row) ++ more.bytes, more.failure⟩
      else ⟨Format.tornRecord (rowBytes row), some ⟨columns, row.length⟩⟩

def write (table : Table) : Written :=
  let rows := writeRows table.header.length table.rows
  ⟨Format.encodeRecord (rowBytes table.header) ++ rows.bytes, rows.failure⟩

end Table

end NameSieve
