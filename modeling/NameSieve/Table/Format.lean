import NameSieve.Text.Basic
import NameSieve.Text.Utf8

/-!
# Tables and their format

A table has a header, which names its columns, and rows.  A row need not be as long as the header:
tables built by hand may be ragged, and the format's writer finds that out.

A table is written as records, one after the other.  Commas separate the fields of a record, and
a line end of any kind ends it.  A field that begins with a quote is *quoted*: up to the next
single quote everything belongs to it, line ends included, and a quote is written twice.

This file cuts bytes into records, without asking whether the records fit together.

* `step` is the automaton of one record: where a byte leads from a `Mode`.
* `fields` and `extent` are the fields of the record at the begin of some bytes, and the number of
  bytes that it takes.
* A `Cursor` counts bytes and lines on the way through a file.
* `records` is the list of all records, each with the cursor from which it was looked for.
-/

namespace NameSieve

/-- A header and the rows below it. -/
structure Table where
  header : List String := []
  rows : List (List String) := []
deriving DecidableEq

namespace Table

/-- The first column that has the name. -/
def columnIndex? (table : Table) (name : String) : Option Nat :=
  table.header.findIdx? (· == name)

def size (table : Table) : Nat :=
  table.rows.length

end Table

namespace Format

/-! ## Bytes with a meaning -/

def comma : UInt8 := 0x2C

def quote : UInt8 := 0x22

def carriageReturn : UInt8 := 0x0D

def lineFeed : UInt8 := 0x0A

/-- Does the byte end a record, outside quotes? -/
def isLineEnd (byte : UInt8) : Bool :=
  byte == carriageReturn || byte == lineFeed

/-! ## One record -/

/-- Where in its record a byte stands. -/
inductive Mode where
  | start
  | bare
  | quoted
  /-- Behind a quote in a quoted field, which ends the quoted part unless another follows. -/
  | afterQuote
deriving DecidableEq

/-- What a byte does to the record. -/
inductive Action where
  | keep
  /-- The byte only changes the mode. -/
  | drop
  | separate
  | finish
deriving DecidableEq

/-- What a byte does outside quotes, where a quote is a byte like any other. -/
def stepBare (byte : UInt8) : Action × Mode :=
  if byte = comma then (.separate, .start)
  else if isLineEnd byte then (.finish, .start)
  else (.keep, .bare)

/-- What a byte does, and where the next byte stands. -/
def step (mode : Mode) (byte : UInt8) : Action × Mode :=
  match mode with
  | .start => if byte = quote then (.drop, .quoted) else stepBare byte
  | .bare => stepBare byte
  | .quoted => if byte = quote then (.drop, .afterQuote) else (.keep, .quoted)
  | .afterQuote => if byte = quote then (.keep, .quoted) else stepBare byte

/-- The fields of the record that goes on here.  A record ends with the bytes if not before. -/
def fields (mode : Mode) : Bytes → List Bytes
  | [] => [[]]
  | byte :: rest =>
      match step mode byte with
      | (.keep, next) => Text.consHead byte (fields next rest)
      | (.drop, next) => fields next rest
      | (.separate, next) => [] :: fields next rest
      | (.finish, _) => [[]]

/-- The number of bytes in the record that goes on here, without the byte that ends it. -/
def extent (mode : Mode) : Bytes → Nat
  | [] => 0
  | byte :: rest =>
      match step mode byte with
      | (.finish, _) => 0
      | (_, next) => extent next rest + 1

/-! ## Counting -/

/-- A place between the bytes of a file, as a reader counts it. -/
structure Cursor where
  /-- The number of bytes before. -/
  byte : Nat
  /-- The number of the line, counted from one. -/
  line : Nat
deriving DecidableEq

namespace Cursor

/-- The place in front of all bytes. -/
def start : Cursor :=
  ⟨0, 1⟩

/-- The place behind one byte more.  A line feed ends a line, wherever it stands. -/
def advance (cursor : Cursor) (byte : UInt8) : Cursor :=
  ⟨cursor.byte + 1, if byte = lineFeed then cursor.line + 1 else cursor.line⟩

/-- The place behind some bytes more. -/
def advanceAll (cursor : Cursor) (bytes : Bytes) : Cursor :=
  bytes.foldl advance cursor

end Cursor

/-! ## All records -/

/-- A record as it is found: its fields, and the place from which it was looked for. -/
structure RawRecord where
  /-- The place behind the record before, with one byte of its line end. -/
  place : Cursor
  /-- The fields, unquoted. -/
  fields : List Bytes
deriving DecidableEq

/-- The records in some bytes that begin at a place.  Line ends in front of a record are passed
over, so that there are no records without bytes. -/
def recordsFrom (place : Cursor) (bytes : Bytes) : List RawRecord :=
  let blank := bytes.takeWhile isLineEnd
  match h : bytes.dropWhile isLineEnd with
  | [] => []
  | byte :: rest =>
      have _shorter : (byte :: rest).length ≤ bytes.length :=
        h ▸ (List.dropWhile_sublist _).length_le
      let size := extent .start (byte :: rest) + 1
      ⟨place, fields .start (byte :: rest)⟩
        :: recordsFrom ((place.advanceAll blank).advanceAll ((byte :: rest).take size))
          ((byte :: rest).drop size)
termination_by bytes.length
decreasing_by
  simp only [List.length_drop, List.length_cons] at *
  omega

def byteOrderMark : Bytes :=
  [0xEF, 0xBB, 0xBF]

/-- The number of bytes of a byte order mark in front, or zero. -/
def markSize (bytes : Bytes) : Nat :=
  if byteOrderMark.isPrefixOf bytes then byteOrderMark.length else 0

/-- All records of a file.  One byte order mark in front is passed over; the first record is
looked for from the very begin. -/
def records (bytes : Bytes) : List RawRecord :=
  let mark := bytes.take (markSize bytes)
  match recordsFrom (Cursor.start.advanceAll mark) (bytes.drop (markSize bytes)) with
  | [] => []
  | first :: rest => { first with place := .start } :: rest

end Format

end NameSieve
