import Mathlib.Data.List.TakeWhile
import NameSieve.Proofs.Text.Split
import NameSieve.Table.Writer

/-!
# The spellings of records

A list of records can be written in many ways: a field bare or in quotes, a record with any run of
line ends behind it, the last one without.  `FieldText`, `RecordText` and `FileText` are these
ways as relations, without a word about how they are read.

The automaton reads every spelling as what it spells.  The proof follows it inwards:

* `fields_fieldText` and `extent_fieldText`: over the text of a field it collects the field and
  stands where a field ends;
* `fields_recordText` and `extent_recordText`: over the text of a record it collects the fields,
  and counts the bytes;
* **`recordsFrom_fileText`** and **`records_fileText`**: all records are found, from any place on
  and behind a byte order mark.

The writer's own text is one spelling among the others (`fileText_encodeRecord`).
-/

namespace NameSieve.Format

open Text (consHead foldr_consHead)

/-! ## Spellings -/

/-- **The texts of a field**: itself, if no byte of it has a meaning, or itself in quotes. -/
inductive FieldText : Bytes → Bytes → Prop where
  | bare {field : Bytes} (plain : needsQuotes field = false) : FieldText field field
  /-- The field in quotes, with its own quotes written twice. -/
  | quoted (field : Bytes) : FieldText field (quote :: (doubleQuotes field ++ [quote]))

/-- **The texts of a record**: texts of its fields with commas between them. -/
inductive RecordText : List Bytes → Bytes → Prop where
  | last {field text : Bytes} (spells : FieldText field text) : RecordText [field] text
  | cons {field text : Bytes} {fields : List Bytes} {more : Bytes} (spells : FieldText field text)
      (rest : RecordText fields more) : RecordText (field :: fields) (text ++ comma :: more)

/-- **The texts of a file**: texts of its records, each of at least one byte and with at least one
line end behind it, which the last may lack. -/
inductive FileText : List (List Bytes) → Bytes → Prop where
  | nil : FileText [] []
  | last {record : List Bytes} {text : Bytes} (spells : RecordText record text)
      (visible : text ≠ []) : FileText [record] text
  | cons {record : List Bytes} {text : Bytes} {lineEnd : UInt8} {blank : Bytes}
      {records : List (List Bytes)} {more : Bytes} (spells : RecordText record text)
      (visible : text ≠ []) (ends : isLineEnd lineEnd) (blanks : ∀ byte ∈ blank, isLineEnd byte)
      (rest : FileText records more) :
      FileText (record :: records) (text ++ lineEnd :: (blank ++ more))

lemma needsQuotes_eq_false {field : Bytes} :
    needsQuotes field = false
      ↔ ∀ byte ∈ field, byte ≠ comma ∧ byte ≠ quote ∧ isLineEnd byte = false := by
  simp [needsQuotes, and_assoc]

/-- Only a bare empty field has no bytes. -/
lemma FieldText.eq_nil {field : Bytes} (spells : FieldText field []) : field = [] := by
  cases spells
  rfl

/-- The text of a field does not begin with a line end, so that it is not taken for a blank
line. -/
lemma FieldText.head {field text : Bytes} (spells : FieldText field text) :
    ∀ byte ∈ text.head?, isLineEnd byte = false := by
  intro byte first
  cases spells with
  | bare plain => exact (needsQuotes_eq_false.mp plain byte (List.mem_of_head? first)).2.2
  | quoted =>
      obtain rfl : quote = byte := Option.some.inj first
      rfl

lemma RecordText.head {record : List Bytes} {text : Bytes} (spells : RecordText record text) :
    ∀ byte ∈ text.head?, isLineEnd byte = false := by
  cases spells with
  | last spells => exact spells.head
  | @cons field text fields more spells rest =>
      intro byte first
      cases text with
      | nil =>
          obtain rfl : comma = byte := Option.some.inj first
          rfl
      | cons b text => exact spells.head byte first

/-! ## Where a field may end -/

/-- A field ends before these bytes. -/
def Stops (rest : Bytes) : Prop :=
  ∀ byte ∈ rest.head?, byte = comma ∨ isLineEnd byte

/-- A record ends before these bytes. -/
def Ends (rest : Bytes) : Prop :=
  ∀ byte ∈ rest.head?, isLineEnd byte

lemma Ends.stops {rest : Bytes} (ends : Ends rest) : Stops rest :=
  fun byte first => Or.inr (ends byte first)

lemma ends_nil : Ends [] :=
  fun _ first => absurd first (Option.not_mem_none _)

lemma stops_comma (rest : Bytes) : Stops (comma :: rest) :=
  fun _ first => Or.inl (Option.some.inj first).symm

lemma ends_cons {byte : UInt8} (ends : isLineEnd byte) (rest : Bytes) : Ends (byte :: rest) :=
  fun _ first => Option.some.inj first ▸ ends

lemma quote_not_lineEnd : ¬isLineEnd quote := by
  decide

/-- Where a field ends, every mode outside quotes is as good as another. -/
lemma step_of_stops {mode : Mode} (outside : mode ≠ .quoted) {byte : UInt8}
    (stop : byte = comma ∨ isLineEnd byte) : step mode byte = step .bare byte := by
  have noQuote : byte ≠ quote := by
    rintro rfl
    exact stop.elim (by decide) quote_not_lineEnd
  cases mode with
  | start => simp only [step, if_neg noQuote]
  | bare => rfl
  | quoted => exact absurd rfl outside
  | afterQuote => simp only [step, if_neg noQuote]

lemma fields_of_stops (mode : Mode) (outside : mode ≠ .quoted) {rest : Bytes} (stops : Stops rest) :
    fields mode rest = fields .bare rest := by
  cases rest with
  | nil => rfl
  | cons byte rest => simp only [fields, step_of_stops outside (stops byte rfl)]

lemma extent_of_stops (mode : Mode) (outside : mode ≠ .quoted) {rest : Bytes} (stops : Stops rest) :
    extent mode rest = extent .bare rest := by
  cases rest with
  | nil => rfl
  | cons byte rest => simp only [extent, step_of_stops outside (stops byte rfl)]

/-- A line end ends the record. -/
lemma step_of_lineEnd {byte : UInt8} (lineEnd : isLineEnd byte) :
    step .bare byte = (.finish, .start) := by
  have noComma : byte ≠ comma := by
    rintro rfl
    cases lineEnd
  rw [step, stepBare, if_neg noComma, if_pos lineEnd]

lemma fields_of_ends {rest : Bytes} (ends : Ends rest) : fields .bare rest = [[]] := by
  cases rest with
  | nil => rfl
  | cons byte rest =>
      simp only [fields, step_of_lineEnd (ends byte rfl)]

lemma extent_of_ends {rest : Bytes} (ends : Ends rest) : extent .bare rest = 0 := by
  cases rest with
  | nil => rfl
  | cons byte rest =>
      simp only [extent, step_of_lineEnd (ends byte rfl)]

lemma fields_comma (rest : Bytes) : fields .bare (comma :: rest) = [] :: fields .start rest :=
  rfl

lemma extent_comma (rest : Bytes) : extent .bare (comma :: rest) = extent .start rest + 1 :=
  rfl

/-! ## Reading one field -/

/-- A byte without a meaning is kept, and opens no quotes. -/
lemma step_of_plain {byte : UInt8} (noComma : byte ≠ comma) (noQuote : byte ≠ quote)
    (noLineEnd : isLineEnd byte = false) {mode : Mode} (outside : mode = .start ∨ mode = .bare) :
    step mode byte = (.keep, .bare) := by
  have kept : stepBare byte = (.keep, .bare) := by
    rw [stepBare, if_neg noComma, if_neg (ne_true_of_eq_false noLineEnd)]
  rcases outside with rfl | rfl
  · rw [step, if_neg noQuote, kept]
  · rw [step, kept]

lemma fields_bare {field : Bytes} (plain : needsQuotes field = false) (rest : Bytes) :
    fields .bare (field ++ rest) = field.foldr consHead (fields .bare rest) := by
  rw [needsQuotes_eq_false] at plain
  induction field with
  | nil => rfl
  | cons byte field ih =>
      obtain ⟨⟨noComma, noQuote, noLineEnd⟩, plain⟩ := List.forall_mem_cons.mp plain
      rw [List.cons_append, List.foldr_cons, ← ih plain]
      simp only [fields, step_of_plain noComma noQuote noLineEnd (Or.inr rfl)]

lemma extent_bare {field : Bytes} (plain : needsQuotes field = false) (rest : Bytes) :
    extent .bare (field ++ rest) = field.length + extent .bare rest := by
  rw [needsQuotes_eq_false] at plain
  induction field with
  | nil => simp
  | cons byte field ih =>
      obtain ⟨⟨noComma, noQuote, noLineEnd⟩, plain⟩ := List.forall_mem_cons.mp plain
      have counted := ih plain
      simp only [List.cons_append, extent, step_of_plain noComma noQuote noLineEnd (Or.inr rfl),
        List.length_cons]
      omega

/-- Within quotes a field is collected, whatever follows it. -/
lemma fields_doubleQuotes (field rest : Bytes) :
    fields .quoted (doubleQuotes field ++ rest) = field.foldr consHead (fields .quoted rest) := by
  induction field with
  | nil => rfl
  | cons byte field ih =>
      rw [List.foldr_cons, ← ih, doubleQuotes, List.flatMap_cons]
      split_ifs with isQuote
      · subst isQuote
        rfl
      · simp only [List.cons_append, List.nil_append, fields, step, if_neg isQuote]
        rfl

lemma extent_doubleQuotes (field rest : Bytes) :
    extent .quoted (doubleQuotes field ++ rest)
      = (doubleQuotes field).length + extent .quoted rest := by
  induction field with
  | nil => simp [doubleQuotes]
  | cons byte field ih =>
      rw [doubleQuotes] at ih ⊢
      rw [List.flatMap_cons]
      split_ifs with isQuote
      · subst isQuote
        simp only [List.cons_append, List.nil_append, extent, step, if_pos, List.length_cons]
        omega
      · simp only [List.cons_append, List.nil_append, extent, step, if_neg isQuote,
          List.length_cons]
        omega

/-- Within quotes a field is collected up to the quote that closes it. -/
lemma fields_quoted (field rest : Bytes) :
    fields .quoted (doubleQuotes field ++ quote :: rest)
      = field.foldr consHead (fields .afterQuote rest) :=
  fields_doubleQuotes field (quote :: rest)

lemma extent_quoted (field rest : Bytes) :
    extent .quoted (doubleQuotes field ++ quote :: rest)
      = (doubleQuotes field).length + 1 + extent .afterQuote rest := by
  have closed : extent .quoted (quote :: rest) = extent .afterQuote rest + 1 := rfl
  rw [extent_doubleQuotes, closed]
  omega

/-- **A field is collected** from any of its texts. -/
lemma fields_fieldText {field text rest : Bytes} (spells : FieldText field text)
    (stops : Stops rest) :
    fields .start (text ++ rest) = field.foldr consHead (fields .bare rest) := by
  cases spells with
  | quoted =>
      rw [List.cons_append, List.append_assoc, ← fields_of_stops .afterQuote nofun stops,
        ← fields_quoted]
      rfl
  | bare plain =>
      cases field with
      | nil => exact fields_of_stops .start nofun stops
      | cons byte field =>
          rw [← fields_bare plain]
          obtain ⟨noComma, noQuote, noLineEnd⟩ :=
            needsQuotes_eq_false.mp plain byte List.mem_cons_self
          simp only [List.cons_append, fields, step_of_plain noComma noQuote noLineEnd (Or.inl rfl),
            step_of_plain noComma noQuote noLineEnd (Or.inr rfl)]

/-- The bytes of any text of a field are counted. -/
lemma extent_fieldText {field text rest : Bytes} (spells : FieldText field text)
    (stops : Stops rest) :
    extent .start (text ++ rest) = text.length + extent .bare rest := by
  cases spells with
  | quoted =>
      have counted := extent_quoted field rest
      rw [extent_of_stops .afterQuote nofun stops] at counted
      simp only [List.cons_append, List.append_assoc, List.nil_append, extent, step, if_pos,
        counted, List.length_cons, List.length_append, List.length_nil]
      omega
  | bare plain =>
      rw [← extent_bare plain]
      cases field with
      | nil => exact extent_of_stops .start nofun stops
      | cons byte field =>
          obtain ⟨noComma, noQuote, noLineEnd⟩ :=
            needsQuotes_eq_false.mp plain byte List.mem_cons_self
          simp only [List.cons_append, extent, step_of_plain noComma noQuote noLineEnd (Or.inl rfl),
            step_of_plain noComma noQuote noLineEnd (Or.inr rfl)]

/-! ## Reading one record -/

/-- **A record is collected** from any of its texts. -/
lemma fields_recordText {record : List Bytes} {text rest : Bytes} (spells : RecordText record text)
    (ends : Ends rest) : fields .start (text ++ rest) = record := by
  induction spells with
  | last spells =>
      rw [fields_fieldText spells ends.stops, fields_of_ends ends, foldr_consHead, List.append_nil]
  | cons spells _ ih =>
      rw [List.append_assoc, List.cons_append, fields_fieldText spells (stops_comma _),
        fields_comma, ih, foldr_consHead, List.append_nil]

lemma extent_recordText {record : List Bytes} {text rest : Bytes} (spells : RecordText record text)
    (ends : Ends rest) : extent .start (text ++ rest) = text.length := by
  induction spells with
  | last spells => rw [extent_fieldText spells ends.stops, extent_of_ends ends, Nat.add_zero]
  | cons spells _ ih =>
      rw [List.append_assoc, List.cons_append, extent_fieldText spells (stops_comma _),
        extent_comma, ih, List.length_append, List.length_cons]

/-! ## Reading all records -/

lemma recordsFrom_blank {blank : Bytes} (blanks : ∀ byte ∈ blank, isLineEnd byte)
    (place : Cursor) : recordsFrom place blank = [] := by
  have nothing : blank.dropWhile isLineEnd = [] := List.dropWhile_eq_nil_iff.mpr blanks
  rw [recordsFrom]
  split
  · rfl
  · next h =>
      rw [nothing] at h
      cases h

/-- Behind blank lines a record begins with the first byte that ends no line. -/
lemma recordsFrom_visible {blank bytes : Bytes} (blanks : ∀ byte ∈ blank, isLineEnd byte)
    (visible : bytes ≠ []) (first : ∀ byte ∈ bytes.head?, isLineEnd byte = false)
    (place : Cursor) :
    recordsFrom place (blank ++ bytes)
      = ⟨place, fields .start bytes⟩
        :: recordsFrom ((place.advanceAll blank).advanceAll (bytes.take (extent .start bytes + 1)))
          (bytes.drop (extent .start bytes + 1)) := by
  obtain ⟨byte, more, rfl⟩ := List.exists_cons_of_ne_nil visible
  have noLineEnd : isLineEnd byte = false := first byte rfl
  have dropped : (blank ++ byte :: more).dropWhile isLineEnd = byte :: more := by
    rw [List.dropWhile_append_of_pos blanks, List.dropWhile_cons_of_neg (by simp [noLineEnd])]
  have taken : (blank ++ byte :: more).takeWhile isLineEnd = blank := by
    rw [List.takeWhile_append_of_pos blanks, List.takeWhile_cons_of_neg (by simp [noLineEnd]),
      List.append_nil]
  rw [recordsFrom]
  split
  · next h =>
      rw [dropped] at h
      cases h
  · next h =>
      rw [dropped] at h
      obtain ⟨rfl, rfl⟩ := List.cons.inj h
      rw [taken]

/-- The first record in some bytes, and where the next is looked for. -/
lemma recordsFrom_record {blank text rest : Bytes} {record : List Bytes}
    (blanks : ∀ byte ∈ blank, isLineEnd byte) (spells : RecordText record text)
    (visible : text ≠ []) (ends : Ends rest) (place : Cursor) :
    recordsFrom place (blank ++ (text ++ rest))
      = ⟨place, record⟩
        :: recordsFrom ((place.advanceAll blank).advanceAll ((text ++ rest).take (text.length + 1)))
          rest.tail := by
  have first : ∀ byte ∈ (text ++ rest).head?, isLineEnd byte = false := by
    rw [List.head?_append_of_ne_nil _ visible]
    exact spells.head
  rw [recordsFrom_visible blanks (List.append_ne_nil_of_left_ne_nil visible rest) first,
    fields_recordText spells ends, extent_recordText spells ends, ← List.drop_drop,
    List.drop_left, List.drop_one]

/-- **All records of a file are found**, in any spelling and behind any blank lines. -/
theorem recordsFrom_fileText {records : List (List Bytes)} {text : Bytes}
    (spells : FileText records text) {blank : Bytes} (blanks : ∀ byte ∈ blank, isLineEnd byte)
    (place : Cursor) :
    (recordsFrom place (blank ++ text)).map RawRecord.fields = records := by
  induction spells generalizing blank place with
  | nil => rw [List.append_nil, recordsFrom_blank blanks, List.map_nil]
  | last spells visible =>
      have found := recordsFrom_record blanks spells visible ends_nil place
      rw [List.append_nil] at found
      rw [found, List.tail_nil, recordsFrom_blank (List.forall_mem_nil _)]
      rfl
  | cons spells visible ends blanks' _ ih =>
      rw [recordsFrom_record blanks spells visible (ends_cons ends _), List.map_cons,
        List.tail_cons, ih blanks']

/-- The place of the first record is all that is set apart in a file. -/
lemma records_map_fields (bytes : Bytes) :
    (Format.records bytes).map RawRecord.fields
      = (recordsFrom (Cursor.start.advanceAll (bytes.take (markSize bytes)))
          (bytes.drop (markSize bytes))).map RawRecord.fields := by
  rw [Format.records]
  split
  · next h => rw [h]
  · next h => rw [h, List.map_cons, List.map_cons]

lemma markSize_of_unmarked {bytes : Bytes} (unmarked : ¬byteOrderMark <+: bytes) :
    markSize bytes = 0 := by
  rw [markSize, if_neg (by simpa using unmarked)]

/-- **All records of a file are found** where no byte order mark is in front. -/
theorem records_fileText {records : List (List Bytes)} {text : Bytes}
    (spells : FileText records text) {blank : Bytes} (blanks : ∀ byte ∈ blank, isLineEnd byte)
    (unmarked : ¬byteOrderMark <+: blank ++ text) :
    (Format.records (blank ++ text)).map RawRecord.fields = records := by
  rw [records_map_fields, markSize_of_unmarked unmarked, List.drop_zero,
    recordsFrom_fileText spells blanks]

/-- One byte order mark in front is passed over, whatever follows it. -/
theorem records_mark_fileText {records : List (List Bytes)} {text : Bytes}
    (spells : FileText records text) {blank : Bytes} (blanks : ∀ byte ∈ blank, isLineEnd byte) :
    (Format.records (byteOrderMark ++ (blank ++ text))).map RawRecord.fields = records := by
  have mark : markSize (byteOrderMark ++ (blank ++ text)) = byteOrderMark.length := by
    rw [markSize, if_pos (by simp)]
  rw [records_map_fields, mark, List.drop_left, recordsFrom_fileText spells blanks]

/-! ## The writer's spelling -/

lemma closedField_text (field : Bytes) : FieldText field (closedField field) := by
  rw [closedField, openField]
  split_ifs with needed
  · exact FieldText.quoted field
  · exact FieldText.bare (eq_false_of_ne_true needed)

lemma joinFields_text {record : List Bytes} (columns : record ≠ []) :
    RecordText record (joinFields (record.map closedField)) := by
  induction record with
  | nil => exact absurd rfl columns
  | cons field rest ih =>
      cases rest with
      | nil => exact RecordText.last (closedField_text field)
      | cons other rest => exact RecordText.cons (closedField_text field) (ih nofun)

/-- Without bytes there is but one field, and it is empty. -/
lemma RecordText.eq_of_nil {record : List Bytes} (spells : RecordText record []) :
    record = [[]] := by
  generalize htext : ([] : Bytes) = text at spells
  cases spells with
  | last spells =>
      subst htext
      rw [spells.eq_nil]
  | cons => exact absurd htext.symm (by simp)

/-- The writer's text of a record is one of its texts, and not blank. -/
lemma recordText_text {record : List Bytes} (columns : record ≠ []) :
    RecordText record (recordText record) ∧ recordText record ≠ [] := by
  rw [recordText]
  split_ifs with lone
  · obtain rfl : record = [[]] := lone.resolve_left columns
    exact ⟨RecordText.last (FieldText.quoted []), nofun⟩
  · have spells := joinFields_text columns
    refine ⟨spells, fun blank => lone (Or.inr ?_)⟩
    rw [blank] at spells
    exact spells.eq_of_nil

/-- **What the writer writes is a spelling** of what it was given. -/
theorem fileText_encodeRecord {records : List (List Bytes)}
    (columns : ∀ record ∈ records, record ≠ []) :
    FileText records (records.flatMap encodeRecord) := by
  induction records with
  | nil => exact FileText.nil
  | cons record rest ih =>
      obtain ⟨hrecord, hrest⟩ := List.forall_mem_cons.mp columns
      obtain ⟨spells, visible⟩ := recordText_text hrecord
      rw [List.flatMap_cons, encodeRecord, List.append_assoc]
      exact FileText.cons spells visible (by decide) (List.forall_mem_nil _) (ih hrest)

end NameSieve.Format
