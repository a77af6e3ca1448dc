import NameSieve.Proofs.Table.Rectangular
import NameSieve.Proofs.Table.Spelling

/-!
# Writing a table and reading it back

A rectangular table comes back from its own bytes, with two exceptions that lie in the format and
not in the fields: a table without columns, which is written like one with a single empty column,
and a table whose bytes begin with a byte order mark, which the reader passes over.

* `mark_isPrefix_write` tells the second exception from the first field of the header.
* `read_write` is the rule, `read_write_of_opensWithMark` the exception: what comes back then is a
  table that takes fewer bytes.
* **`read_write_eq_iff`** draws the line between them.
-/

namespace NameSieve

open Format

/-! ## The begin of a written record -/

/-- What the writer puts behind the first field of a record, up to the line end. -/
def Format.recordTail : List Bytes → Bytes
  | [] => []
  | field :: rest => comma :: joinFields ((field :: rest).map closedField)

lemma Format.encodeRecord_cons {field : Bytes} {more : List Bytes}
    (visible : field ≠ [] ∨ more ≠ []) :
    encodeRecord (field :: more) = closedField field ++ (recordTail more ++ [lineFeed]) := by
  have notLone : ¬(field :: more = [] ∨ field :: more = [[]]) := by
    simpa [← not_and_or] using visible
  rw [encodeRecord, recordText, if_neg notLone]
  cases more with
  | nil => rfl
  | cons other rest =>
      rw [List.map_cons, List.map_cons, joinFields, recordTail, List.map_cons, List.append_assoc]
      exact List.cons_ne_nil _ _

/-- A first field is followed by a byte that is in no byte order mark. -/
lemma Format.recordTail_append (more : List Bytes) :
    ∃ stop rest, recordTail more ++ [lineFeed] = stop :: rest ∧ stop ∉ byteOrderMark := by
  cases more with
  | nil => exact ⟨lineFeed, [], rfl, by decide⟩
  | cons field rest => exact ⟨comma, _, rfl, by decide⟩

lemma Format.closedField_of_plain {field : Bytes} (plain : needsQuotes field = false) :
    closedField field = field := by
  simp [closedField, openField, plain]

lemma Format.closedField_of_special {field : Bytes} (special : needsQuotes field = true) :
    closedField field = quote :: (doubleQuotes field ++ [quote]) := by
  simp [closedField, openField, special]

/-- What begins a list that goes on with another item ends before that item. -/
lemma isPrefix_append_cons {α : Type} {front items rest : List α} {stop : α}
    (absent : stop ∉ front) : front <+: items ++ stop :: rest ↔ front <+: items := by
  induction items generalizing front with
  | nil =>
      cases front with
      | nil => simp
      | cons a front =>
          have differ : a ≠ stop := fun same => absent (same ▸ List.mem_cons_self)
          simp [List.cons_prefix_cons, differ]
  | cons b items ih =>
      cases front with
      | nil => simp
      | cons a front =>
          have behind : stop ∉ front := fun member => absent (List.mem_cons_of_mem _ member)
          rw [List.cons_append, List.cons_prefix_cons, List.cons_prefix_cons, ih behind]

lemma not_mark_isPrefix_quote (rest : Bytes) : ¬byteOrderMark <+: quote :: rest := by
  rintro ⟨_, h⟩
  exact absurd (List.cons.inj h).1 (by decide)

/-- **A written record begins with a byte order mark** just if its first field does, and stands
bare. -/
lemma Format.mark_isPrefix_encodeRecord (field : Bytes) (more : List Bytes) (rest : Bytes) :
    byteOrderMark <+: encodeRecord (field :: more) ++ rest
      ↔ byteOrderMark <+: field ∧ needsQuotes field = false := by
  by_cases visible : field ≠ [] ∨ more ≠ []
  · obtain ⟨stop, behind, htail, absent⟩ := recordTail_append more
    rw [encodeRecord_cons visible, htail, List.append_assoc, List.cons_append]
    cases special : needsQuotes field with
    | false =>
        rw [closedField_of_plain special, isPrefix_append_cons absent]
        simp
    | true =>
        rw [closedField_of_special special, List.cons_append]
        simp [not_mark_isPrefix_quote]
  · obtain ⟨rfl, rfl⟩ : field = [] ∧ more = [] := by
      simpa [← not_and_or] using visible
    constructor
    · exact fun h => absurd h (not_mark_isPrefix_quote _)
    · rintro ⟨h, -⟩
      exact absurd (List.prefix_nil.mp h) (by decide)

/-- A mark in front of a first field is a mark in front of the record, if anything is left. -/
lemma Format.encodeRecord_mark {field : Bytes} {more : List Bytes}
    (plain : needsQuotes (byteOrderMark ++ field) = false) (visible : field ≠ [] ∨ more ≠ []) :
    encodeRecord ((byteOrderMark ++ field) :: more)
      = byteOrderMark ++ encodeRecord (field :: more) := by
  have unmarked : needsQuotes field = false := by
    rw [needsQuotes_eq_false] at plain ⊢
    exact fun byte member => plain byte (List.mem_append_right _ member)
  have marked : byteOrderMark ++ field ≠ [] := by simp [byteOrderMark]
  rw [encodeRecord_cons (Or.inl marked), encodeRecord_cons visible, closedField_of_plain plain,
    closedField_of_plain unmarked, List.append_assoc]

/-! ## Tables that open with a mark -/

/-- The bytes of a text have no meaning to the format just if its characters have none. -/
lemma Format.needsQuotes_encode (text : String) :
    needsQuotes (Utf8.encode text) = false
      ↔ ∀ c ∈ [',', '"', '\r', '\n'], c ∉ text.toList := by
  rw [needsQuotes_eq_false]
  have ascii : ∀ c ∈ [',', '"', '\r', '\n'],
      (UInt8.ofNat c.toNat ∈ Utf8.encode text ↔ c ∈ text.toList) := by
    intro c hc
    have small : [',', '"', '\r', '\n'].all (fun c => c.toNat < 0x80) = true := by decide
    exact Utf8.mem_encode_iff (of_decide_eq_true (List.all_eq_true.mp small c hc)) text
  constructor
  · intro plain c hc member
    obtain ⟨noComma, noQuote, noLineEnd⟩ := plain _ ((ascii c hc).mpr member)
    simp only [List.mem_cons, List.not_mem_nil, or_false] at hc
    rcases hc with rfl | rfl | rfl | rfl
    · exact noComma rfl
    · exact noQuote rfl
    · exact Bool.noConfusion noLineEnd
    · exact Bool.noConfusion noLineEnd
  · intro absent byte member
    have differ : ∀ c ∈ [',', '"', '\r', '\n'], byte ≠ UInt8.ofNat c.toNat := by
      rintro c hc rfl
      exact absent c hc ((ascii c hc).mp member)
    refine ⟨differ ',' (by decide), differ '"' (by decide), ?_⟩
    rw [isLineEnd, Bool.or_eq_false_iff, beq_eq_false_iff_ne, beq_eq_false_iff_ne]
    exact ⟨differ '\r' (by decide), differ '\n' (by decide)⟩

namespace Table

/-- **The first field of the header begins with a byte order mark and stands bare**, so that the
mark is the first thing in the file. -/
def OpensWithMark (table : Table) : Prop :=
  ∃ field ∈ table.header.head?, field.toList.head? = some Utf8.markChar ∧
    ∀ c ∈ [',', '"', '\r', '\n'], c ∉ field.toList

lemma rowBytes_cons (text : String) (row : List String) :
    rowBytes (text :: row) = Utf8.encode text :: rowBytes row :=
  rfl

lemma write_bytes (table : Table) :
    table.write.bytes = encodeRecord (rowBytes table.header)
      ++ (writeRows table.header.length table.rows).bytes :=
  rfl

/-- A table opens with a mark just if the bytes that are written do. -/
theorem mark_isPrefix_write (table : Table) :
    byteOrderMark <+: table.write.bytes ↔ table.OpensWithMark := by
  obtain ⟨header, rows⟩ := table
  cases header with
  | nil => simp [write, OpensWithMark, rowBytes, encodeRecord, recordText, not_mark_isPrefix_quote]
  | cons field more =>
      rw [write_bytes, rowBytes_cons, mark_isPrefix_encodeRecord, needsQuotes_encode,
        OpensWithMark, List.head?_cons]
      simp only [Option.mem_some_iff, exists_eq_left']
      exact and_congr_left fun _ => Utf8.mark_isPrefix_encode field

/-! ## The rule -/

lemma rowBytes_ne_nil {row : List String} (columns : row ≠ []) : rowBytes row ≠ [] :=
  fun h => columns (List.map_eq_nil_iff.mp h)

/-- In a rectangular table with columns no record is without fields. -/
lemma records_ne_nil {table : Table} (rectangular : table.Rectangular)
    (columns : table.header ≠ []) : ∀ record ∈ table.records, record ≠ [] := by
  intro record member
  obtain ⟨row, hrow, rfl⟩ := List.mem_map.mp member
  refine rowBytes_ne_nil ?_
  rcases List.mem_cons.mp hrow with rfl | hrow
  · exact columns
  · rintro rfl
    exact columns (List.length_eq_zero_iff.mp (rectangular [] hrow).symm)

/-- **A table is read back from its own bytes.** -/
theorem read_write {table : Table} (rectangular : table.Rectangular) (columns : table.header ≠ [])
    (unmarked : ¬table.OpensWithMark) : read table.write.bytes = .ok table := by
  rw [← mark_isPrefix_write] at unmarked
  rw [write_eq rectangular] at unmarked ⊢
  have spells := fileText_encodeRecord (records_ne_nil rectangular columns)
  exact read_of_records rectangular (records_fileText spells (List.forall_mem_nil _) unmarked)

/-! ## The exceptions -/

/-- A mark in front of the bytes of a table is passed over. -/
lemma read_mark_write {table : Table} (rectangular : table.Rectangular)
    (columns : table.header ≠ []) : read (byteOrderMark ++ table.write.bytes) = .ok table := by
  rw [write_eq rectangular]
  have spells := fileText_encodeRecord (records_ne_nil rectangular columns)
  exact read_of_records rectangular (records_mark_fileText spells (List.forall_mem_nil _))

/-- Behind a mark and a line end a file begins with what would have been its first row. -/
lemma read_mark_lineFeed {rows : List (List String)} (single : ∀ row ∈ rows, row.length = 1) :
    read (byteOrderMark ++ lineFeed :: (rows.map rowBytes).flatMap encodeRecord)
      = .ok ⟨rows.headD [], rows.tail⟩ := by
  have columns : ∀ record ∈ rows.map rowBytes, record ≠ [] := by
    intro record member
    obtain ⟨row, hrow, rfl⟩ := List.mem_map.mp member
    refine rowBytes_ne_nil ?_
    rintro rfl
    cases single [] hrow
  have blanks : ∀ byte ∈ [lineFeed], isLineEnd byte := by simp [isLineEnd]
  have found := records_mark_fileText (fileText_encodeRecord columns) blanks
  cases rows with
  | nil => exact read_of_no_records found
  | cons row rest =>
      obtain ⟨hrow, hrest⟩ := List.forall_mem_cons.mp single
      have rectangular : Rectangular ⟨row, rest⟩ := fun r hr => (hrest r hr).trans hrow.symm
      exact read_of_records rectangular found

/-- **What opens with a mark is not read back**: what comes back takes fewer bytes. -/
theorem read_write_of_opensWithMark {table : Table} (rectangular : table.Rectangular)
    (marked : table.OpensWithMark) :
    ∃ other : Table, read table.write.bytes = .ok other ∧
      other.write.bytes.length < table.write.bytes.length := by
  obtain ⟨header, rows⟩ := table
  obtain ⟨field, first, begins, plain⟩ := marked
  obtain ⟨more, rfl⟩ := List.head?_eq_some_iff.mp first
  obtain ⟨cs, hfield⟩ := List.head?_eq_some_iff.mp begins
  rw [← needsQuotes_encode] at plain
  have hbytes : Utf8.encode field = byteOrderMark ++ Utf8.encode (String.ofList cs) := by
    rw [Utf8.encode_mark_append field cs hfield, Utf8.encode, String.toList_ofList]
    rfl
  by_cases visible : Utf8.encode (String.ofList cs) ≠ [] ∨ more ≠ []
  · -- the header is left without its mark
    have rectangular' : Rectangular ⟨String.ofList cs :: more, rows⟩ := rectangular
    have written : (Table.mk (field :: more) rows).write.bytes
        = byteOrderMark ++ (Table.mk (String.ofList cs :: more) rows).write.bytes := by
      rw [hbytes] at plain
      rw [write_bytes, write_bytes, rowBytes_cons, rowBytes_cons, hbytes,
        encodeRecord_mark plain (visible.imp_right rowBytes_ne_nil), List.append_assoc]
      rfl
    refine ⟨⟨String.ofList cs :: more, rows⟩, ?_, ?_⟩
    · rw [written, read_mark_write rectangular' (List.cons_ne_nil _ _)]
    · rw [written, List.length_append]
      exact Nat.lt_add_of_pos_left (by decide)
  · -- nothing is left of the header, and its line is blank
    obtain ⟨hempty, rfl⟩ : Utf8.encode (String.ofList cs) = [] ∧ more = [] := by
      simpa [← not_and_or] using visible
    rw [hempty, List.append_nil] at hbytes
    have written : (Table.mk [field] rows).write.bytes
        = byteOrderMark ++ lineFeed :: (rows.map rowBytes).flatMap encodeRecord := by
      have visible' : byteOrderMark ≠ [] ∨ ([] : List Bytes) ≠ [] := Or.inl (List.cons_ne_nil _ _)
      rw [hbytes] at plain
      rw [write_bytes, writeRows_eq rectangular, rowBytes_cons, hbytes, rowBytes, List.map_nil,
        encodeRecord_cons visible', closedField_of_plain plain, List.append_assoc]
      rfl
    refine ⟨⟨rows.headD [], rows.tail⟩, ?_, ?_⟩
    · rw [written, read_mark_lineFeed rectangular]
    · rw [written, List.length_append, List.length_cons]
      cases rows with
      | nil => decide
      | cons row rest =>
          obtain ⟨hrow, hrest⟩ := List.forall_mem_cons.mp rectangular
          have shape : Rectangular ⟨row, rest⟩ := fun r hr => (hrest r hr).trans hrow.symm
          rw [List.headD_cons, List.tail_cons, write_eq shape, records, ← Nat.add_assoc]
          exact Nat.lt_succ_of_le (Nat.le_add_left _ _)

/-- Without columns there is nothing to tell the header from a single empty field. -/
lemma read_write_of_no_columns {table : Table} (rectangular : table.Rectangular)
    (none : table.header = []) :
    read table.write.bytes = .ok ⟨[""], table.rows.map fun _ => [""]⟩ := by
  obtain ⟨header, rows⟩ := table
  subst none
  have blank : rows = rows.map fun _ => [] := by
    refine (List.map_id rows).symm.trans (List.map_congr_left fun row hrow => ?_)
    exact List.length_eq_zero_iff.mp (rectangular row hrow)
  have rectangular' : Rectangular ⟨[""], rows.map fun _ => [""]⟩ := by
    intro row member
    obtain ⟨-, -, rfl⟩ := List.mem_map.mp member
    rfl
  have written : (Table.mk [] rows).write.bytes
      = (Table.mk [""] (rows.map fun _ => [""])).write.bytes := by
    rw [write_eq rectangular, write_eq rectangular', records, records, blank]
    simp only [List.map_cons, List.map_map, List.flatMap_cons, List.flatMap_map]
    rfl
  rw [written]
  refine read_write rectangular' (List.cons_ne_nil _ _) ?_
  rintro ⟨field, first, begins, -⟩
  obtain rfl := Option.some.inj first
  cases begins

/-- **A rectangular table is read back from its own bytes just if it has columns and does not open
with a mark.** -/
theorem read_write_eq_iff {table : Table} (rectangular : table.Rectangular) :
    read table.write.bytes = .ok table ↔ table.header ≠ [] ∧ ¬table.OpensWithMark := by
  constructor
  · intro back
    refine ⟨fun none => ?_, fun marked => ?_⟩
    · rw [read_write_of_no_columns rectangular none] at back
      have header : [""] = table.header := congrArg Table.header (Except.ok.inj back)
      rw [none] at header
      cases header
    · obtain ⟨other, instead, shorter⟩ := read_write_of_opensWithMark rectangular marked
      rw [back] at instead
      obtain rfl := Except.ok.inj instead
      exact Nat.lt_irrefl _ shorter
  · rintro ⟨columns, unmarked⟩
    exact read_write rectangular columns unmarked

end Table

end NameSieve
