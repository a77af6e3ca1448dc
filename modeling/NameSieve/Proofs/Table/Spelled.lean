import NameSieve.Proofs.Table.RoundTrip

/-!
# Tables in many spellings, and in one

A table can be spelled in many ways: its fields bare or in quotes, its records with any line ends
between them, blank lines before it, a byte order mark in front.  The reader takes all of them for
the same table (`read_of_spelled`).

Of these ways the writer knows one.  `TidyFile` describes it: a single line feed behind each record,
and quotes where they are needed and nowhere else (`write_tidy`).
-/

namespace NameSieve

/-! ## The tidy text -/

namespace Format

/-- **The tidy text of a field** in a record stands in quotes just if it needs them: if a byte of it
has a meaning, or if it is empty and alone, so that its line would be blank. -/
structure TidyField (record : List Bytes) (field text : Bytes) : Prop where
  spells : FieldText field text
  bare : text = field ↔ ¬(needsQuotes field = true ∨ record = [[]])

/-- **The tidy text of a file**: tidy texts of the fields with commas between them, and one line
feed behind each record. -/
inductive TidyFile : List (List Bytes) → Bytes → Prop where
  | nil : TidyFile [] []
  | cons {record texts : List Bytes} {records : List (List Bytes)} {more : Bytes}
      (tidy : List.Forall₂ (TidyField record) record texts) (rest : TidyFile records more) :
      TidyFile (record :: records) (joinFields texts ++ lineFeed :: more)

/-- Quotes make a field longer. -/
lemma quoted_ne_self (field : Bytes) : quote :: (doubleQuotes field ++ [quote]) ≠ field := by
  have longer : ∀ bytes : Bytes, bytes.length ≤ (doubleQuotes bytes).length := by
    intro bytes
    induction bytes with
    | nil => exact Nat.le_refl _
    | cons byte rest ih =>
        rw [doubleQuotes] at ih ⊢
        rw [List.flatMap_cons, List.length_append, List.length_cons]
        split_ifs <;> simp only [List.length_cons, List.length_nil] <;> omega
  intro same
  have lengths := congrArg List.length same
  have least := longer field
  simp only [List.length_cons, List.length_append, List.length_nil] at lengths
  omega

lemma closedField_tidy {record : List Bytes} (notLone : record ≠ [[]]) (field : Bytes) :
    TidyField record field (closedField field) := by
  refine ⟨closedField_text field, ?_⟩
  cases special : needsQuotes field with
  | false => simp [closedField_of_plain special, notLone]
  | true => simp [closedField_of_special special, quoted_ne_self]

/-- The writer quotes a field just if it needs it. -/
lemma recordText_tidy {record : List Bytes} (columns : record ≠ []) :
    ∃ texts, List.Forall₂ (TidyField record) record texts ∧
      recordText record = joinFields texts := by
  rw [recordText]
  split_ifs with lone
  · obtain rfl : record = [[]] := lone.resolve_left columns
    exact ⟨[[quote, quote]], .cons ⟨.quoted [], by simp⟩ .nil, rfl⟩
  · refine ⟨record.map closedField, ?_, rfl⟩
    rw [List.forall₂_map_right_iff, List.forall₂_same]
    exact fun field _ => closedField_tidy (fun isLone => lone (Or.inr isLone)) field

lemma tidyFile_encodeRecord {records : List (List Bytes)}
    (columns : ∀ record ∈ records, record ≠ []) :
    TidyFile records (records.flatMap encodeRecord) := by
  induction records with
  | nil => exact .nil
  | cons record rest ih =>
      obtain ⟨column, columns⟩ := List.forall_mem_cons.mp columns
      obtain ⟨texts, tidy, joined⟩ := recordText_tidy column
      rw [List.flatMap_cons, encodeRecord, joined, List.append_assoc]
      exact .cons tidy (ih columns)

end Format

/-! ## Spellings of tables -/

namespace Table

open Format

/-- **The spellings of a table**: a text of its records behind any blank lines.  A byte order mark
may stand in front of them, and has to if there seems to be one otherwise. -/
inductive Spelled (table : Table) : Bytes → Prop where
  | unmarked {blank text : Bytes} (blanks : ∀ byte ∈ blank, isLineEnd byte)
      (spells : FileText table.records text) (noMark : ¬byteOrderMark <+: blank ++ text) :
      Spelled table (blank ++ text)
  | marked {blank text : Bytes} (blanks : ∀ byte ∈ blank, isLineEnd byte)
      (spells : FileText table.records text) : Spelled table (byteOrderMark ++ (blank ++ text))

/-- **A table is read from any spelling.** -/
theorem read_of_spelled {table : Table} (rectangular : table.Rectangular) {bytes : Bytes}
    (spelled : table.Spelled bytes) : read bytes = .ok table := by
  cases spelled with
  | unmarked blanks spells noMark =>
      exact read_of_records rectangular (records_fileText spells blanks noMark)
  | marked blanks spells =>
      exact read_of_records rectangular (records_mark_fileText spells blanks)

/-- **What is written of a table is tidy.** -/
theorem write_tidy {table : Table} (rectangular : table.Rectangular) (columns : table.header ≠ []) :
    TidyFile table.records table.write.bytes := by
  rw [write_eq rectangular]
  exact tidyFile_encodeRecord (records_ne_nil rectangular columns)

end Table

end NameSieve
