import NameSieve.Pipeline
import NameSieve.Proofs.Sieve.Account
import NameSieve.Proofs.Table.Readings

/-!
# Charts and tables from one file

A chart is loaded record by record, a table as a whole.  Both stop at the first thing that is wrong
with the file, but to a chart more can be wrong: a column may be missing, and a field may be no
number.  What comes first decides: the header, then the columns, then the rows in order; and a row
that is malformed comes before its own number and behind the numbers of the rows before it.

* `IsBar` relates a row to its bar, and `barsOf_of_noNumber` and `barsOf_of_isBar` say how the
  records of a file become bars up to the first malformed one.
* `Follows` draws a chart, or the failure to make one, from what the file reads up to.

**`load_agrees`** compares the two loads of any file.
-/

namespace NameSieve.Chart

open Table

/-- What has been made of the rows of a file, unless a malformed record stands behind them. -/
def unlessMalformed {α : Type} (failure : Option ReadError) (value : α) : Except Error α :=
  match failure with
  | some cause => .error (.table (.read cause))
  | none => .ok value

lemma unlessMalformed_map {α β : Type} (failure : Option ReadError) (value : α) (f : α → β) :
    (unlessMalformed failure value).map f = unlessMalformed failure (f value) := by
  cases failure <;> rfl

/-! ## Rows and bars -/

/-- The number that a field stands for; blanks at its ends do not matter. -/
def number? (field : String) : Option Binary64 :=
  Binary64.ofText? (Text.trim field.toList)

/-- The field of a row in a column is a number. -/
def HasNumber (y : Nat) (row : List String) : Prop :=
  ∃ field value, row[y]? = some field ∧ number? field = some value

/-- **The bar of a row**: the field of one column is its label, and the field of the other stands
for its number. -/
def IsBar (x y : Nat) (row : List String) (bar : Bar) : Prop :=
  row[x]? = some bar.1 ∧ ∃ field, row[y]? = some field ∧ number? field = some bar.2

section Rows

variable {x y number : Nat} {yLabel : String} {row : List String}

lemma barOf_of_number {field : String} {value : Binary64} (here : row[y]? = some field)
    (isNumber : number? field = some value) :
    barOf x y yLabel number row = .ok (row[x]?.getD "", value) := by
  rw [number?] at isNumber
  simp only [barOf, here, Option.getD_some, isNumber]

lemma barOf_of_isBar {bar : Bar} (isBar : IsBar x y row bar) :
    barOf x y yLabel number row = .ok bar := by
  obtain ⟨label, field, here, isNumber⟩ := isBar
  rw [barOf_of_number here isNumber, label, Option.getD_some]

lemma barOf_of_noNumber {field : String} (here : row[y]? = some field)
    (noNumber : number? field = none) :
    barOf x y yLabel number row = .error (.invalidNumber field yLabel number) := by
  rw [number?] at noNumber
  simp only [barOf, here, Option.getD_some, noNumber]

end Rows

/-! ## Records and bars -/

section Records

variable {columns x y number : Nat} {yLabel : String} {records : List Format.RawRecord}
  {rows : List (List String)} {failure : Option ReadError}

lemma barsOf_of_refused {record : Format.RawRecord} {cause : ReadError}
    (refused : readRow columns number record = .error cause) :
    barsOf columns x y yLabel number (record :: records) = .error (.table (.read cause)) := by
  rw [barsOf, refused]

lemma barsOf_of_bar {record : Format.RawRecord} {row : List String} {bar : Bar}
    (accepted : readRow columns number record = .ok row)
    (made : barOf x y yLabel number row = .ok bar) :
    barsOf columns x y yLabel number (record :: records)
      = (barsOf columns x y yLabel (number + 1) records).map (bar :: ·) := by
  simp only [barsOf, accepted, made]
  cases barsOf columns x y yLabel (number + 1) records <;> rfl

/-- **The first field that is no number** stops the bars, whatever comes behind its row. -/
lemma barsOf_of_noNumber {i : Nat} {row : List String} {field : String}
    (stopped : readRows columns number records = (rows, failure))
    (member : rows[i]? = some row) (here : row[y]? = some field) (noNumber : number? field = none)
    (before : ∀ earlier ∈ rows.take i, HasNumber y earlier) :
    barsOf columns x y yLabel number records
      = .error (.invalidNumber field yLabel (number + i)) := by
  induction records generalizing number rows i with
  | nil =>
      obtain ⟨rfl, -⟩ := Prod.mk.inj stopped
      cases member
  | cons record rest ih =>
      cases reading : readRow columns number record with
      | error cause =>
          rw [readRows_of_error reading] at stopped
          obtain ⟨rfl, -⟩ := Prod.mk.inj stopped
          cases member
      | ok first =>
          rw [readRows_of_ok reading] at stopped
          obtain ⟨rfl, rfl⟩ := Prod.mk.inj stopped
          cases i with
          | zero =>
              obtain rfl := Option.some.inj member
              simp only [barsOf, reading, barOf_of_noNumber here noNumber, Nat.add_zero]
          | succ i =>
              rw [List.take_succ_cons, List.forall_mem_cons] at before
              obtain ⟨⟨other, value, there, isNumber⟩, before⟩ := before
              rw [barsOf_of_bar reading (barOf_of_number there isNumber),
                ih rfl member before, Nat.add_right_comm, Nat.add_assoc]
              rfl

/-- **Bars all the way** to the first malformed record, which stops them, or to the end. -/
lemma barsOf_of_isBar (yLabel : String)
    (stopped : readRows columns number records = (rows, failure))
    (bar : ∀ row ∈ rows, ∃ bar, IsBar x y row bar) :
    ∃ bars, List.Forall₂ (IsBar x y) rows bars ∧
      barsOf columns x y yLabel number records = unlessMalformed failure bars := by
  induction records generalizing number rows with
  | nil =>
      obtain ⟨rfl, rfl⟩ := Prod.mk.inj stopped
      exact ⟨[], .nil, rfl⟩
  | cons record rest ih =>
      cases reading : readRow columns number record with
      | error cause =>
          rw [readRows_of_error reading] at stopped
          obtain ⟨rfl, rfl⟩ := Prod.mk.inj stopped
          exact ⟨[], .nil, barsOf_of_refused reading⟩
      | ok first =>
          rw [readRows_of_ok reading] at stopped
          obtain ⟨rfl, rfl⟩ := Prod.mk.inj stopped
          obtain ⟨⟨head, isBar⟩, bar⟩ := List.forall_mem_cons.mp bar
          obtain ⟨bars, areBars, made⟩ := ih rfl bar
          refine ⟨head :: bars, .cons isBar areBars, ?_⟩
          rw [barsOf_of_bar reading (barOf_of_isBar isBar), made, unlessMalformed_map]

end Records

/-! ## Columns -/

lemma column_of_absent {header : List String} {name : String} (absent : name ∉ header) :
    column header name = .error (.missingColumn ⟨name⟩) := by
  have none : (Table.mk header []).columnIndex? name = none := columnIndex?_eq_none.mpr absent
  rw [columnIndex?] at none
  rw [column, none]

lemma column_of_first {table : Table} {name : String} {index : Nat}
    (first : table.FirstColumn name index) : column table.header name = .ok index := by
  have found := columnIndex?_eq_some.mpr first
  rw [columnIndex?] at found
  rw [column, found]

/-! ## Whole files -/

/-- **What follows for a chart** from the table that a file reads up to, and from the failure
behind it. -/
structure Follows (table : Table) (failure : Option ReadError) (xLabel yLabel : String)
    (made : Except Error Chart) : Prop where
  noLabels : xLabel ∉ table.header → made = .error (.missingColumn ⟨xLabel⟩)
  noValues : xLabel ∈ table.header → yLabel ∉ table.header →
    made = .error (.missingColumn ⟨yLabel⟩)
  /-- The first field that is no number is told as it stands, with the number of its row. -/
  noNumber : ∀ x y, table.FirstColumn xLabel x → table.FirstColumn yLabel y →
    ∀ i row field, table.rows[i]? = some row → row[y]? = some field → number? field = none →
      (∀ earlier ∈ table.rows.take i, HasNumber y earlier) →
      made = .error (.invalidNumber field yLabel (i + 1))
  /-- If every row has its number, the failure behind them is all that can go wrong. -/
  numbers : ∀ x y, table.FirstColumn xLabel x → table.FirstColumn yLabel y →
    (∀ row ∈ table.rows, HasNumber y row) →
    ∃ bars, List.Forall₂ (IsBar x y) table.rows bars ∧
      made = unlessMalformed failure (ofBars xLabel yLabel bars)

lemma ofBytes_of_refused {bytes : Bytes} {cause : ReadError}
    (refused : readHeader bytes = .error cause) (xLabel yLabel : String) :
    ofBytes bytes xLabel yLabel = .error (.table (.read cause)) := by
  rw [ofBytes, refused]

lemma ofBytes_follows {bytes : Bytes} {table : Table} {failure : Option ReadError}
    (upTo : ReadsUpTo bytes table failure) (xLabel yLabel : String) :
    Follows table failure xLabel yLabel (ofBytes bytes xLabel yLabel) := by
  obtain ⟨header, stopped⟩ := readsUpTo_iff.mp upTo
  refine ⟨fun absent => ?_, fun present absent => ?_, ?_, ?_⟩
  · simp only [ofBytes, header, column_of_absent absent]
  · obtain ⟨x, firstX⟩ := exists_firstColumn present
    simp only [ofBytes, header, column_of_first firstX, column_of_absent absent]
  · intro x y firstX firstY i row field member here noNumber before
    simp only [ofBytes, header, column_of_first firstX, column_of_first firstY,
      barsOf_of_noNumber stopped member here noNumber before, Nat.add_comm 1 i]
  · intro x y firstX firstY numbers
    have bar : ∀ row ∈ table.rows, ∃ bar, IsBar x y row bar := by
      intro row member
      obtain ⟨field, value, here, isNumber⟩ := numbers row member
      obtain ⟨inside, -⟩ := List.getElem?_eq_some_iff.mp firstX.1
      rw [← upTo.rectangular row member] at inside
      exact ⟨(row[x], value), List.getElem?_eq_getElem inside, field, here, isNumber⟩
    obtain ⟨bars, areBars, made⟩ := barsOf_of_isBar yLabel stopped bar
    refine ⟨bars, areBars, ?_⟩
    simp only [ofBytes, header, column_of_first firstX, column_of_first firstY, made]
    cases failure <;> rfl

/-- **Charts and tables from one file agree.**  If the header cannot be read, both fail with the
same error.  Otherwise the file reads up to some table, which is what is loaded if nothing is wrong
behind it, and the chart follows from that table and from what is wrong. -/
theorem load_agrees {files : FileSystem} {path : Path} {bytes : Bytes}
    (held : files.contentOf path = .ok bytes) (xLabel yLabel : String) :
    (∀ cause, readHeader bytes = .error cause →
      Chart.load files path xLabel yLabel = .error (.table (.read cause)) ∧
        Table.load files path = .error (.table (.read cause))) ∧
    ∀ header, readHeader bytes = .ok header → ∃ table failure,
      table.header = header ∧ ReadsUpTo bytes table failure ∧
      Table.load files path = unlessMalformed failure table ∧
      Follows table failure xLabel yLabel (Chart.load files path xLabel yLabel) := by
  have chart : Chart.load files path xLabel yLabel = ofBytes bytes xLabel yLabel := by
    rw [Chart.load, held]
  rw [chart]
  constructor
  · intro cause refused
    refine ⟨ofBytes_of_refused refused xLabel yLabel, ?_⟩
    simp only [Table.load, held, read_of_readHeader_error refused]
  · intro header readable
    obtain ⟨table, failure, sameHeader, upTo⟩ := exists_readsUpTo readable
    refine ⟨table, failure, sameHeader, upTo, ?_, ofBytes_follows upTo xLabel yLabel⟩
    simp only [Table.load, held, upTo.read]
    cases failure <;> rfl

/-- A file with a number among blanks, a field that is no number, and a row that is too short. -/
def mixed : FileSystem :=
  ⟨[(["uses.csv"], .file (Utf8.encode "n,v\na, 1.5 \nb,x\n\nc\n"))]⟩

/-- The field is found before the row, which is all that the table fails with. -/
theorem load_agrees_mixed :
    mixed.contentOf ⟨"/uses.csv"⟩ = .ok (Utf8.encode "n,v\na, 1.5 \nb,x\n\nc\n") ∧
      Chart.load mixed ⟨"/uses.csv"⟩ "n" "v" = .error (.invalidNumber "x" "v" 2) ∧
      Table.load mixed ⟨"/uses.csv"⟩
        = .error (.table (.read (.unequalLengths ⟨3, 4, 16⟩ 2 1))) := by
  have held : mixed.contentOf ⟨"/uses.csv"⟩ = .ok (Utf8.encode "n,v\na, 1.5 \nb,x\n\nc\n") := by
    decide +kernel
  obtain ⟨⟨header, rows⟩, failure, rfl, upTo, whole, follows⟩ :=
    (load_agrees held "n" "v").2 ["n", "v"] (by decide +kernel)
  have stopped : readRows 2 1 (Format.records (Utf8.encode "n,v\na, 1.5 \nb,x\n\nc\n")).tail
        = ([["a", " 1.5 "], ["b", "x"]], some (.unequalLengths ⟨3, 4, 16⟩ 2 1)) := by
    decide +kernel
  obtain ⟨rfl, rfl⟩ := Prod.mk.inj (stopped.symm.trans (readsUpTo_iff.mp upTo).2)
  refine ⟨held, ?_, whole⟩
  refine follows.noNumber 0 1 ⟨rfl, by decide⟩ ⟨rfl, by decide⟩ 1 ["b", "x"] "x" rfl rfl
    (by decide +kernel) ?_
  intro earlier member
  obtain rfl := List.mem_singleton.mp member
  exact ⟨" 1.5 ", ⟨false, 0x3FF8000000000000, by decide⟩, rfl, by decide +kernel⟩

end NameSieve.Chart
