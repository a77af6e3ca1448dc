import Mathlib.Tactic
import NameSieve.Proofs.AxisSet
import NameSieve.Sieve

/-!
# The account of a sieve

A sieve lets its axes pass one after another over what is left, and counts as it goes.  This file
says what that comes to in terms of the rows that came in.

* `charge` is the number of incoming rows that an axis is the *first* of a list to drop.
* `passes_rows` and `passes_log` are the two halves of the invariant: after any list of axes the
  rows left are those that none of them drops, and each pass reports its axis' charge and the rows
  that the earlier charges have left.
* `charges_add_kept` balances the account: every row is charged to one axis or kept.
* **`sieve_spec`** puts the three together for the whole sieve of a table.

All of it is told by the fields of the rows, where a row that is too short counts as one with an
empty name.
-/

namespace NameSieve

/-! ## Columns -/

/-- The column is the first one of the table that has the name. -/
def Table.FirstColumn (table : Table) (name : String) (column : Nat) : Prop :=
  table.header[column]? = some name ∧ ∀ earlier < column, table.header[earlier]? ≠ some name

lemma Table.columnIndex?_eq_some {table : Table} {name : String} {column : Nat} :
    table.columnIndex? name = some column ↔ table.FirstColumn name column := by
  rw [Table.columnIndex?, List.findIdx?_eq_some_iff_getElem]
  constructor
  · rintro ⟨inside, here, before⟩
    refine ⟨?_, fun earlier hearlier => ?_⟩
    · rw [List.getElem?_eq_getElem inside, eq_of_beq here]
    · have inside' : earlier < table.header.length := Nat.lt_trans hearlier inside
      rw [List.getElem?_eq_getElem inside']
      intro same
      exact before earlier hearlier (beq_iff_eq.mpr (Option.some.inj same))
  · rintro ⟨here, before⟩
    obtain ⟨inside, hname⟩ := List.getElem?_eq_some_iff.mp here
    refine ⟨inside, beq_iff_eq.mpr hname, fun earlier hearlier same => ?_⟩
    refine before earlier hearlier ?_
    rw [List.getElem?_eq_getElem (Nat.lt_trans hearlier inside), eq_of_beq same]

lemma Table.columnIndex?_eq_none {table : Table} {name : String} :
    table.columnIndex? name = none ↔ name ∉ table.header := by
  simp only [Table.columnIndex?, List.findIdx?_eq_none_iff, beq_eq_false_iff_ne]
  constructor
  · intro differ member
    exact differ name member rfl
  · rintro absent header member rfl
    exact absent member

lemma Table.exists_firstColumn {table : Table} {name : String} (present : name ∈ table.header) :
    ∃ column, table.FirstColumn name column := by
  cases found : table.columnIndex? name with
  | none => exact absurd present (columnIndex?_eq_none.mp found)
  | some column => exact ⟨column, columnIndex?_eq_some.mp found⟩

/-! ## Charges -/

/-- The axes of a list that are evaluated before an axis. -/
def Axis.before (axes : List Axis) (axis : Axis) : List Axis :=
  axes.filter fun other => other.rank < axis.rank

/-- Does some axis of the list drop the row?  Its name is its field in the column, or the empty text
if it is too short. -/
def droppedBy (column : Nat) (axes : List Axis) (row : List String) : Bool :=
  axes.any fun axis => axis.drops (row[column]?.getD "")

/-- **What an axis is charged with**: the rows that it drops and that no axis of the list before
it drops. -/
def charge (column : Nat) (axes : List Axis) (rows : List (List String)) (axis : Axis) : Nat :=
  rows.countP fun row =>
    axis.drops (row[column]?.getD "") && !droppedBy column (axis.before axes) row

section Passes

variable (column : Nat) {first : Axis} {rest : List Axis} (rows : List (List String))

lemma Axis.before_first (later : ∀ axis ∈ rest, first.rank < axis.rank) :
    first.before (first :: rest) = [] := by
  simp only [Axis.before, List.filter_eq_nil_iff, List.mem_cons, decide_eq_true_eq]
  rintro axis (rfl | member)
  · exact Nat.lt_irrefl _
  · exact Nat.lt_asymm (later axis member)

lemma Axis.before_later {axis : Axis} (earlier : first.rank < axis.rank) :
    axis.before (first :: rest) = first :: axis.before rest := by
  simp [Axis.before, earlier]

lemma charge_first (later : ∀ axis ∈ rest, first.rank < axis.rank) :
    charge column (first :: rest) rows first = (passOver column first rows).removed := by
  simp [charge, Axis.before_first later, droppedBy, passOver, rowName]

/-- To the axes after the first, the rows that the first drops are as good as not there. -/
lemma charge_later {axis : Axis} (earlier : first.rank < axis.rank) :
    charge column (first :: rest) rows axis
      = charge column rest (leave column first rows) axis := by
  simp only [charge, leave, rowName, Axis.before_later earlier, List.countP_filter, droppedBy]
  refine List.countP_congr fun row _ => ?_
  simp only [List.any_cons, Bool.not_or, Bool.and_eq_true]
  rw [and_assoc, and_comm (a := (!first.drops (row[column]?.getD "")) = true)]

lemma map_charge_later {axes : List Axis} (later : ∀ axis ∈ axes, first.rank < axis.rank) :
    axes.map (charge column (first :: rest) rows)
      = axes.map (charge column rest (leave column first rows)) :=
  List.map_congr_left fun axis member => charge_later column rows (later axis member)

/-- What one pass leaves and what it drops make up what it was shown. -/
lemma leave_length (axis : Axis) :
    (passOver column axis rows).removed + (leave column axis rows).length = rows.length := by
  rw [leave, ← List.countP_eq_length_filter, passOver,
    List.length_eq_countP_add_countP fun row => axis.drops (rowName column row)]
  simp

/-- **The rows left** after any axes are those that none of them drops. -/
lemma passes_rows (axes : List Axis) :
    (passes column axes rows).2 = rows.filter fun row => !droppedBy column axes row := by
  induction axes generalizing rows with
  | nil => simp [passes, droppedBy]
  | cons first rest ih =>
      simp only [passes, ih, leave, rowName, List.filter_filter, droppedBy]
      refine List.filter_congr fun row _ => ?_
      rw [List.any_cons, Bool.not_or, Bool.and_comm]

/-- **The account balances**: a row is charged to exactly one axis or it is kept. -/
lemma charges_add_kept {axes : List Axis} (ascending : axes.Pairwise fun a b => a.rank < b.rank) :
    (axes.map (charge column axes rows)).sum + (passes column axes rows).2.length
      = rows.length := by
  induction axes generalizing rows with
  | nil => simp [passes]
  | cons first rest ih =>
      obtain ⟨later, ascending⟩ := List.pairwise_cons.mp ascending
      have balance := ih (leave column first rows) ascending
      have firstPass := leave_length column rows first
      simp only [List.map_cons, List.sum_cons, passes, charge_first column rows later,
        map_charge_later column rows later]
      omega

/-- **What each pass reports**: the charge of its axis, and as rows examined those that the
charges before it have left. -/
lemma passes_log {axes : List Axis} (ascending : axes.Pairwise fun a b => a.rank < b.rank) :
    (passes column axes rows).1 = axes.map fun axis =>
      { axis, removed := charge column axes rows axis,
        examined := rows.length - ((axis.before axes).map (charge column axes rows)).sum } := by
  induction axes generalizing rows with
  | nil => rfl
  | cons first rest ih =>
      obtain ⟨later, ascending⟩ := List.pairwise_cons.mp ascending
      simp only [passes, ih (leave column first rows) ascending, List.map_cons,
        Axis.before_first later, charge_first column rows later, List.cons.injEq]
      refine ⟨rfl, List.map_congr_left fun axis member => ?_⟩
      have laterBefore : ∀ other ∈ axis.before rest, first.rank < other.rank :=
        fun other hother => later other (List.mem_of_mem_filter hother)
      have firstPass := leave_length column rows first
      rw [Axis.before_later (later axis member), charge_later column rows (later axis member),
        List.map_cons, List.sum_cons, charge_first column rows later,
        map_charge_later column rows laterBefore]
      congr 1
      omega

end Passes

/-! ## The whole sieve -/

/-- The outcome of a sieve that finds its names in a column. -/
def Table.outcomeAt (table : Table) (request : Request) (column : Nat) : Outcome where
  table := ⟨table.header, (passes column request.axes.toList table.rows).2⟩
  total := table.size
  column := request.column
  index := column
  passes := (passes column request.axes.toList table.rows).1

lemma Table.sieve_eq_error {table : Table} {request : Request}
    (absent : request.column ∉ table.header) : table.sieve request = .error ⟨request.column⟩ := by
  rw [sieve, columnIndex?_eq_none.mpr absent]

lemma Table.sieve_eq_ok {table : Table} {request : Request} {column : Nat}
    (first : table.FirstColumn request.column column) :
    table.sieve request = .ok (table.outcomeAt request column) := by
  rw [sieve, columnIndex?_eq_some.mpr first]
  rfl

/-- A sieve that succeeds has found its column. -/
lemma Table.exists_of_sieve_eq_ok {table : Table} {request : Request} {outcome : Outcome}
    (sieved : table.sieve request = .ok outcome) :
    ∃ column, table.FirstColumn request.column column ∧
      table.outcomeAt request column = outcome := by
  by_cases present : request.column ∈ table.header
  · obtain ⟨column, first⟩ := exists_firstColumn present
    rw [sieve_eq_ok first] at sieved
    exact ⟨column, first, Except.ok.inj sieved⟩
  · rw [sieve_eq_error present] at sieved
    cases sieved

lemma Table.outcomeAt_excluded (table : Table) (request : Request) (column : Nat) :
    (table.outcomeAt request column).excluded = request.axes.toList.map fun axis =>
      ⟨axis, charge column request.axes.toList table.rows axis⟩ := by
  rw [Outcome.excluded, outcomeAt, passes_log column table.rows request.axes.ascending,
    List.map_map]
  rfl

lemma find?_exclusion (axes : List Axis) (removed : Axis → Nat) (axis : Axis) :
    (axes.map fun other => Exclusion.mk other (removed other)).find? (fun e => e.axis = axis)
      = if axis ∈ axes then some ⟨axis, removed axis⟩ else none := by
  induction axes with
  | nil => rfl
  | cons first rest ih =>
      rw [List.map_cons, List.find?_cons]
      by_cases same : first = axis
      · simp [same]
      · have other : axis ≠ first := fun h => same h.symm
        simp [same, other, ih]

/-- **The account of an outcome**, told from the table that came in: what is left, what each
enabled axis is charged with, and what the reports make of that. -/
structure Outcome.Accounts (outcome : Outcome) (table : Table) (request : Request)
    (column : Nat) : Prop where
  header : outcome.table.header = table.header
  /-- The rows are those that no enabled axis drops, as they stood. -/
  rows : outcome.table.rows = table.rows.filter fun row =>
    ∀ axis ∈ request.axes.toList, ¬axis.drops (row[column]?.getD "")
  total : outcome.total = table.rows.length
  /-- Each enabled axis has one entry, in the order of evaluation. -/
  excluded : outcome.excluded = (Axis.all.filter fun axis => axis ∈ request.axes.toList).map
    fun axis => ⟨axis, charge column request.axes.toList table.rows axis⟩
  /-- What was received is what is kept and what was dropped. -/
  balance : outcome.summary.total
    = outcome.summary.kept + (outcome.summary.excluded.map Exclusion.removed).sum
  /-- An axis has a count of its own if it is enabled, and only then. -/
  removedBy : ∀ axis, outcome.removedBy axis =
    if axis ∈ request.axes.toList then
      some (charge column request.axes.toList table.rows axis)
    else none
  /-- The trace tells of each axis how many rows the axes before it have left. -/
  trace : outcome.trace =
    ("Filtering on column '" ++ request.column ++ "' (index " ++ toString column ++ ")") ::
      (Axis.all.filter fun axis => axis ∈ request.axes.toList).map fun axis =>
        "Axis " ++ axis.label ++ " removed "
          ++ toString (charge column request.axes.toList table.rows axis) ++ " of "
          ++ toString (table.rows.length - ((axis.before request.axes.toList).map
            (charge column request.axes.toList table.rows)).sum) ++ " rows"

lemma Table.outcomeAt_accounts (table : Table) (request : Request) (column : Nat) :
    (table.outcomeAt request column).Accounts table request column where
  header := rfl
  rows := by
    rw [outcomeAt, passes_rows]
    refine List.filter_congr fun row _ => ?_
    rw [Bool.eq_iff_iff, decide_eq_true_iff]
    simp [droppedBy]
  total := rfl
  excluded := by rw [outcomeAt_excluded, ← AxisSet.toList_eq_filter_all]
  balance := by
    have balance := charges_add_kept column table.rows request.axes.ascending
    rw [Outcome.summary, outcomeAt_excluded, List.map_map, Nat.add_comm]
    exact balance.symm
  removedBy axis := by
    rw [Outcome.removedBy, outcomeAt_excluded, find?_exclusion]
    split <;> rfl
  trace := by
    rw [← AxisSet.toList_eq_filter_all, Outcome.trace, outcomeAt,
      passes_log column table.rows request.axes.ascending, List.map_map]
    rfl

/-- **What a sieve does to a table.**  Without the column it refuses; with it the outcome accounts
for every row, whatever overlaps between the axes and however ragged the table. -/
theorem Table.sieve_spec (table : Table) (request : Request) :
    (request.column ∉ table.header → table.sieve request = .error ⟨request.column⟩) ∧
    (request.column ∈ table.header → ∃ column outcome,
      table.FirstColumn request.column column ∧ table.sieve request = .ok outcome ∧
        outcome.Accounts table request column) := by
  refine ⟨sieve_eq_error, fun present => ?_⟩
  obtain ⟨column, first⟩ := exists_firstColumn present
  exact ⟨column, table.outcomeAt request column, first, sieve_eq_ok first,
    table.outcomeAt_accounts request column⟩

/-- A table whose column of names comes twice, with a row for every case: plain, of the standard
library, of that and dunder (twice), dunder, without a name, and private in a row that is too
long. -/
def Table.tangled : Table where
  header := ["id", "fq_name", "fq_name"]
  rows := [
    ["a", "pkg.mod", "os"],
    ["b", "os.path"],
    ["c", "os.__init__", "x"],
    ["d", "pkg.__init__", "x"],
    ["e"],
    ["c", "os.__init__", "x"],
    ["f", "pkg._hidden", "x", "y"]]

/-- The rows on two grounds are charged to the first, and private names stay, as nobody asked. -/
theorem Table.sieve_spec_tangled :
    tangled.sieve ⟨"name", AxisSet.ofList [.dunder, .stdlib]⟩ = .error ⟨"name"⟩ ∧
    ∃ outcome, tangled.sieve ⟨"fq_name", AxisSet.ofList [.dunder, .stdlib]⟩ = .ok outcome ∧
      outcome.table.header = ["id", "fq_name", "fq_name"] ∧
      outcome.table.rows = [["a", "pkg.mod", "os"], ["e"], ["f", "pkg._hidden", "x", "y"]] ∧
      outcome.total = 7 ∧
      outcome.excluded = [⟨.stdlib, 3⟩, ⟨.dunder, 1⟩] ∧
      outcome.summary = ⟨7, 3, [⟨.stdlib, 3⟩, ⟨.dunder, 1⟩]⟩ ∧
      Axis.all.map outcome.removedBy = [none, some 3, some 1] ∧
      outcome.trace = [
        "Filtering on column 'fq_name' (index 1)",
        "Axis stdlib removed 3 of 7 rows",
        "Axis dunder removed 1 of 4 rows"] := by
  refine ⟨(sieve_spec tangled ⟨"name", _⟩).1 (by decide), ?_⟩
  obtain ⟨column, outcome, first, sieved, accounts⟩ :=
    (sieve_spec tangled ⟨"fq_name", AxisSet.ofList [.dunder, .stdlib]⟩).2 (by decide)
  -- the second column of that name is not looked at
  have index : tangled.columnIndex? "fq_name" = some 1 := by decide
  obtain rfl := Option.some.inj ((columnIndex?_eq_some.mpr first).symm.trans index)
  have rows : outcome.table.rows
      = [["a", "pkg.mod", "os"], ["e"], ["f", "pkg._hidden", "x", "y"]] :=
    accounts.rows.trans (by decide +kernel)
  have total : outcome.total = 7 := accounts.total
  have enabled : (Axis.all.filter fun axis => axis ∈ (AxisSet.ofList [.dunder, .stdlib]).toList)
      = [.stdlib, .dunder] := by decide
  obtain ⟨stdlib, dunder⟩ :
      charge 1 (AxisSet.ofList [.dunder, .stdlib]).toList tangled.rows .stdlib = 3 ∧
        charge 1 (AxisSet.ofList [.dunder, .stdlib]).toList tangled.rows .dunder = 1 := by
    decide +kernel
  have excluded : outcome.excluded = [⟨.stdlib, 3⟩, ⟨.dunder, 1⟩] := by
    simp only [accounts.excluded, enabled, List.map_cons, List.map_nil, stdlib, dunder]
  refine ⟨outcome, sieved, accounts.header, rows, total, excluded, ?_, ?_, ?_⟩
  · rw [Outcome.summary, total, excluded, Table.size, rows]
    rfl
  · rw [Axis.all, List.map_cons, List.map_cons, List.map_singleton, accounts.removedBy,
      accounts.removedBy, accounts.removedBy, stdlib, dunder]
    rfl
  · have first : Axis.before (AxisSet.ofList [.dunder, .stdlib]).toList .stdlib = [] := by decide
    have second : Axis.before (AxisSet.ofList [.dunder, .stdlib]).toList .dunder = [.stdlib] := by
      decide
    simp only [accounts.trace, enabled, List.map_cons, List.map_nil, stdlib, dunder, first, second]
    decide +kernel

end NameSieve
