import NameSieve.Proofs.AxisSet
import NameSieve.Proofs.Sieve.Again

/-!
# Sieving in stages

A table can be sieved by one set of axes after another, each time what the set before has left.
What an axis is charged with hangs on the stages, since a row is charged to the first axis that
drops it.  What does not hang on them is which rows are left, and therefore how many rows were
dropped in all.

* `stagesAt_rows` is the first fact: a row is left if no set of the stages has an axis that drops
  it, and the order of the sets is of no account.
* `stagesAt_balance` is the second: what all stages have dropped and what is left make up the table.
* `stagesAt_settled` says that an axis has nothing to do once it has been enabled: the later
  stages see only rows that it spares.

**`stages_union`** compares the stages with a single sieve by the union of their sets.
-/

namespace NameSieve

/-- The number of rows that a sieve dropped, by whatever axis. -/
def Outcome.dropped (outcome : Outcome) : Nat :=
  (outcome.excluded.map Exclusion.removed).sum

namespace Table

/-- **Sieving in stages**: the outcomes of the stages in order, and the table that is left last. -/
def stages (column : String) : Table → List AxisSet → Except MissingColumn (List Outcome × Table)
  | table, [] => .ok ([], table)
  | table, axes :: rest =>
      match table.sieve ⟨column, axes⟩ with
      | .error e => .error e
      | .ok outcome =>
          match stages column outcome.table rest with
          | .error e => .error e
          | .ok (more, left) => .ok (outcome :: more, left)

/-! ## Stages on a known column -/

/-- The stages of a table whose names are known to stand in a column. -/
def stagesAt (name : String) (column : Nat) : Table → List AxisSet → List Outcome × Table
  | table, [] => ([], table)
  | table, axes :: rest =>
      let outcome := table.outcomeAt ⟨name, axes⟩ column
      let (more, left) := stagesAt name column outcome.table rest
      (outcome :: more, left)

variable (name : String) (column : Nat) (table : Table) (sets : List AxisSet)

/-- The column stays where it is, so that every stage finds it and none fails. -/
lemma stages_eq_ok {name : String} {column : Nat} {table : Table}
    (first : table.FirstColumn name column) :
    table.stages name sets = .ok (stagesAt name column table sets) := by
  induction sets generalizing table with
  | nil => rfl
  | cons axes rest ih =>
      have still : (table.outcomeAt ⟨name, axes⟩ column).table.FirstColumn name column := first
      have sieved : table.sieve ⟨name, axes⟩ = .ok (table.outcomeAt ⟨name, axes⟩ column) :=
        sieve_eq_ok first
      simp only [stages, sieved, ih still, stagesAt]

lemma stagesAt_length : (stagesAt name column table sets).1.length = sets.length := by
  induction sets generalizing table with
  | nil => rfl
  | cons axes rest ih => simp only [stagesAt, List.length_cons, ih]

lemma stagesAt_header : (stagesAt name column table sets).2.header = table.header := by
  induction sets generalizing table with
  | nil => rfl
  | cons axes rest ih => rw [stagesAt, ih, outcomeAt]

/-- **The rows left** after all stages are those that no set of them drops. -/
lemma stagesAt_rows :
    (stagesAt name column table sets).2.rows
      = table.rows.filter fun row => sets.all fun axes => !droppedBy column axes.toList row := by
  induction sets generalizing table with
  | nil => simp [stagesAt]
  | cons axes rest ih =>
      simp only [stagesAt, ih, outcomeAt, passes_rows, List.filter_filter, List.all_cons]
      exact List.filter_congr fun row _ => Bool.and_comm _ _

/-- What a stage has dropped and what it leaves make up what it was shown. -/
lemma dropped_outcomeAt (request : Request) :
    (table.outcomeAt request column).dropped + (table.outcomeAt request column).table.size
      = table.size := by
  have balance := charges_add_kept column table.rows request.axes.ascending
  rw [Outcome.dropped, outcomeAt_excluded, List.map_map]
  exact balance

/-- **The account of all stages balances.** -/
lemma stagesAt_balance :
    ((stagesAt name column table sets).1.map Outcome.dropped).sum
      + (stagesAt name column table sets).2.size = table.size := by
  induction sets generalizing table with
  | nil => simp [stagesAt]
  | cons axes rest ih =>
      have balance := ih (table.outcomeAt ⟨name, axes⟩ column).table
      have stage := dropped_outcomeAt column table ⟨name, axes⟩
      simp only [stagesAt, List.map_cons, List.sum_cons]
      omega

/-! ## Axes that have nothing left to do -/

variable {column table sets}

/-- An axis that spares the whole table is reported with nothing at every stage. -/
lemma removedBy_stagesAt_of_spared {axis : Axis}
    (spared : ∀ row ∈ table.rows, axis.drops (row[column]?.getD "") = false) :
    ∀ stage ∈ sets.zip (stagesAt name column table sets).1,
      axis ∈ stage.1.toList → stage.2.removedBy axis = some 0 := by
  induction sets generalizing table with
  | nil => nofun
  | cons axes rest ih =>
      simp only [stagesAt, List.zip_cons_cons, List.forall_mem_cons]
      constructor
      · intro enabled
        have account := (table.outcomeAt_accounts ⟨name, axes⟩ column).removedBy axis
        rw [account, if_pos enabled, charge_of_spared spared]
      · refine ih fun row member => spared row ?_
        exact (table.rows_outcomeAt_sublist ⟨name, axes⟩ column).subset member

/-- **An axis that was enabled has nothing left to do** at the stages after. -/
lemma stagesAt_settled :
    (sets.zip (stagesAt name column table sets).1).Pairwise fun earlier later =>
      ∀ axis ∈ earlier.1.toList, axis ∈ later.1.toList → later.2.removedBy axis = some 0 := by
  induction sets generalizing table with
  | nil => exact List.Pairwise.nil
  | cons axes rest ih =>
      simp only [stagesAt, List.zip_cons_cons]
      refine List.pairwise_cons.mpr ⟨fun later member axis before enabled => ?_, ih⟩
      have spared : ∀ row ∈ (table.outcomeAt ⟨name, axes⟩ column).table.rows,
          axis.drops (row[column]?.getD "") = false := by
        intro row kept
        exact drops_of_not_droppedBy (not_droppedBy_of_mem_passes row kept) before
      exact removedBy_stagesAt_of_spared name spared later member enabled

/-! ## Stages and their union -/

lemma droppedBy_union (row : List String) :
    droppedBy column (AxisSet.union sets).toList row
      = sets.any fun axes => droppedBy column axes.toList row := by
  rw [Bool.eq_iff_iff]
  simp only [droppedBy, List.any_eq_true, AxisSet.mem_union]
  constructor
  · rintro ⟨axis, ⟨axes, member, enabled⟩, drops⟩
    exact ⟨axes, member, axis, enabled, drops⟩
  · rintro ⟨axes, member, axis, enabled, drops⟩
    exact ⟨axis, ⟨axes, member, enabled⟩, drops⟩

/-- The table that stages leave is the one that a single sieve by all their axes leaves. -/
lemma stagesAt_table {request : Request}
    (all : ∀ axis, axis ∈ request.axes.toList ↔ ∃ axes ∈ sets, axis ∈ axes.toList) :
    (stagesAt name column table sets).2 = (table.outcomeAt request column).table := by
  have same : request.axes = AxisSet.union sets :=
    AxisSet.eq_of_mem_iff fun axis => (all axis).trans AxisSet.mem_union.symm
  have rows : (stagesAt name column table sets).2.rows
      = (table.outcomeAt request column).table.rows := by
    rw [stagesAt_rows, outcomeAt, passes_rows, same]
    refine List.filter_congr fun row _ => ?_
    rw [droppedBy_union, List.not_any_eq_all_not]
  calc (stagesAt name column table sets).2
      = ⟨table.header, (stagesAt name column table sets).2.rows⟩ := by
        rw [← stagesAt_header name column table sets]
    _ = (table.outcomeAt request column).table := by rw [rows, outcomeAt]

/-- **Staging does not matter.**  Stages by any sets of axes succeed on a table with the column.
They leave the table that a single sieve by the union of the sets leaves, and drop as many rows in
all; an axis that was enabled before is reported with nothing.  In particular the axes of the union
may be evaluated one at a time, in any order. -/
theorem stages_union (table : Table) (column : String) (sets : List AxisSet)
    (present : column ∈ table.header) :
    ∃ outcomes left once,
      table.stages column sets = .ok (outcomes, left) ∧
      table.sieve ⟨column, AxisSet.union sets⟩ = .ok once ∧
      left = once.table ∧
      (outcomes.map Outcome.dropped).sum = once.dropped ∧
      outcomes.length = sets.length ∧
      ((sets.zip outcomes).Pairwise fun earlier later =>
        ∀ axis ∈ earlier.1.toList, axis ∈ later.1.toList → later.2.removedBy axis = some 0) ∧
      ∀ order : List Axis, order.Perm (AxisSet.union sets).toList →
        ∃ singles, table.stages column (order.map fun axis => AxisSet.ofList [axis])
          = .ok (singles, left) := by
  obtain ⟨index, first⟩ := exists_firstColumn present
  have sameTable : (stagesAt column index table sets).2
      = (table.outcomeAt ⟨column, AxisSet.union sets⟩ index).table :=
    stagesAt_table column fun _ => AxisSet.mem_union
  refine ⟨(stagesAt column index table sets).1, (stagesAt column index table sets).2, _,
    stages_eq_ok sets first, sieve_eq_ok first, sameTable, ?_,
    stagesAt_length column index table sets, stagesAt_settled column, ?_⟩
  · have staged := stagesAt_balance column index table sets
    have single := dropped_outcomeAt index table ⟨column, AxisSet.union sets⟩
    rw [sameTable] at staged
    omega
  · intro order permuted
    have sameLeft : (stagesAt column index table (order.map fun axis => AxisSet.ofList [axis])).2
        = (stagesAt column index table sets).2 := by
      rw [sameTable]
      refine stagesAt_table column fun axis => ?_
      rw [← permuted.mem_iff]
      simp
    refine ⟨(stagesAt column index table (order.map fun axis => AxisSet.ofList [axis])).1, ?_⟩
    rw [stages_eq_ok _ first, ← sameLeft]

/-- A table with names that several axes drop, and with a row that is too short to have one. -/
def overlapping : Table :=
  ⟨["n", "fq_name"], [["1", "os._exit"], ["2", "a.__b__"], ["3"], ["4", "_c"], ["5", "os"]]⟩

/-- Four stages, one of them empty and one with an axis that was enabled before. -/
def fourStages : List AxisSet :=
  [AxisSet.ofList [.stdlib], AxisSet.empty, AxisSet.ofList [.privateName, .stdlib],
    AxisSet.ofList [.dunder]]

/-- The stages leave the one row without a name, and the third has nothing to drop as `stdlib`. -/
theorem stages_union_overlapping :
    "fq_name" ∈ overlapping.header ∧ ∃ outcomes left,
      overlapping.stages "fq_name" fourStages = .ok (outcomes, left) ∧
      left = ⟨["n", "fq_name"], [["3"]]⟩ ∧ (outcomes.map Outcome.dropped).sum = 4 ∧
      outcomes[2]?.map (fun outcome => outcome.removedBy .stdlib) = some (some 0) := by
  have present : "fq_name" ∈ overlapping.header := by decide
  obtain ⟨outcomes, left, once, staged, sieved, table, dropped, long, settled, -⟩ :=
    stages_union overlapping "fq_name" fourStages present
  obtain ⟨left', dropped'⟩ : once.table = ⟨["n", "fq_name"], [["3"]]⟩ ∧ once.dropped = 4 := by
    have evaluated : (overlapping.sieve ⟨"fq_name", AxisSet.union fourStages⟩).map
        (fun outcome => (outcome.table, outcome.dropped))
          = .ok (⟨["n", "fq_name"], [["3"]]⟩, 4) := by
      decide +kernel
    rw [sieved] at evaluated
    exact Prod.mk.inj (Except.ok.inj evaluated)
  obtain ⟨a, b, c, d, rfl⟩ : ∃ a b c d, outcomes = [a, b, c, d] := by
    match outcomes, long with
    | [a, b, c, d], _ => exact ⟨a, b, c, d, rfl⟩
  have later : (AxisSet.ofList [.privateName, .stdlib], c)
      ∈ [(AxisSet.empty, b), (AxisSet.ofList [.privateName, .stdlib], c),
        (AxisSet.ofList [.dunder], d)] := by simp
  have nothing := (List.pairwise_cons.mp settled).1 _ later .stdlib (by simp) (by simp)
  exact ⟨present, _, left, staged, table.trans left', dropped.trans dropped',
    congrArg some nothing⟩

end Table

end NameSieve
