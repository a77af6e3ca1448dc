import NameSieve.Proofs.Sieve.Account
import NameSieve.Proofs.Table.Rectangular

/-!
# Sieving what has been sieved

A sieve makes a table smaller and leaves its shape: it stays rectangular, and its columns stay
where they are.  What is left is spared by every axis, so a second sieve by the same request finds
nothing to drop (`outcomeAt_again`).
-/

namespace NameSieve

section Spared

variable {column : Nat} {axes : List Axis} {rows : List (List String)}

lemma not_droppedBy_of_mem_passes :
    ∀ row ∈ (passes column axes rows).2, droppedBy column axes row = false := by
  intro row member
  rw [passes_rows, List.mem_filter] at member
  exact (Bool.not_eq_true' _).mp member.2

lemma passes_of_spared (spared : ∀ row ∈ rows, droppedBy column axes row = false) :
    (passes column axes rows).2 = rows := by
  rw [passes_rows, List.filter_eq_self]
  intro row member
  rw [spared row member, Bool.not_false]

/-- An axis that spares every row is charged with nothing. -/
lemma charge_of_spared {axis : Axis}
    (spared : ∀ row ∈ rows, axis.drops (row[column]?.getD "") = false) :
    charge column axes rows axis = 0 := by
  rw [charge, List.countP_eq_zero]
  intro row member counted
  rw [spared row member, Bool.false_and] at counted
  cases counted

/-- Each axis of a list spares the rows that the list spares. -/
lemma drops_of_not_droppedBy {row : List String} (spared : droppedBy column axes row = false)
    {axis : Axis} (enabled : axis ∈ axes) : axis.drops (row[column]?.getD "") = false :=
  Bool.eq_false_iff.mpr (List.any_eq_false.mp spared axis enabled)

end Spared

namespace Table

variable (table : Table) (request : Request) (column : Nat)

lemma rows_outcomeAt_sublist :
    (table.outcomeAt request column).table.rows.Sublist table.rows := by
  rw [outcomeAt, passes_rows]
  exact List.filter_sublist

/-- A second sieve by the same request drops nothing. -/
theorem outcomeAt_again :
    ((table.outcomeAt request column).table.outcomeAt request column).table
        = (table.outcomeAt request column).table ∧
      ((table.outcomeAt request column).table.outcomeAt request column).excluded
        = request.axes.toList.map fun axis => ⟨axis, 0⟩ := by
  have spared : ∀ row ∈ (table.outcomeAt request column).table.rows,
      droppedBy column request.axes.toList row = false := not_droppedBy_of_mem_passes
  constructor
  · exact congrArg (Table.mk table.header) (passes_of_spared spared)
  · rw [outcomeAt_excluded]
    refine List.map_congr_left fun axis enabled => ?_
    rw [charge_of_spared fun row member => drops_of_not_droppedBy (spared row member) enabled]

/-! ## Shape -/

variable {table}

lemma Rectangular.of_sublist {header : List String} {rows fewer : List (List String)}
    (rectangular : Rectangular ⟨header, rows⟩) (sublist : fewer.Sublist rows) :
    Rectangular ⟨header, fewer⟩ :=
  fun row member => rectangular row (sublist.subset member)

lemma Rectangular.outcomeAt (rectangular : table.Rectangular) :
    (table.outcomeAt request column).table.Rectangular :=
  rectangular.of_sublist (table.rows_outcomeAt_sublist request column)

/-- A sieve makes what is written no longer. -/
lemma write_outcomeAt_length_le (rectangular : table.Rectangular) :
    (table.outcomeAt request column).table.write.bytes.length ≤ table.write.bytes.length := by
  rw [write_eq rectangular, write_eq (rectangular.outcomeAt request column)]
  have fewer : (table.outcomeAt request column).table.records.Sublist table.records :=
    ((table.rows_outcomeAt_sublist request column).cons_cons _).map rowBytes
  exact (fewer.flatMap _).length_le

end Table

end NameSieve
