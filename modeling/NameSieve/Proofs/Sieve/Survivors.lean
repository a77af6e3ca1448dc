import NameSieve.Proofs.Name.Hidden
import NameSieve.Proofs.Sieve.Account

/-!
# What passes every axis

With all three axes enabled a sieve keeps the rows with *plain* names: nothing in them begins with
an underscore, and no registered module begins them.  Neither the exemption of `_thread` from
privacy nor the looseness of dunder segments lets a hidden segment through: what the one axis
spares, another takes.
-/

namespace NameSieve

/-- A row that none of the three axes drops is a row with a plain name. -/
lemma droppedBy_eq_not_isPlain {axes : List Axis} (enabled : ∀ axis, axis ∈ axes) (column : Nat)
    (row : List String) :
    droppedBy column axes row = !decide (Name.IsPlain (rowName column row)) := by
  have spared : droppedBy column axes row = false ↔ Name.IsPlain (rowName column row) := by
    simp only [droppedBy, List.any_eq_false, Bool.not_eq_true, Name.isPlain_iff]
    constructor
    · intro h
      exact ⟨h .privateName (enabled _), h .stdlib (enabled _), h .dunder (enabled _)⟩
    · rintro ⟨notPrivate, notStdlib, notDunder⟩ axis -
      cases axis with
      | privateName => exact notPrivate
      | stdlib => exact notStdlib
      | dunder => exact notDunder
  rw [← Bool.not_eq_eq_eq_not, Bool.eq_iff_iff, decide_eq_true_iff, ← spared, Bool.not_eq_true']

/-- **The sieve with every axis enabled** keeps exactly the rows with plain names. -/
theorem Table.sieve_rows_isPlain (table : Table) (request : Request)
    (present : request.column ∈ table.header)
    (enabled : ∀ axis, axis ∈ request.axes.toList) :
    ∃ column outcome, table.FirstColumn request.column column ∧
      table.sieve request = .ok outcome ∧
      outcome.table.rows = table.rows.filter fun row => Name.IsPlain (rowName column row) := by
  obtain ⟨column, first⟩ := exists_firstColumn present
  refine ⟨column, table.outcomeAt request column, first, sieve_eq_ok first, ?_⟩
  rw [outcomeAt, passes_rows]
  refine List.filter_congr fun row _ => ?_
  rw [droppedBy_eq_not_isPlain enabled, Bool.not_not]

/-- Names that one axis alone would let through: an exempt one, a dunder one, one whose dunder
segment is broken by a line feed, and a plain one. -/
theorem Table.sieve_rows_isPlain_thread :
    "fq_name" ∈ ["fq_name"] ∧ (∀ axis, axis ∈ (AxisSet.ofList Axis.all).toList) ∧
      ∃ outcome,
        (Table.mk ["fq_name"] [["_thread._local"], ["a.__b__"], ["a.__b\n__"], ["oswalk"]]).sieve
          ⟨"fq_name", AxisSet.ofList Axis.all⟩ = .ok outcome ∧
        outcome.table.rows = [["oswalk"]] := by
  have present : "fq_name" ∈ ["fq_name"] := by decide
  have enabled : ∀ axis, axis ∈ (AxisSet.ofList Axis.all).toList := by
    intro axis
    cases axis <;> decide
  obtain ⟨column, outcome, first, sieved, rows⟩ := sieve_rows_isPlain
    ⟨["fq_name"], [["_thread._local"], ["a.__b__"], ["a.__b\n__"], ["oswalk"]]⟩
    ⟨"fq_name", AxisSet.ofList Axis.all⟩ present enabled
  obtain ⟨inside, -⟩ := List.getElem?_eq_some_iff.mp first.1
  obtain rfl : column = 0 := Nat.lt_one_iff.mp inside
  refine ⟨present, enabled, outcome, sieved, rows.trans ?_⟩
  decide +kernel

end NameSieve
