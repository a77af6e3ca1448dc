import NameSieve.Proofs.Sieve.Account

/-!
# How a request was built

A request starts with a column and no axes, and is built by calls that enable axes, outright or
under a flag.  What can be told from a request of the calls behind it is only *which* axes they
have enabled.

* `Call.Enables` says which axis a call enables; a call whose flag is not set enables none.
* `mem_apply` is what one call adds, and `mem_foldl_apply` what any number of them add.
* `eq_of_enabled` follows, since a set of axes has only one list of its members: requests built
  from calls that enable the same axes are the same.

**`ofCalls_canonical`** puts this together with what a sieve reports of such a request.
-/

namespace NameSieve.Request

/-! ## Calls -/

/-- A call that builds on a request. -/
inductive Call where
  | withAxis (axis : Axis)
  | withAxisIf (axis : Axis) (enabled : Bool)
deriving DecidableEq

/-- The request that a call makes of a request. -/
def Call.apply (request : Request) : Call → Request
  | withAxis axis => request.withAxis axis
  | withAxisIf axis enabled => request.withAxisIf axis enabled

/-- **The axis that a call enables.** -/
inductive Call.Enables : Call → Axis → Prop where
  | outright (axis : Axis) : Enables (withAxis axis) axis
  | flagged (axis : Axis) : Enables (withAxisIf axis true) axis

/-- The request that calls build, in order, on a column without axes. -/
def ofCalls (column : String) (calls : List Call) : Request :=
  calls.foldl Call.apply { column }

/-- Some call of the list enables the axis. -/
def Enabled (calls : List Call) (axis : Axis) : Prop :=
  ∃ call ∈ calls, call.Enables axis

/-! ## One call -/

namespace Call

lemma enables_withAxis {axis other : Axis} : (withAxis axis).Enables other ↔ other = axis := by
  constructor
  · rintro ⟨⟩
    rfl
  · rintro rfl
    exact .outright other

lemma enables_withAxisIf {axis other : Axis} {enabled : Bool} :
    (withAxisIf axis enabled).Enables other ↔ enabled = true ∧ other = axis := by
  constructor
  · rintro ⟨⟩
    exact ⟨rfl, rfl⟩
  · rintro ⟨rfl, rfl⟩
    exact .flagged other

instance (call : Call) (axis : Axis) : Decidable (call.Enables axis) :=
  match call with
  | withAxis _ => decidable_of_iff _ enables_withAxis.symm
  | withAxisIf _ _ => decidable_of_iff _ enables_withAxisIf.symm

lemma apply_column (request : Request) (call : Call) :
    (apply request call).column = request.column := by
  cases call with
  | withAxis axis => rfl
  | withAxisIf axis enabled => exact withAxisIf_column request axis enabled

/-- **What one call adds**: the axis that it enables, if any. -/
lemma mem_apply {request : Request} {call : Call} {axis : Axis} :
    axis ∈ (apply request call).axes.toList ↔ call.Enables axis ∨ axis ∈ request.axes.toList := by
  cases call with
  | withAxis other =>
      rw [enables_withAxis]
      exact AxisSet.mem_insert
  | withAxisIf other enabled =>
      rw [enables_withAxisIf]
      exact mem_withAxisIf

end Call

/-! ## Any number of calls -/

section Calls

variable {calls others : List Call}

instance (calls : List Call) (axis : Axis) : Decidable (Enabled calls axis) :=
  inferInstanceAs (Decidable (∃ call ∈ calls, call.Enables axis))

lemma foldl_apply_column (calls : List Call) (request : Request) :
    (calls.foldl Call.apply request).column = request.column := by
  induction calls generalizing request with
  | nil => rfl
  | cons call rest ih => rw [List.foldl_cons, ih, Call.apply_column]

/-- **What calls add**: the axes that some of them enable, and nothing is taken away. -/
lemma mem_foldl_apply {request : Request} {axis : Axis} :
    axis ∈ (calls.foldl Call.apply request).axes.toList
      ↔ Enabled calls axis ∨ axis ∈ request.axes.toList := by
  induction calls generalizing request with
  | nil => simp [Enabled]
  | cons call rest ih =>
      rw [List.foldl_cons, ih, Call.mem_apply, Enabled, Enabled, List.exists_mem_cons_iff,
        or_left_comm, or_assoc]

lemma ofCalls_column (column : String) (calls : List Call) :
    (ofCalls column calls).column = column :=
  foldl_apply_column calls { column }

lemma mem_ofCalls {column : String} {axis : Axis} :
    axis ∈ (ofCalls column calls).axes.toList ↔ Enabled calls axis := by
  rw [ofCalls, mem_foldl_apply]
  exact or_iff_left List.not_mem_nil

/-- Calls that enable the same axes build the same request. -/
lemma eq_of_enabled (column : String)
    (same : ∀ axis, Enabled others axis ↔ Enabled calls axis) :
    ofCalls column others = ofCalls column calls := by
  refine eq_of_mem_iff ?_ fun axis => ?_
  · rw [ofCalls_column, ofCalls_column]
  · rw [mem_ofCalls, mem_ofCalls, same]

end Calls

/-! ## Requests and their sieves -/

/-- **A request is the set of what was enabled.**  It has the column that it was started with, and
in the order of evaluation, once each, the axes that some call has enabled.  A sieve by it reports
one exclusion for each of them, in that order.  So calls that enable the same axes, whatever their
order, their repetitions and the flags that were not set, build the same request; and whatever
table is sieved by the one and by the other, it ends alike, with the same rows, exclusions, report
and trace. -/
theorem ofCalls_canonical (column : String) (calls : List Call) :
    (ofCalls column calls).column = column ∧
    (ofCalls column calls).axes.toList.Pairwise (fun a b => a.rank < b.rank) ∧
    (∀ axis, axis ∈ (ofCalls column calls).axes.toList ↔ Enabled calls axis) ∧
    (∀ table : Table, column ∈ table.header → ∃ outcome,
      table.sieve (ofCalls column calls) = .ok outcome ∧
      outcome.excluded.map Exclusion.axis = (ofCalls column calls).axes.toList) ∧
    ∀ others : List Call, (∀ axis, Enabled others axis ↔ Enabled calls axis) →
      ofCalls column others = ofCalls column calls ∧
      ∀ table : Table,
        table.sieve (ofCalls column others) = table.sieve (ofCalls column calls) := by
  refine ⟨ofCalls_column column calls, (ofCalls column calls).axes.ascending,
    fun _ => mem_ofCalls, ?_, ?_⟩
  · intro table present
    rw [← ofCalls_column column calls] at present
    obtain ⟨index, first⟩ := Table.exists_firstColumn present
    refine ⟨_, Table.sieve_eq_ok first, ?_⟩
    rw [Table.outcomeAt_excluded, List.map_map]
    exact List.map_id _
  · intro others same
    have equal := eq_of_enabled column same
    exact ⟨equal, fun table => congrArg table.sieve equal⟩

/-- Calls out of order, one of them made twice and one without effect. -/
def roundabout : List Call :=
  [.withAxis .dunder, .withAxisIf .stdlib false, .withAxis .privateName, .withAxis .dunder]

/-- Calls under flags, as a command makes them. -/
def underFlags : List Call :=
  [.withAxisIf .privateName true, .withAxisIf .stdlib false, .withAxisIf .dunder true]

/-- Both come to the same two axes, and a sieve by them reports in the order of evaluation. -/
theorem ofCalls_canonical_roundabout :
    (∀ axis, Enabled underFlags axis ↔ Enabled roundabout axis) ∧
    ofCalls "fq_name" underFlags = ofCalls "fq_name" roundabout ∧
    (ofCalls "fq_name" roundabout).axes.toList = [.privateName, .dunder] ∧
    ∃ outcome, Table.sieve ⟨["fq_name"], [["a.__b__"], ["_c"]]⟩ (ofCalls "fq_name" roundabout)
      = .ok outcome ∧ outcome.excluded.map Exclusion.axis = [.privateName, .dunder] := by
  have same : ∀ axis, Enabled underFlags axis ↔ Enabled roundabout axis := by
    intro axis
    cases axis <;> decide
  have twoAxes : (ofCalls "fq_name" roundabout).axes.toList = [.privateName, .dunder] := by decide
  obtain ⟨-, -, -, sieved, equal⟩ := ofCalls_canonical "fq_name" roundabout
  obtain ⟨outcome, found, axes⟩ := sieved ⟨["fq_name"], [["a.__b__"], ["_c"]]⟩ (by decide)
  exact ⟨same, (equal underFlags same).1, twoAxes, outcome, found, axes.trans twoAxes⟩

end NameSieve.Request
