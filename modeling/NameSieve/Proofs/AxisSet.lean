import Mathlib.Data.List.Sort
import NameSieve.Axis

/-!
# The one list of an axis set

An `AxisSet` holds its members as an ascending list, and an ascending list is determined by its
members.  So the order of evaluation can be read off a set without knowing how it was built:
`toList_eq_filter_all` says that a set lists the three axes, less those that are not in it.

`union` puts sets together.  Of a set that was built its members are known (`mem_ofList`,
`mem_union`), and by the above that is all there is to know.
-/

namespace NameSieve.AxisSet

/-! ## Members -/

lemma mem_insert {axes : AxisSet} {axis other : Axis} :
    other ∈ (axes.insert axis).toList ↔ other = axis ∨ other ∈ axes.toList :=
  Axis.mem_insertRanked

lemma mem_foldl_insert {enabled : List Axis} {axes : AxisSet} {axis : Axis} :
    axis ∈ (enabled.foldl insert axes).toList ↔ axis ∈ axes.toList ∨ axis ∈ enabled := by
  induction enabled generalizing axes with
  | nil => simp
  | cons first rest ih =>
      rw [List.foldl_cons, ih, mem_insert, List.mem_cons, or_comm (a := axis = first), or_assoc]

@[simp] lemma mem_ofList {enabled : List Axis} {axis : Axis} :
    axis ∈ (ofList enabled).toList ↔ axis ∈ enabled := by
  simp [ofList, mem_foldl_insert, empty]

/-- The axes that are in some set of a list. -/
def union (sets : List AxisSet) : AxisSet :=
  ofList (sets.flatMap toList)

@[simp] lemma mem_union {sets : List AxisSet} {axis : Axis} :
    axis ∈ (union sets).toList ↔ ∃ axes ∈ sets, axis ∈ axes.toList := by
  rw [union, mem_ofList, List.mem_flatMap]

/-! ## Order -/

/-- **A set lists its members in the order of evaluation**, whatever the order in which they were
enabled. -/
theorem toList_eq_filter_all (axes : AxisSet) :
    axes.toList = Axis.all.filter fun axis => axis ∈ axes.toList := by
  have irreflexive : Std.Irrefl fun a b : Axis => a.rank < b.rank := ⟨fun a => Nat.lt_irrefl a.rank⟩
  have ascendingAll : Axis.all.Pairwise fun a b => a.rank < b.rank := by decide
  refine axes.ascending.eq_of_mem_iff (ascendingAll.filter _) fun axis => ?_
  have everyAxis : axis ∈ Axis.all := by cases axis <;> decide
  simp [everyAxis]

/-- Sets with the same members are the same. -/
lemma eq_of_mem_iff {axes others : AxisSet}
    (same : ∀ axis, axis ∈ axes.toList ↔ axis ∈ others.toList) : axes = others := by
  have lists : axes.toList = others.toList := by
    rw [toList_eq_filter_all axes, toList_eq_filter_all others]
    exact List.filter_congr fun axis _ => decide_eq_decide.mpr (same axis)
  cases axes
  cases others
  simpa using lists

end NameSieve.AxisSet

namespace NameSieve.Request

/-- Requests with the same column and the same axes are the same. -/
lemma eq_of_mem_iff {request other : Request} (column : request.column = other.column)
    (same : ∀ axis, axis ∈ request.axes.toList ↔ axis ∈ other.axes.toList) : request = other := by
  have axes : request.axes = other.axes := AxisSet.eq_of_mem_iff same
  cases request
  cases other
  exact congr (congrArg Request.mk column) axes

lemma withAxisIf_column (request : Request) (axis : Axis) (enabled : Bool) :
    (request.withAxisIf axis enabled).column = request.column := by
  cases enabled <;> rfl

lemma mem_withAxisIf {request : Request} {axis other : Axis} {enabled : Bool} :
    other ∈ (request.withAxisIf axis enabled).axes.toList
      ↔ enabled = true ∧ other = axis ∨ other ∈ request.axes.toList := by
  cases enabled with
  | false => simp [withAxisIf]
  | true => simp [withAxisIf, withAxis, AxisSet.mem_insert]

end NameSieve.Request
