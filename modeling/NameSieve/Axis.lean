import NameSieve.Name

/-!
# Axes and requests

An *axis* is one of the three grounds on which a row is dropped.  The axes have a fixed order of
evaluation, and an `AxisSet` keeps its members in that order however they were enabled.  A
`Request` is a set of axes together with the column that holds the names.
-/

namespace NameSieve

/-- A ground on which a name is dropped. -/
inductive Axis where
  | privateName
  | stdlib
  | dunder
deriving DecidableEq

namespace Axis

/-- Every axis, in the order of evaluation. -/
def all : List Axis :=
  [privateName, stdlib, dunder]

/-- The place of an axis in the order of evaluation. -/
def rank : Axis → Nat
  | privateName => 0
  | stdlib => 1
  | dunder => 2

def label : Axis → String
  | privateName => "private"
  | stdlib => "stdlib"
  | dunder => "dunder"

def ofLabel? (word : String) : Option Axis :=
  all.find? fun axis => axis.label == word

/-- Is a row with this name dropped by the axis? -/
def drops : Axis → String → Bool
  | privateName => Name.isPrivate
  | stdlib => Name.isStdlib
  | dunder => Name.hasDunder

/-- Puts an axis in its place in an ascending list, unless it is there. -/
def insertRanked (axis : Axis) : List Axis → List Axis
  | [] => [axis]
  | other :: rest =>
      if axis.rank < other.rank then axis :: other :: rest
      else if other.rank < axis.rank then other :: insertRanked axis rest
      else other :: rest

theorem eq_of_rank_eq {a b : Axis} (h : a.rank = b.rank) : a = b := by
  cases a <;> cases b <;> simp_all [rank]

theorem mem_insertRanked {a b : Axis} {axes : List Axis} :
    b ∈ insertRanked a axes ↔ b = a ∨ b ∈ axes := by
  induction axes with
  | nil => simp [insertRanked]
  | cons other rest ih =>
      rw [insertRanked]
      split
      · simp
      · split
        · simp only [List.mem_cons, ih]
          exact or_left_comm
        · have same : a = other := eq_of_rank_eq (by omega)
          simp [same]

theorem ascending_insertRanked {a : Axis} {axes : List Axis}
    (h : axes.Pairwise fun x y => x.rank < y.rank) :
    (insertRanked a axes).Pairwise fun x y => x.rank < y.rank := by
  induction axes with
  | nil => simp [insertRanked]
  | cons other rest ih =>
      rw [List.pairwise_cons] at h
      rw [insertRanked]
      split
      · next first =>
          refine List.pairwise_cons.2 ⟨?_, List.pairwise_cons.2 h⟩
          intro b hb
          rcases List.mem_cons.1 hb with rfl | hb
          · exact first
          · exact Nat.lt_trans first (h.1 b hb)
      · split
        · next later =>
            refine List.pairwise_cons.2 ⟨?_, ih h.2⟩
            intro b hb
            rcases mem_insertRanked.1 hb with rfl | hb
            · exact later
            · exact h.1 b hb
        · exact List.pairwise_cons.2 h

end Axis

/-! ## Sets of axes -/

/-- A set of axes, held as the ascending list of its members. -/
structure AxisSet where
  /-- The members, in the order of evaluation. -/
  toList : List Axis
  ascending : toList.Pairwise fun x y => x.rank < y.rank
deriving DecidableEq

namespace AxisSet

def empty : AxisSet :=
  ⟨[], List.Pairwise.nil⟩

/-- The set with one more member, or the same set if it is a member. -/
def insert (axes : AxisSet) (axis : Axis) : AxisSet :=
  ⟨axis.insertRanked axes.toList, Axis.ascending_insertRanked axes.ascending⟩

def ofList (axes : List Axis) : AxisSet :=
  axes.foldl insert empty

end AxisSet

/-! ## Requests -/

/-- The column that holds the names unless a request says otherwise. -/
def defaultColumn : String :=
  "fq_name"

/-- Which axes to apply, and where the names are. -/
structure Request where
  column : String := defaultColumn
  axes : AxisSet := AxisSet.empty
deriving DecidableEq

namespace Request

def withAxis (request : Request) (axis : Axis) : Request :=
  { request with axes := request.axes.insert axis }

/-- Enables the axis when the flag is set. -/
def withAxisIf (request : Request) (axis : Axis) (enabled : Bool) : Request :=
  if enabled then request.withAxis axis else request

end Request

end NameSieve
