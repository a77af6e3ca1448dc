import Mathlib.Data.List.Nodup
import Mathlib.Tactic
import NameSieve.Chart

/-!
# The order of bars

Bars stand in the total order of their numbers, from the greatest down.  That order is a matter of
bit patterns, and it leaves no two patterns side by side: the zeros are apart, and every NaN has
its place.

* `bits` is the pattern of a number, and `TotalLe` the order of patterns, by sign and magnitude.
  `rank_le_rank` is why a rank may stand for a pattern.
* `filter_ofBars` is stability: bars of one number keep their order.
* `values_ofBars_of_perm` and `ofBars_of_perm` say how much of the order in which bars are given is
  left in the chart: nothing of it in the numbers, and nothing at all if the numbers differ.

**`ofBars_ordered`** is the contract of a chart.
-/

namespace NameSieve

/-! ## The total order of numbers -/

namespace Binary64

/-- The bit pattern of a number: its sign, and below it the magnitude. -/
def bits (x : Binary64) : BitVec 64 :=
  BitVec.ofNat 64 ((if x.negative then 2 ^ 63 else 0) + x.magnitude)

/-- **The total order of bit patterns**, as IEEE 754 has it for numbers of one format.  Patterns
with the sign bit go before those without it; among themselves they run downwards, and the others
upwards. -/
def TotalLe (a b : BitVec 64) : Prop :=
  if a.msb = b.msb then (if a.msb then b.toNat ≤ a.toNat else a.toNat ≤ b.toNat) else a.msb

instance (a b : BitVec 64) : Decidable (TotalLe a b) :=
  inferInstanceAs (Decidable (if a.msb = b.msb then
    (if a.msb then b.toNat ≤ a.toNat else a.toNat ≤ b.toNat) else a.msb))

lemma magnitude_lt_two_pow (x : Binary64) : x.magnitude < 2 ^ 63 := by
  have small := x.magnitude_lt
  omega

lemma toNat_bits (x : Binary64) :
    x.bits.toNat = (if x.negative then 2 ^ 63 else 0) + x.magnitude := by
  have small := x.magnitude_lt_two_pow
  rw [bits, BitVec.toNat_ofNat, Nat.mod_eq_of_lt]
  split_ifs
  all_goals omega

/-- The first bit is the sign. -/
lemma msb_bits (x : Binary64) : x.bits.msb = x.negative := by
  have small := x.magnitude_lt_two_pow
  rw [BitVec.msb_eq_decide, toNat_bits]
  cases x.negative
  all_goals simp
  all_goals omega

/-- **Numbers with one pattern are one number.** -/
lemma bits_injective : Function.Injective bits := by
  intro x y same
  have sign : x.negative = y.negative := by rw [← msb_bits x, same, msb_bits]
  have whole : x.bits.toNat = y.bits.toNat := congrArg BitVec.toNat same
  rw [toNat_bits, toNat_bits, sign] at whole
  cases x
  cases y
  simp_all

/-- **Ranks run as the total order does.** -/
lemma rank_le_rank {x y : Binary64} : x.rank ≤ y.rank ↔ TotalLe x.bits y.bits := by
  rw [TotalLe, msb_bits, msb_bits, toNat_bits, toNat_bits, rank, rank]
  cases x.negative <;> cases y.negative
  all_goals simp
  all_goals omega

lemma rank_injective : Function.Injective rank := by
  intro x y same
  obtain ⟨negative, magnitude, small⟩ := x
  obtain ⟨negative', magnitude', small'⟩ := y
  simp only [rank] at same
  cases negative <;> cases negative' <;> simp at same ⊢ <;> omega

end Binary64

/-! ## Sorted bars -/

namespace Chart

open Binary64 (TotalLe bits_injective rank_injective rank_le_rank)

/-- The number of one bar is no less than that of another, in the total order. -/
def NotBelow (upper lower : Bar) : Prop :=
  TotalLe lower.2.bits upper.2.bits

lemma notBelow_iff {upper lower : Bar} : NotBelow upper lower ↔ lower.2.rank ≤ upper.2.rank :=
  rank_le_rank.symm

lemma NotBelow.antisymm {a b : Bar} (below : NotBelow a b) (above : NotBelow b a) : a.2 = b.2 :=
  rank_injective (le_antisymm (notBelow_iff.mp above) (notBelow_iff.mp below))

section Sorting

variable (xLabel yLabel : String) (bars : List Bar)

lemma ofBars_perm : (ofBars xLabel yLabel bars).bars.Perm bars :=
  List.mergeSort_perm bars _

/-- What is asked of the comparison of two bars for sorting by it. -/
lemma rank_trans (a b c : Bar) (first : decide (b.2.rank ≤ a.2.rank) = true)
    (second : decide (c.2.rank ≤ b.2.rank) = true) : decide (c.2.rank ≤ a.2.rank) = true := by
  simp only [decide_eq_true_eq] at *
  omega

lemma rank_total (a b : Bar) :
    (decide (b.2.rank ≤ a.2.rank) || decide (a.2.rank ≤ b.2.rank)) = true := by
  simp only [Bool.or_eq_true, decide_eq_true_eq]
  omega

/-- **From the greatest number down.** -/
lemma ofBars_pairwise : (ofBars xLabel yLabel bars).bars.Pairwise NotBelow := by
  have sorted := List.pairwise_mergeSort rank_trans rank_total bars
  refine sorted.imp fun {upper lower} ordered => ?_
  exact notBelow_iff.mpr (of_decide_eq_true ordered)

/-- Bars that stand in order are left as they are. -/
lemma ofBars_of_pairwise {bars : List Bar} (ordered : bars.Pairwise NotBelow) :
    ofBars xLabel yLabel bars = ⟨xLabel, yLabel, bars⟩ := by
  have sorted : bars.Pairwise fun a b => decide (b.2.rank ≤ a.2.rank) = true :=
    ordered.imp fun {upper lower} notBelow => decide_eq_true (notBelow_iff.mp notBelow)
  rw [ofBars, List.mergeSort_of_pairwise sorted]

/-- **Bars of one number keep their order.**  They are in order among themselves already, so that
sorting all bars finds them as it left them, and as many. -/
lemma filter_ofBars (pattern : BitVec 64) :
    (ofBars xLabel yLabel bars).bars.filter (fun bar => bar.2.bits = pattern)
      = bars.filter (fun bar => bar.2.bits = pattern) := by
  have level : (bars.filter fun bar => bar.2.bits = pattern).Pairwise
      fun a b => decide (b.2.rank ≤ a.2.rank) = true := by
    refine List.pairwise_of_forall_mem_list fun a ha b hb => ?_
    have pa := of_decide_eq_true (List.mem_filter.mp ha).2
    have pb := of_decide_eq_true (List.mem_filter.mp hb).2
    rw [bits_injective (pa.trans pb.symm)]
    simp
  have kept : (bars.filter fun bar => bar.2.bits = pattern).Sublist
      (ofBars xLabel yLabel bars).bars :=
    List.sublist_mergeSort rank_trans rank_total level List.filter_sublist
  have inside := kept.filter fun bar => bar.2.bits = pattern
  rw [List.filter_filter] at inside
  simp only [Bool.and_self] at inside
  have many := ((ofBars_perm xLabel yLabel bars).filter fun bar => bar.2.bits = pattern).length_eq
  exact (inside.eq_of_length many.symm).symm

variable {bars}

/-- **The numbers of a chart** hang on what bars there are, and not on their order. -/
lemma values_ofBars_of_perm {other : List Bar} (perm : other.Perm bars) :
    (ofBars xLabel yLabel other).bars.map Prod.snd
      = (ofBars xLabel yLabel bars).bars.map Prod.snd := by
  have sorted : ∀ bars : List Bar, ((ofBars xLabel yLabel bars).bars.map Prod.snd).Pairwise
      fun upper lower => lower.rank ≤ upper.rank := by
    intro bars
    rw [List.pairwise_map]
    exact (ofBars_pairwise xLabel yLabel bars).imp notBelow_iff.mp
  have same : (ofBars xLabel yLabel other).bars.Perm (ofBars xLabel yLabel bars).bars :=
    (ofBars_perm xLabel yLabel other).trans (perm.trans (ofBars_perm xLabel yLabel bars).symm)
  refine List.Perm.eq_of_pairwise ?_ (sorted other) (sorted bars) (same.map Prod.snd)
  intro x y _ _ lower upper
  exact rank_injective (le_antisymm upper lower)

/-- Bars of different numbers have but one order. -/
lemma ofBars_of_perm {other : List Bar} (perm : other.Perm bars)
    (distinct : (bars.map fun bar => bar.2.bits).Nodup) :
    ofBars xLabel yLabel other = ofBars xLabel yLabel bars := by
  have same : (ofBars xLabel yLabel other).bars.Perm (ofBars xLabel yLabel bars).bars :=
    (ofBars_perm xLabel yLabel other).trans (perm.trans (ofBars_perm xLabel yLabel bars).symm)
  have order : (ofBars xLabel yLabel other).bars = (ofBars xLabel yLabel bars).bars := by
    refine List.Perm.eq_of_pairwise ?_ (ofBars_pairwise xLabel yLabel other)
      (ofBars_pairwise xLabel yLabel bars) same
    intro a b ha hb below above
    have ha' := perm.mem_iff.mp ((ofBars_perm xLabel yLabel other).mem_iff.mp ha)
    have hb' := (ofBars_perm xLabel yLabel bars).mem_iff.mp hb
    exact List.inj_on_of_nodup_map distinct ha' hb'
      (congrArg Binary64.bits (below.antisymm above))
  exact congrArg (Chart.mk xLabel yLabel) order

end Sorting

/-! ## Charts -/

/-- **The contract of a chart.**  It has its labels and the bars it was given, from the greatest
number down and, where numbers have the same bits, in the order given.  So a chart made of the bars
of a chart is that chart; and the order in which bars are given does not change the numbers from
the top, nor the chart if no two numbers have the same bits. -/
theorem ofBars_ordered (xLabel yLabel : String) (bars : List Bar) :
    (ofBars xLabel yLabel bars).xLabel = xLabel ∧
    (ofBars xLabel yLabel bars).yLabel = yLabel ∧
    (ofBars xLabel yLabel bars).bars.Perm bars ∧
    (ofBars xLabel yLabel bars).bars.Pairwise
      (fun upper lower => TotalLe lower.2.bits upper.2.bits) ∧
    (∀ pattern : BitVec 64,
      (ofBars xLabel yLabel bars).bars.filter (fun bar => bar.2.bits = pattern)
        = bars.filter (fun bar => bar.2.bits = pattern)) ∧
    ofBars xLabel yLabel (ofBars xLabel yLabel bars).bars = ofBars xLabel yLabel bars ∧
    ∀ other : List Bar, other.Perm bars →
      (ofBars xLabel yLabel other).bars.map Prod.snd
        = (ofBars xLabel yLabel bars).bars.map Prod.snd ∧
      ((bars.map fun bar => bar.2.bits).Nodup →
        ofBars xLabel yLabel other = ofBars xLabel yLabel bars) := by
  have ordered := ofBars_pairwise xLabel yLabel bars
  refine ⟨rfl, rfl, ofBars_perm xLabel yLabel bars, ordered, filter_ofBars xLabel yLabel bars,
    ofBars_of_pairwise xLabel yLabel ordered, ?_⟩
  intro other perm
  exact ⟨values_ofBars_of_perm xLabel yLabel perm, ofBars_of_perm xLabel yLabel perm⟩

/-- Every kind of number, from the greatest down: a NaN, infinity, one, the zeros, less than zero,
and a NaN with a sign. -/
def everyKind : List Bar :=
  [("a", ⟨false, Binary64.quietNaN, by decide⟩), ("b", ⟨false, Binary64.infinity, by decide⟩),
    ("c", ⟨false, 0x3FF0000000000000, by decide⟩), ("d", ⟨false, 0, by decide⟩),
    ("e", ⟨true, 0, by decide⟩), ("f", ⟨true, 0x3FF0000000000000, by decide⟩),
    ("g", ⟨true, Binary64.quietNaN, by decide⟩)]

/-- They come out in that order, though given in the opposite one. -/
theorem ofBars_ordered_everyKind :
    everyKind.reverse.Perm everyKind ∧ (everyKind.map fun bar => bar.2.bits).Nodup ∧
      ofBars "x" "y" everyKind.reverse = ⟨"x", "y", everyKind⟩ := by
  have perm : everyKind.reverse.Perm everyKind := List.reverse_perm everyKind
  have distinct : (everyKind.map fun bar => bar.2.bits).Nodup := by decide
  have ordered : everyKind.Pairwise fun upper lower => TotalLe lower.2.bits upper.2.bits := by
    decide
  obtain ⟨-, -, -, -, -, -, orders⟩ := ofBars_ordered "x" "y" everyKind
  refine ⟨perm, distinct, ?_⟩
  rw [(orders everyKind.reverse perm).2 distinct, ofBars_of_pairwise "x" "y" ordered]

end Chart

end NameSieve
