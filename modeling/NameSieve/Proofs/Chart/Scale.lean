import NameSieve.Proofs.Chart.Layout
import NameSieve.Proofs.Number.Value

/-!
# The scale of a chart

Bars are drawn to the scale of the greatest number: its bar is as wide as asked for, and a smaller
number has a bar no longer.  A number that is not positive has none.

* `isGreatest_peak`: the peak of a chart with a positive number is its greatest value.
* `barLength_peak` and `barLength_mono` are the two facts about bars below a finite peak; they come
  from division, multiplication and counting, which are exact at the peak and keep order below it.
* `barLength_infinity`: below an infinite peak there are no bars at all, since infinity is divided
  by infinity at the peak, and everything else by infinity below it.

**`drawn_scaled`** puts them together for the bars that are drawn.
-/

namespace NameSieve.Chart

open Binary64

/-! ## The peak -/

section Peak

variable {bars : List Bar}

lemma le_peak {bar : Bar} (member : bar ∈ bars) (positive : bar.2.isPositive) :
    bar.2.magnitude ≤ peak bars := by
  induction bars with
  | nil => cases member
  | cons first rest ih =>
      rw [peak]
      rcases List.mem_cons.mp member with rfl | member
      · rw [if_pos positive]
        exact le_max_left _ _
      · split
        · exact (ih member).trans (le_max_right _ _)
        · exact ih member

lemma exists_of_peak (positive : 0 < peak bars) :
    ∃ bar ∈ bars, bar.2.isPositive ∧ bar.2.magnitude = peak bars := by
  induction bars with
  | nil => cases positive
  | cons first rest ih =>
      rw [peak] at positive ⊢
      split at positive
      · next here =>
          rw [if_pos here]
          rcases Nat.lt_or_ge first.2.magnitude (peak rest) with lower | highest
          · obtain ⟨bar, member, behind⟩ := ih (Nat.zero_lt_of_lt lower)
            rw [max_eq_right lower.le]
            exact ⟨bar, List.mem_cons_of_mem _ member, behind⟩
          · exact ⟨first, List.mem_cons_self .., here, (max_eq_left highest).symm⟩
      · next notHere =>
          rw [if_neg notHere]
          obtain ⟨bar, member, behind⟩ := ih positive
          exact ⟨bar, List.mem_cons_of_mem _ member, behind⟩

lemma peak_le_infinity (bars : List Bar) : peak bars ≤ infinity := by
  rcases Nat.eq_zero_or_pos (peak bars) with zero | positive
  · exact zero ▸ Nat.zero_le _
  · obtain ⟨bar, -, isPositive, atPeak⟩ := exists_of_peak positive
    exact atPeak ▸ magnitude_le_infinity isPositive

end Peak

/-- The values of the bars of a chart. -/
def values (chart : Chart) : Set EReal :=
  {value | ∃ bar ∈ chart.bars, bar.2.value? = some value}

section Values

variable {chart : Chart}

lemma peak_pos (somePositive : ∃ value ∈ chart.values, 0 < value) : 0 < peak chart.bars := by
  obtain ⟨value, ⟨bar, member, found⟩, positive⟩ := somePositive
  have isPositive : bar.2.isPositive := isPositive_iff.mpr ⟨value, found, positive⟩
  exact (magnitude_pos isPositive).trans_le (le_peak member isPositive)

/-- **The peak is the greatest value** of a chart with a positive number. -/
lemma isGreatest_peak (somePositive : ∃ value ∈ chart.values, 0 < value) :
    IsGreatest chart.values (absolute (peak chart.bars)) := by
  have positivePeak := peak_pos somePositive
  obtain ⟨highest, member, isPositive, atPeak⟩ := exists_of_peak positivePeak
  refine ⟨⟨highest, member, atPeak ▸ value?_of_isPositive isPositive⟩, ?_⟩
  rintro value ⟨bar, member, found⟩
  rcases le_or_gt value 0 with notPositive | positive
  · exact notPositive.trans ((absolute_pos (peak_le_infinity _)).mpr positivePeak).le
  · have isPositive : bar.2.isPositive := isPositive_iff.mpr ⟨value, found, positive⟩
    rw [value?_of_isPositive isPositive] at found
    obtain rfl := Option.some.inj found
    have number := magnitude_le_infinity isPositive
    exact (absolute_le_absolute number (peak_le_infinity _)).mpr (le_peak member isPositive)

end Values

/-! ## Lengths of bars -/

section Lengths

variable {p width : Nat} {x y : Binary64}

lemma barLength_of_not_isPositive (notPositive : ¬x.isPositive) : barLength p width x = 0 := by
  rw [barLength, if_neg]
  simp [notPositive]

lemma barLength_of_isPositive (isPositive : x.isPositive) (positive : 0 < p) :
    barLength p width x = toCount (product (quotient x.magnitude p) (ofNat width)) := by
  rw [barLength, if_pos]
  simp [isPositive, positive]

/-- **Under an infinite peak** there are no bars: at the peak infinity is divided by infinity,
which is no number, and all else is divided by infinity to zero. -/
lemma barLength_infinity : barLength infinity width x = 0 := by
  by_cases isPositive : x.isPositive
  · have number := magnitude_le_infinity isPositive
    rw [barLength_of_isPositive isPositive (by decide)]
    rcases Nat.eq_or_lt_of_le number with infinite | finite
    · rw [infinite, quotient_infinity, product_quietNaN, toCount_quietNaN]
    · rw [quotient_infinity_of_finite finite, product_zero, toCount_zero]
  · exact barLength_of_not_isPositive isPositive

/-- **At a finite peak** the bar has the width asked for. -/
lemma barLength_peak (isPositive : x.isPositive) (finite : x.magnitude < infinity)
    (few : width ≤ 2 * binade) : barLength x.magnitude width x = width := by
  have positive := magnitude_pos isPositive
  rw [barLength_of_isPositive isPositive positive, quotient_self positive finite,
    product_unit (ofNat_lt_infinity few), toCount_ofNat few]

/-- **Under any peak** the bar of a greater number is no shorter. -/
lemma barLength_mono (isPositive : y.isPositive) (le : x.magnitude ≤ y.magnitude)
    (below : y.magnitude ≤ p) (number : p ≤ infinity) :
    barLength p width x ≤ barLength p width y := by
  rcases Nat.eq_or_lt_of_le number with rfl | finite
  · rw [barLength_infinity, barLength_infinity]
  · by_cases isPositive' : x.isPositive
    · have positive : 0 < p := (magnitude_pos isPositive).trans_le below
      have part : quotient y.magnitude p ≤ unit :=
        quotient_self positive finite ▸ quotient_mono positive finite below finite
      have small : quotient y.magnitude p < infinity := part.trans_lt (by decide)
      rw [barLength_of_isPositive isPositive positive, barLength_of_isPositive isPositive' positive]
      refine toCount_mono (product_mono ?_ small) (product_le_infinity small)
      exact quotient_mono positive finite le (below.trans_lt finite)
    · rw [barLength_of_not_isPositive isPositive']
      exact Nat.zero_le _

end Lengths

/-! ## Bars as they are drawn -/

/-- The number of `#` behind the separator on the line of a bar. -/
def drawn (chart : Chart) (width : Nat) (bar : Bar) : Nat :=
  (readBar chart.labelWidth (chart.barLine width bar).toList).length

lemma drawn_eq {chart : Chart} {bar : Bar} (width : Nat) (member : bar ∈ chart.bars) :
    chart.drawn width bar = barLength (peak chart.bars) width bar.2 := by
  rw [drawn, readBar_of_inColumns (inColumns_barLine width member)]

section Drawn

variable {chart : Chart} {width : Nat} {bar lower upper : Bar}

lemma drawn_of_not_isPositive (member : bar ∈ chart.bars) (notPositive : ¬bar.2.isPositive) :
    chart.drawn width bar = 0 := by
  rw [drawn_eq width member, barLength_of_not_isPositive notPositive]

/-- Of two bars of a chart, the one of the greater number is no shorter. -/
lemma drawn_mono (lowerMember : lower ∈ chart.bars) (upperMember : upper ∈ chart.bars)
    {v w : EReal} (lowerValue : lower.2.value? = some v) (upperValue : upper.2.value? = some w)
    (le : v ≤ w) : chart.drawn width lower ≤ chart.drawn width upper := by
  by_cases isPositive : lower.2.isPositive
  · have isPositive' : upper.2.isPositive := by
      obtain ⟨value, found, positive⟩ := isPositive_iff.mp isPositive
      obtain rfl := Option.some.inj (lowerValue.symm.trans found)
      exact isPositive_iff.mpr ⟨w, upperValue, positive.trans_le le⟩
    rw [value?_of_isPositive isPositive, Option.some.injEq] at lowerValue
    rw [value?_of_isPositive isPositive', Option.some.injEq] at upperValue
    rw [← lowerValue, ← upperValue, absolute_le_absolute (magnitude_le_infinity isPositive)
      (magnitude_le_infinity isPositive')] at le
    rw [drawn_eq width lowerMember, drawn_eq width upperMember]
    exact barLength_mono isPositive' le (le_peak upperMember isPositive') (peak_le_infinity _)
  · rw [drawn_of_not_isPositive lowerMember isPositive]
    exact Nat.zero_le _

/-- The bars of a finite greatest number are as wide as asked for. -/
lemma drawn_peak (member : bar ∈ chart.bars) (isPositive : bar.2.isPositive)
    (atPeak : bar.2.magnitude = peak chart.bars) (finite : peak chart.bars < infinity)
    (few : width ≤ 2 * binade) : chart.drawn width bar = width := by
  rw [drawn_eq width member, ← atPeak]
  exact barLength_peak isPositive (atPeak ▸ finite) few

/-- Under an infinite greatest number no bar is drawn. -/
lemma drawn_of_infinite (member : bar ∈ chart.bars) (infinite : peak chart.bars = infinity) :
    chart.drawn width bar = 0 := by
  rw [drawn_eq width member, infinite, barLength_infinity]

/-- **No bar is wider than asked for**: below a finite peak it is no longer than the bar there. -/
lemma drawn_le_width (member : bar ∈ chart.bars) (few : width ≤ 2 * binade) :
    chart.drawn width bar ≤ width := by
  by_cases isPositive : bar.2.isPositive
  · have below := le_peak member isPositive
    obtain ⟨highest, highestMember, highestPositive, atPeak⟩ :=
      exists_of_peak ((magnitude_pos isPositive).trans_le below)
    rcases Nat.eq_or_lt_of_le (peak_le_infinity chart.bars) with infinite | finite
    · rw [drawn_of_infinite member infinite]
      exact Nat.zero_le _
    · calc chart.drawn width bar = barLength (peak chart.bars) width bar.2 := drawn_eq width member
        _ ≤ barLength (peak chart.bars) width highest.2 :=
            barLength_mono highestPositive (atPeak ▸ below) atPeak.le finite.le
        _ = chart.drawn width highest := (drawn_eq width highestMember).symm
        _ = width := drawn_peak highestMember highestPositive atPeak finite few
  · rw [drawn_of_not_isPositive member isPositive]
    exact Nat.zero_le _

end Drawn

/-- **The scale of a chart** that has a positive number, at a width up to which all natural numbers
are exact.  It has a greatest value.  If that is finite, every bar of it is as wide as asked for; if
it is infinite, no bar is drawn at all.  In both cases no bar is wider than asked for, of two
numbers the greater one has no shorter bar, and numbers that are zero, negative or no numbers have
none. -/
theorem drawn_scaled (chart : Chart) (width : Nat) (few : width ≤ 2 ^ 53)
    (somePositive : ∃ value ∈ chart.values, 0 < value) :
    ∃ greatest, IsGreatest chart.values greatest ∧
      (greatest ≠ ⊤ → ∀ bar ∈ chart.bars, bar.2.value? = some greatest →
        chart.drawn width bar = width) ∧
      (greatest = ⊤ → ∀ bar ∈ chart.bars, chart.drawn width bar = 0) ∧
      (∀ bar ∈ chart.bars, chart.drawn width bar ≤ width) ∧
      (∀ lower ∈ chart.bars, ∀ upper ∈ chart.bars, ∀ v w, lower.2.value? = some v →
        upper.2.value? = some w → v ≤ w → chart.drawn width lower ≤ chart.drawn width upper) ∧
      ∀ bar ∈ chart.bars, (∀ value, bar.2.value? = some value → value ≤ 0) →
        chart.drawn width bar = 0 := by
  have greatest := isGreatest_peak somePositive
  have number := peak_le_infinity chart.bars
  refine ⟨absolute (peak chart.bars), greatest, ?_, ?_, ?_, ?_, ?_⟩
  · intro notTop bar member found
    have finite : peak chart.bars < infinity :=
      number.lt_of_ne fun infinite => notTop (infinite ▸ absolute_infinity)
    have isPositive : bar.2.isPositive :=
      isPositive_iff.mpr ⟨_, found, (absolute_pos number).mpr (peak_pos somePositive)⟩
    rw [value?_of_isPositive isPositive, Option.some.injEq, absolute_inj
      (magnitude_le_infinity isPositive) number] at found
    exact drawn_peak member isPositive found finite few
  · intro top bar member
    rw [← absolute_infinity, absolute_inj number le_rfl] at top
    exact drawn_of_infinite member top
  · intro bar member
    exact drawn_le_width member few
  · intro lower lowerMember upper upperMember v w lowerValue upperValue le
    exact drawn_mono lowerMember upperMember lowerValue upperValue le
  · intro bar member notPositive
    refine drawn_of_not_isPositive member fun isPositive => ?_
    obtain ⟨value, found, positive⟩ := isPositive_iff.mp isPositive
    exact (notPositive value found).not_gt positive

/-- Ten, five, a NaN, and minus ten. -/
def mixedSigns : Chart :=
  ⟨"x", "y", [("a", ofMagnitude false 0x4024000000000000),
    ("b", ofMagnitude false 0x4014000000000000), ("c", ofMagnitude false quietNaN),
    ("d", ofMagnitude true 0x4024000000000000)]⟩

/-- The bar of ten is as wide as asked for, none is wider, and the NaN has none. -/
theorem drawn_scaled_mixedSigns :
    4 ≤ 2 ^ 53 ∧ (∃ value ∈ mixedSigns.values, 0 < value) ∧
    mixedSigns.drawn 4 ("a", ofMagnitude false 0x4024000000000000) = 4 ∧
    (∀ bar ∈ mixedSigns.bars, mixedSigns.drawn 4 bar ≤ 4) ∧
    mixedSigns.drawn 4 ("c", ofMagnitude false quietNaN) = 0 := by
  have ten : (ofMagnitude false 0x4024000000000000).isPositive := by decide
  have found := value?_of_isPositive ten
  have somePositive : ∃ value ∈ mixedSigns.values, 0 < value := by
    obtain ⟨value, found, positive⟩ := isPositive_iff.mp ten
    exact ⟨value, ⟨_, List.mem_cons_self .., found⟩, positive⟩
  have atPeak : peak mixedSigns.bars = (ofMagnitude false 0x4024000000000000).magnitude := by
    decide
  obtain ⟨greatest, isGreatest, whole, -, within, -, bare⟩ :=
    drawn_scaled mixedSigns 4 (by decide) somePositive
  obtain rfl := isGreatest.unique (isGreatest_peak somePositive)
  rw [atPeak] at whole
  refine ⟨by decide, somePositive, ?_, within, ?_⟩
  · refine whole ?_ _ (List.mem_cons_self ..) found
    rw [← absolute_infinity, Ne, absolute_inj (magnitude_le_infinity ten) le_rfl]
    decide
  · have noValue : (ofMagnitude false quietNaN).value? = none := if_pos (by decide)
    refine bare _ (List.mem_of_mem_drop (i := 2) (List.mem_cons_self ..)) fun value found => ?_
    rw [noValue] at found
    cases found

/-- A chart of a number without bound. -/
def boundless : Chart :=
  ⟨"x", "y", [("a", ofMagnitude false infinity)]⟩

/-- Its only bar, that of the greatest number, is not drawn to the width asked for: there is nothing
between the separator and the number. -/
theorem drawn_boundless :
    (∃ value ∈ boundless.values, 0 < value) ∧ IsGreatest boundless.values ⊤ ∧
    (ofMagnitude false infinity).value? = some ⊤ ∧
    boundless.drawn 4 ("a", ofMagnitude false infinity) ≠ 4 ∧
    boundless.render 4 = "x | y\na |  inf\n" := by
  have isPositive : (ofMagnitude false infinity).isPositive := by decide
  have infinite : (ofMagnitude false infinity).magnitude = infinity := by decide
  have found : (ofMagnitude false infinity).value? = some ⊤ := by
    rw [value?_of_isPositive isPositive, infinite, absolute_infinity]
  have member : ⊤ ∈ boundless.values := ⟨_, List.mem_cons_self .., found⟩
  refine ⟨⟨⊤, member, EReal.zero_lt_top⟩, ⟨member, fun _ _ => le_top⟩, found, ?_, ?_⟩
  · rw [drawn_of_infinite (List.mem_cons_self ..) (by decide)]
    decide
  · decide +kernel

end NameSieve.Chart
