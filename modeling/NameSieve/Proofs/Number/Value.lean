import Mathlib.Data.EReal.Operations
import Mathlib.Tactic
import NameSieve.Proofs.Number.Rounding

/-!
# The values of numbers

A number that is no NaN has a value on the extended real line.  The value of a magnitude is the
exact one, infinity included, and the sign of the number is the sign of its value; the two zeros
have one value.

Positive numbers are those of positive value (`isPositive_iff`), and among them magnitudes run as
values do (`absolute_le_absolute`).
-/

namespace NameSieve.Binary64

/-- The value of a magnitude that belongs to no NaN. -/
noncomputable def absolute (magnitude : Nat) : EReal :=
  if magnitude = infinity then ⊤ else ((units magnitude / one : ℝ) : EReal)

/-- **The value of a number**; a NaN has none. -/
noncomputable def value? (x : Binary64) : Option EReal :=
  if x.isNaN then none
  else some (if x.negative then -absolute x.magnitude else absolute x.magnitude)

section Absolute

variable {a b : Nat}

lemma absolute_infinity : absolute infinity = ⊤ :=
  if_pos rfl

lemma absolute_of_finite (finite : a < infinity) :
    absolute a = ((units a / one : ℝ) : EReal) :=
  if_neg finite.ne

lemma absolute_zero : absolute 0 = 0 := by
  rw [absolute_of_finite (by decide), units_zero, Nat.cast_zero, zero_div, EReal.coe_zero]

/-- **A greater magnitude has a greater value**, up to infinity. -/
lemma absolute_lt_absolute (less : a < b) (number : b ≤ infinity) : absolute a < absolute b := by
  have finite : a < infinity := less.trans_le number
  rcases Nat.eq_or_lt_of_le number with rfl | finite'
  · rw [absolute_infinity, absolute_of_finite finite]
    exact EReal.coe_lt_top _
  · rw [absolute_of_finite finite, absolute_of_finite finite', EReal.coe_lt_coe_iff]
    have scale : (0 : ℝ) < one := Nat.cast_pos.mpr one_pos
    exact div_lt_div_of_pos_right (Nat.cast_lt.mpr (units_strictMono less)) scale

lemma absolute_le_absolute (ha : a ≤ infinity) (hb : b ≤ infinity) :
    absolute a ≤ absolute b ↔ a ≤ b := by
  constructor
  · intro le
    by_contra greater
    exact le.not_gt (absolute_lt_absolute (not_le.mp greater) ha)
  · intro le
    rcases Nat.eq_or_lt_of_le le with rfl | less
    · exact le_rfl
    · exact (absolute_lt_absolute less hb).le

lemma absolute_inj (ha : a ≤ infinity) (hb : b ≤ infinity) : absolute a = absolute b ↔ a = b := by
  rw [le_antisymm_iff, absolute_le_absolute ha hb, absolute_le_absolute hb ha, ← le_antisymm_iff]

lemma absolute_pos (number : a ≤ infinity) : 0 < absolute a ↔ 0 < a := by
  rw [← not_le, ← absolute_zero, absolute_le_absolute number (Nat.zero_le _), not_le]

end Absolute

section Numbers

variable {x : Binary64}

lemma isNaN_eq_false : ¬x.isNaN ↔ x.magnitude ≤ infinity := by
  simp [isNaN]

lemma isPositive_eq : x.isPositive ↔ ¬x.negative ∧ ¬x.isNaN ∧ 0 < x.magnitude := by
  simp [isPositive, and_assoc]

lemma magnitude_pos (isPositive : x.isPositive) : 0 < x.magnitude :=
  (isPositive_eq.mp isPositive).2.2

lemma magnitude_le_infinity (isPositive : x.isPositive) : x.magnitude ≤ infinity :=
  isNaN_eq_false.mp (isPositive_eq.mp isPositive).2.1

lemma value?_of_isPositive (isPositive : x.isPositive) :
    x.value? = some (absolute x.magnitude) := by
  obtain ⟨unsigned, number, -⟩ := isPositive_eq.mp isPositive
  rw [value?, if_neg number, if_neg unsigned]

/-- **Positive numbers** are those of positive value. -/
lemma isPositive_iff : x.isPositive ↔ ∃ value, x.value? = some value ∧ 0 < value := by
  constructor
  · intro isPositive
    exact ⟨absolute x.magnitude, value?_of_isPositive isPositive,
      (absolute_pos (magnitude_le_infinity isPositive)).mpr (magnitude_pos isPositive)⟩
  · rintro ⟨value, found, positive⟩
    rw [value?] at found
    split at found
    · cases found
    · next number =>
        have small := isNaN_eq_false.mp number
        obtain rfl := Option.some.inj found
        split at positive
        · rw [EReal.neg_pos] at positive
          have nonneg : 0 ≤ absolute x.magnitude := by
            rw [← absolute_zero, absolute_le_absolute (Nat.zero_le _) small]
            exact Nat.zero_le _
          exact absurd positive nonneg.not_gt
        · next unsigned =>
            exact isPositive_eq.mpr ⟨unsigned, number, (absolute_pos small).mp positive⟩

end Numbers

end NameSieve.Binary64
