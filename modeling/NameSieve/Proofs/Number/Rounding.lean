import Mathlib.Tactic
import NameSieve.Number.Rounding

/-!
# Exact and ordered rounding

Two things are asked of rounded arithmetic: that it is exact where the exact result is a number,
and that it keeps order.  Both come from how magnitudes are laid out.

* **Layout.**  Above the first binade a magnitude is a shift and a significand of fifty-three bits
  (`exists_normal`), and its value is the one shifted by the other (`units_normal`).  The next
  magnitude has the next significand, and `units` grows (`units_strictMono`).
* **Rounding.**  `roundEven` keeps order and is exact at multiples, and so is `nearest`
  (`nearest_mono`, `nearest_units`).  Between two shifts order is kept since the significand of the
  smaller quotient cannot grow out of its binade (`significand_le`, `le_significand`).
* **Operations.**  A number divided by itself is one (`quotient_self`), multiplied by one it is
  itself (`product_unit`), and a natural number up to `2 * binade`, taken for a number and counted,
  is what it was (`toCount_ofNat`).  Infinity is apart: divided by itself it is no number
  (`quotient_infinity`).
-/

namespace NameSieve.Binary64

lemma binade_eq : binade = 2 ^ 52 := rfl

lemma binade_pos : 0 < binade := by decide

lemma shiftLeft_pos {n : Nat} (positive : 0 < n) (shift : Nat) : 0 < n <<< shift := by
  rw [Nat.shiftLeft_eq]
  exact Nat.mul_pos positive (Nat.two_pow_pos shift)

lemma one_eq : one = binade <<< 1022 :=
  Nat.shiftLeft_add 1 52 1022

lemma one_pos : 0 < one :=
  one_eq ▸ shiftLeft_pos binade_pos 1022

/-- The magnitude of the number one. -/
def unit : Nat :=
  1023 * binade

/-! ## The layout of magnitudes -/

section Layout

variable {magnitude shift significand : Nat}

/-- In the first binade, values are magnitudes. -/
lemma units_of_lt (small : magnitude < binade) : units magnitude = magnitude := by
  simp only [units, Nat.div_eq_of_lt small, Nat.mod_eq_of_lt small, if_pos]

/-- **Above it**, the value is a significand of fifty-three bits, shifted.  The first significand
of the next binade may be taken for the last one of this. -/
lemma units_normal (low : binade ≤ significand) (high : significand ≤ 2 * binade) :
    units (shift * binade + significand) = significand <<< shift := by
  rcases Nat.eq_or_lt_of_le high with rfl | inside
  · have laidOut : shift * binade + 2 * binade = binade * (shift + 2) := by ring
    simp only [units, laidOut, Nat.mul_div_cancel_left _ binade_pos, Nat.mul_mod_right,
      Nat.shiftLeft_eq]
    rw [if_neg (Nat.succ_ne_zero _), Nat.add_sub_cancel (n := shift + 1) (m := 1)]
    ring
  · have laidOut : shift * binade + significand
        = (significand - binade) + binade * (shift + 1) := by
      have product : binade * (shift + 1) = shift * binade + binade := by ring
      omega
    have fraction : significand - binade < binade := by omega
    simp only [units, laidOut, Nat.add_mul_div_left _ _ binade_pos, Nat.add_mul_mod_self_left,
      Nat.div_eq_of_lt fraction, Nat.mod_eq_of_lt fraction]
    rw [if_neg (by omega), Nat.add_sub_cancel' low]
    congr 1
    omega

lemma exists_normal (normal : binade ≤ magnitude) : ∃ shift significand,
    magnitude = shift * binade + significand ∧ binade ≤ significand ∧ significand < 2 * binade := by
  have exponent : 1 ≤ magnitude / binade := (Nat.one_le_div_iff binade_pos).mpr normal
  have fraction := Nat.mod_lt magnitude binade_pos
  have whole := Nat.div_add_mod magnitude binade
  refine ⟨magnitude / binade - 1, binade + magnitude % binade, ?_, by omega, by omega⟩
  have product : (magnitude / binade - 1) * binade + binade = binade * (magnitude / binade) := by
    rw [← Nat.succ_mul, Nat.succ_eq_add_one, Nat.sub_add_cancel exponent, Nat.mul_comm]
  omega

/-- **A greater magnitude is a greater value.** -/
lemma units_strictMono : StrictMono units := by
  refine strictMono_nat_of_lt_succ fun magnitude => ?_
  rcases Nat.lt_or_ge magnitude binade with small | normal
  · rcases Nat.lt_or_ge (magnitude + 1) binade with small' | _
    · rw [units_of_lt small, units_of_lt small']
      exact Nat.lt_succ_self magnitude
    · have next : magnitude + 1 = 0 * binade + binade := by omega
      rw [units_of_lt small, next, units_normal le_rfl (by omega)]
      exact small
  · obtain ⟨shift, significand, rfl, low, high⟩ := exists_normal normal
    rw [Nat.add_assoc, units_normal low high.le, units_normal (by omega) (by omega),
      Nat.shiftLeft_eq, Nat.shiftLeft_eq]
    exact Nat.mul_lt_mul_of_pos_right (Nat.lt_succ_self significand) (Nat.two_pow_pos shift)

lemma units_zero : units 0 = 0 :=
  units_of_lt binade_pos

lemma units_pos (positive : 0 < magnitude) : 0 < units magnitude :=
  units_zero ▸ units_strictMono positive

lemma units_unit : units unit = one := by
  have laidOut : unit = 1022 * binade + binade := Nat.succ_mul 1022 binade
  rw [laidOut, units_normal le_rfl (Nat.le_mul_of_pos_left binade two_pos), one_eq]

end Layout

/-! ## Rounding -/

section Rounding

variable {num num' den : Nat}

/-- A multiple is left as it is. -/
lemma roundEven_mul (count : Nat) (positive : 0 < den) : roundEven (count * den) den = count := by
  simp [roundEven, Nat.mul_div_cancel count positive, positive]

/-- **Rounding keeps order.**  A quotient with a greater whole part is rounded to no less than that
part; with the same whole part the rests decide. -/
lemma roundEven_mono (le : num ≤ num') : roundEven num den ≤ roundEven num' den := by
  have wholes : num / den ≤ num' / den := Nat.div_le_div_right le
  have num_eq := Nat.div_add_mod num den
  have num'_eq := Nat.div_add_mod num' den
  simp only [roundEven]
  rcases Nat.eq_or_lt_of_le wholes with same | less
  · rw [same] at num_eq ⊢
    split_ifs <;> omega
  · split_ifs <;> omega

/-- By how many bits a quotient is longer than a significand. -/
def excess (num den : Nat) : Nat :=
  Nat.log2 (num / den) - 52

lemma nearest_eq (num den : Nat) : nearest num den
    = min infinity (excess num den * binade + roundEven num (den <<< excess num den)) :=
  rfl

lemma excess_mono (den : Nat) (le : num ≤ num') : excess num den ≤ excess num' den := by
  have wholes : num / den ≤ num' / den := Nat.div_le_div_right le
  rw [excess, excess, Nat.log2_eq_log_two, Nat.log2_eq_log_two]
  exact Nat.sub_le_sub_right (Nat.log_mono_right wholes) 52

/-- The excess of a value that is laid out as a shifted significand is the shift. -/
lemma excess_normal {shift significand : Nat} (positive : 0 < den) (low : binade ≤ significand)
    (high : significand < 2 * binade) : excess ((significand <<< shift) * den) den = shift := by
  have bits : Nat.log2 (significand <<< shift) = 52 + shift := by
    rw [Nat.log2_eq_iff (shiftLeft_pos (binade_pos.trans_le low) shift).ne', Nat.shiftLeft_eq]
    constructor
    · rw [Nat.pow_add]
      exact Nat.mul_le_mul_right _ low
    · have power : 2 ^ (52 + shift + 1) = 2 * binade * 2 ^ shift := by
        rw [binade_eq, Nat.pow_succ, Nat.pow_add]
        ring
      rw [power]
      exact Nat.mul_lt_mul_of_pos_right high (Nat.two_pow_pos shift)
  rw [excess, Nat.mul_div_cancel _ positive, bits, Nat.add_sub_cancel_left]

/-- A significand has at most fifty-three bits, or is the first number of one bit more. -/
lemma significand_le (num : Nat) (positive : 0 < den) :
    roundEven num (den <<< excess num den) ≤ 2 * binade := by
  have bits : num / den < 2 ^ (53 + excess num den) := by
    refine lt_of_lt_of_le Nat.lt_log2_self (Nat.pow_le_pow_right two_pos ?_)
    rw [excess]
    omega
  have bound : num ≤ 2 * binade * (den <<< excess num den) := by
    calc num ≤ 2 ^ (53 + excess num den) * den :=
          ((Nat.div_lt_iff_lt_mul positive).mp bits).le
      _ = 2 * binade * (den <<< excess num den) := by
          rw [Nat.shiftLeft_eq, Nat.pow_add, binade_eq]
          ring
  exact (roundEven_mono bound).trans (roundEven_mul _ (shiftLeft_pos positive _)).le

/-- Where bits are cut off, all bits of the significand are in use. -/
lemma le_significand (positive : 0 < den) (long : 0 < excess num den) :
    binade ≤ roundEven num (den <<< excess num den) := by
  have bits : Nat.log2 (num / den) = 52 + excess num den := by
    rw [excess] at long ⊢
    omega
  have nonzero : num / den ≠ 0 := by
    intro zero
    rw [excess, zero, Nat.log2_zero] at long
    omega
  have bound : binade * (den <<< excess num den) ≤ num := by
    calc binade * (den <<< excess num den) = 2 ^ (52 + excess num den) * den := by
          rw [Nat.shiftLeft_eq, Nat.pow_add, binade_eq]
          ring
      _ ≤ num := (Nat.le_div_iff_mul_le positive).mp (bits ▸ Nat.log2_self_le nonzero)
  exact (roundEven_mul _ (shiftLeft_pos positive _)).ge.trans (roundEven_mono bound)

/-- **Rounding to a magnitude keeps order.** -/
lemma nearest_mono (positive : 0 < den) (le : num ≤ num') : nearest num den ≤ nearest num' den := by
  rw [nearest_eq, nearest_eq]
  refine min_le_min_left infinity ?_
  rcases Nat.eq_or_lt_of_le (excess_mono den le) with same | more
  · rw [same]
    exact Nat.add_le_add_left (roundEven_mono le) _
  · have upper := significand_le num positive
    have lower := le_significand positive (Nat.zero_lt_of_lt more)
    have shifts : (excess num den + 1) * binade ≤ excess num' den * binade :=
      Nat.mul_le_mul_right binade more
    rw [Nat.succ_mul] at shifts
    omega

/-- **A value that is a magnitude's own is rounded to it.** -/
lemma nearest_units {magnitude : Nat} (positive : 0 < den) (small : magnitude ≤ infinity) :
    nearest (units magnitude * den) den = magnitude := by
  rcases Nat.lt_or_ge magnitude binade with subnormal | normal
  · have short : excess (units magnitude * den) den = 0 := by
      have le : units magnitude * den ≤ (binade <<< 0) * den := by
        rw [units_of_lt subnormal, Nat.shiftLeft_zero]
        exact Nat.mul_le_mul_right den subnormal.le
      have bound := excess_mono den le
      rw [excess_normal positive le_rfl (by have := binade_pos; omega)] at bound
      exact Nat.le_zero.mp bound
    rw [nearest_eq, short, Nat.shiftLeft_zero, roundEven_mul _ positive, units_of_lt subnormal,
      Nat.zero_mul, Nat.zero_add, min_eq_right small]
  · obtain ⟨shift, significand, rfl, low, high⟩ := exists_normal normal
    have value : (significand <<< shift) * den = significand * (den <<< shift) := by
      rw [Nat.shiftLeft_eq, Nat.shiftLeft_eq]
      ring
    rw [nearest_eq, units_normal low high.le, excess_normal positive low high, value,
      roundEven_mul _ (shiftLeft_pos positive shift), min_eq_right small]

end Rounding

/-! ## Operations -/

section Operations

variable {a b c n : Nat}

lemma quotient_of_finite (ha : a < infinity) (hc : c < infinity) :
    quotient a c = nearest (units a * one) (units c) := by
  rw [quotient, if_neg ha.ne, if_neg hc.ne]

lemma product_of_finite (ha : a < infinity) : product a c = nearest (units a * units c) one := by
  rw [product, if_neg ha.le.not_gt, if_neg ha.ne]

lemma toCount_of_finite (ha : a < infinity) :
    toCount a = min maxCount ((2 * units a + one) / (2 * one)) := by
  rw [toCount, if_neg ha.le.not_gt, if_neg ha.ne]

/-- **The value of a natural number** is counted as that number, if it is no greater than counts
can be. -/
lemma toCount_of_units_eq (ha : a < infinity) (value : units a = n * one) (small : n ≤ maxCount) :
    toCount a = n := by
  have doubled : 2 * (n * one) + one = one + 2 * one * n := by ring
  have half : one / (2 * one) = 0 := Nat.div_eq_of_lt (by have := one_pos; omega)
  rw [toCount_of_finite ha, value, doubled, Nat.add_mul_div_left _ _ (Nat.mul_pos two_pos one_pos),
    half, Nat.zero_add, min_eq_right small]

/-- **A finite number divided by itself is one.** -/
lemma quotient_self (positive : 0 < a) (finite : a < infinity) : quotient a a = unit := by
  rw [quotient_of_finite finite finite, Nat.mul_comm, ← units_unit]
  exact nearest_units (units_pos positive) (by decide)

/-- **Division keeps order** among finite numbers. -/
lemma quotient_mono (positive : 0 < c) (finite : c < infinity) (le : a ≤ b) (hb : b < infinity) :
    quotient a c ≤ quotient b c := by
  rw [quotient_of_finite hb finite, quotient_of_finite (le.trans_lt hb) finite]
  exact nearest_mono (units_pos positive)
    (Nat.mul_le_mul_right one (units_strictMono.monotone le))

/-- **One times a number is the number.** -/
lemma product_unit (finite : a < infinity) : product unit a = a := by
  rw [product_of_finite (by decide), units_unit, Nat.mul_comm]
  exact nearest_units one_pos finite.le

/-- **Multiplication keeps order** among finite numbers. -/
lemma product_mono (le : a ≤ b) (hb : b < infinity) : product a c ≤ product b c := by
  rw [product_of_finite hb, product_of_finite (le.trans_lt hb)]
  exact nearest_mono one_pos (Nat.mul_le_mul_right (units c) (units_strictMono.monotone le))

lemma product_le_infinity (ha : a < infinity) : product a c ≤ infinity := by
  rw [product_of_finite ha]
  exact min_le_left _ _

/-- **Counting keeps order** among numbers that are no NaN. -/
lemma toCount_mono (le : a ≤ b) (number : b ≤ infinity) : toCount a ≤ toCount b := by
  rcases Nat.eq_or_lt_of_le number with rfl | finite
  · rw [toCount, toCount, if_neg le.not_gt, if_neg (Nat.lt_irrefl _), if_pos rfl]
    split_ifs
    · exact le_rfl
    · exact min_le_left _ _
  · rw [toCount_of_finite finite, toCount_of_finite (le.trans_lt finite)]
    have values : units a ≤ units b := units_strictMono.monotone le
    refine min_le_min_left maxCount (Nat.div_le_div_right ?_)
    omega

/-- A natural number no longer than a significand can be shifted to one. -/
lemma exists_shift (positive : 0 < n) (few : n ≤ 2 * binade) :
    ∃ shift ≤ 52, binade ≤ n <<< shift ∧ n <<< shift ≤ 2 * binade := by
  rcases Nat.lt_or_ge n binade with small | large
  · have bits : Nat.log2 n < 52 := (Nat.log2_lt positive.ne').mpr small
    have low := Nat.log2_self_le positive.ne'
    have high := (Nat.lt_log2_self (n := n)).le
    refine ⟨52 - Nat.log2 n, Nat.sub_le _ _, ?_, ?_⟩
    · calc binade = 2 ^ Nat.log2 n * 2 ^ (52 - Nat.log2 n) := by
            rw [← Nat.pow_add, Nat.add_sub_cancel' bits.le, binade_eq]
        _ ≤ n <<< (52 - Nat.log2 n) := by
            rw [Nat.shiftLeft_eq]
            exact Nat.mul_le_mul_right _ low
    · calc n <<< (52 - Nat.log2 n) ≤ 2 ^ (Nat.log2 n + 1) * 2 ^ (52 - Nat.log2 n) := by
            rw [Nat.shiftLeft_eq]
            exact Nat.mul_le_mul_right _ high
        _ = 2 * binade := by
            rw [← Nat.pow_add, binade_eq, ← Nat.pow_succ']
            congr 1
            omega
  · exact ⟨0, Nat.zero_le _, by rwa [Nat.shiftLeft_zero], by rwa [Nat.shiftLeft_zero]⟩

/-- **A natural number no longer than a significand** is the value of a magnitude. -/
lemma exists_units_eq (few : n ≤ 2 * binade) :
    ∃ magnitude < infinity, units magnitude = n * one := by
  rcases Nat.eq_zero_or_pos n with rfl | positive
  · exact ⟨0, by decide, by rw [units_zero, Nat.zero_mul]⟩
  · obtain ⟨shift, short, low, high⟩ := exists_shift positive few
    have byOne : ∀ bits, n * (1 <<< bits) = n <<< bits := by
      intro bits
      rw [Nat.one_shiftLeft, Nat.shiftLeft_eq]
    refine ⟨(1074 - shift) * binade + n <<< shift, ?_, ?_⟩
    · have shifts : (1074 - shift) * binade ≤ 1074 * binade :=
        Nat.mul_le_mul_right binade (Nat.sub_le _ _)
      have room : 1074 * binade + 2 * binade < infinity := by decide
      omega
    · rw [units_normal low high, ← Nat.shiftLeft_add, Nat.add_sub_cancel' (by omega)]
      exact (byOne 1074).symm

/-- It is rounded to that magnitude. -/
lemma exists_ofNat_eq (few : n ≤ 2 * binade) :
    ∃ magnitude < infinity, units magnitude = n * one ∧ ofNat n = magnitude := by
  obtain ⟨magnitude, finite, value⟩ := exists_units_eq few
  refine ⟨magnitude, finite, value, ?_⟩
  rw [ofNat, ← value, ← Nat.mul_one (units magnitude)]
  exact nearest_units Nat.one_pos finite.le

lemma ofNat_lt_infinity (few : n ≤ 2 * binade) : ofNat n < infinity := by
  obtain ⟨magnitude, finite, -, rfl⟩ := exists_ofNat_eq few
  exact finite

/-- **It is the same number when counted again.** -/
lemma toCount_ofNat (few : n ≤ 2 * binade) : toCount (ofNat n) = n := by
  obtain ⟨magnitude, finite, value, rfl⟩ := exists_ofNat_eq few
  have room : 2 * binade ≤ maxCount := by decide
  exact toCount_of_units_eq finite value (few.trans room)

/-! Infinity divided by itself is a NaN, which is not mended by a product and counts as nothing. -/

lemma quotient_infinity : quotient infinity infinity = quietNaN := by decide

lemma product_quietNaN : product quietNaN c = quietNaN :=
  if_pos (by decide)

lemma toCount_quietNaN : toCount quietNaN = 0 :=
  if_pos (by decide)

/-! Any other number divided by infinity is zero, and so is every part of it. -/

lemma quotient_infinity_of_finite (ha : a < infinity) : quotient a infinity = 0 := by
  rw [quotient, if_neg ha.ne, if_pos rfl]

lemma product_zero : product 0 c = 0 := by
  rw [product_of_finite (by decide), units_zero, Nat.zero_mul, ← Nat.zero_mul one, ← units_zero]
  exact nearest_units one_pos (Nat.zero_le _)

lemma toCount_zero : toCount 0 = 0 :=
  toCount_of_units_eq (by decide) (by rw [units_zero, Nat.zero_mul]) (Nat.zero_le _)

end Operations

end NameSieve.Binary64
