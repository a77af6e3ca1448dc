import NameSieve.Number.Binary64

/-!
# Rounding to a magnitude

`nearest` is the magnitude nearest to a quotient of natural numbers, which is counted in units of
the least positive number; of two that are equally near it is the even one.  Quotients and
products of positive numbers are computed exactly and rounded once.
-/

namespace NameSieve.Binary64

/-- The natural number nearest to a quotient; a half goes to the even neighbour. -/
def roundEven (num den : Nat) : Nat :=
  let quotient := num / den
  let rest := num % den
  if 2 * rest < den then quotient
  else if den < 2 * rest then quotient + 1
  else quotient + quotient % 2

/-- The magnitude nearest to `num / den` units, or that of infinity if there is none so great.
Above the first two binades the quotient is rounded to fifty-three bits. -/
def nearest (num den : Nat) : Nat :=
  let shift := Nat.log2 (num / den) - 52
  min infinity (shift * binade + roundEven num (den <<< shift))

def ofNat (n : Nat) : Nat :=
  nearest (n * one) 1

/-- The quotient of two positive magnitudes. -/
def quotient (a b : Nat) : Nat :=
  if a = infinity then (if b = infinity then quietNaN else infinity)
  else if b = infinity then 0
  else nearest (units a * one) (units b)

/-- The product of a magnitude and a finite one. -/
def product (a b : Nat) : Nat :=
  if infinity < a then quietNaN
  else if a = infinity then (if b = 0 then quietNaN else infinity)
  else nearest (units a * units b) one

def maxCount : Nat :=
  UInt64.size - 1

/-- The natural number nearest to a magnitude, of which a half goes up; it is cut to the greatest
count, and a NaN counts as nothing. -/
def toCount (magnitude : Nat) : Nat :=
  if infinity < magnitude then 0
  else if magnitude = infinity then maxCount
  else min maxCount ((2 * units magnitude + one) / (2 * one))

end NameSieve.Binary64
