/-!
# Binary numbers of 64 bits

A number is a sign and a *magnitude*, the number formed by the other 63 bits.  Magnitudes of
numbers that are no NaN are ordered as the numbers are, and the next number has the next
magnitude.

* `units` is the exact value of a finite magnitude, counted in units of the least positive number.
* `rank` places every number, the NaNs and both zeros included, in one total order.
-/

namespace NameSieve

/-- A binary number of 64 bits. -/
structure Binary64 where
  negative : Bool
  /-- The other bits: eleven of exponent, then fifty-two of fraction. -/
  magnitude : Nat
  magnitude_lt : magnitude < 1 <<< 63
deriving DecidableEq

namespace Binary64

/-! ## Magnitudes -/

/-- The magnitudes of one exponent. -/
def binade : Nat :=
  1 <<< 52

/-- The magnitude of the infinities; the NaNs have greater ones. -/
def infinity : Nat :=
  2047 * binade

/-- The magnitude of a NaN that an operation gives. -/
def quietNaN : Nat :=
  infinity + (1 <<< 51)

def one : Nat :=
  1 <<< 1074

/-- The value of a finite magnitude in units of the least positive number: its fraction, with the
leading bit that the exponent implies, scaled by the exponent. -/
def units (magnitude : Nat) : Nat :=
  let exponent := magnitude / binade
  let fraction := magnitude % binade
  if exponent = 0 then fraction else (binade + fraction) <<< (exponent - 1)

/-- Ten to an exponent, or one if the exponent is negative. -/
def tenTo (exponent : Int) : Nat :=
  Nat.pow 10 exponent.toNat

/-! ## Numbers -/

/-- The number of a sign and a magnitude, which is cut to the greatest if it has too many bits. -/
def ofMagnitude (negative : Bool) (magnitude : Nat) : Binary64 :=
  ⟨negative, min magnitude ((1 <<< 63) - 1), by omega⟩

def isNaN (x : Binary64) : Bool :=
  decide (infinity < x.magnitude)

def isPositive (x : Binary64) : Bool :=
  !x.negative && !x.isNaN && decide (0 < x.magnitude)

/-- The place of a number in the total order: NaNs outside the infinities on the side of their
sign, and the negative zero just before the positive one. -/
def rank (x : Binary64) : Int :=
  if x.negative then -(x.magnitude : Int) - 1 else x.magnitude

end Binary64

end NameSieve
