import NameSieve.Number.Binary64

/-!
# The fewest digits that read back

Between a positive finite number and its neighbours lies the interval of the reals that are
rounded to it.  `shortest` is the decimal number with the fewest digits in that interval, and of
those the one nearest to the number.  Only two decimal numbers of each length need a look: those
next to the number.
-/

namespace NameSieve.Binary64

/-- Where a number goes that lies halfway between two decimal numbers. -/
inductive Tie where
  | up
  /-- To the one with an even last digit. -/
  | even
deriving DecidableEq

/-- A decimal number as `count` steps of a power of ten. -/
structure Grid where
  count : Nat
  /-- The power of ten that is the step. -/
  exponent : Int
deriving DecidableEq

/-- Twice the distance of the interval's ends from zero, in units: the sums of the magnitude with
the one before and with the one behind. -/
def interval (magnitude : Nat) : Nat × Nat :=
  (units (magnitude - 1) + units magnitude, units magnitude + units (magnitude + 1))

/-- Is the decimal number rounded to the magnitude?  The ends of the interval are rounded to even
magnitudes. -/
def readsBack (magnitude : Nat) (grid : Grid) : Bool :=
  let doubled := 2 * grid.count * tenTo grid.exponent * one
  let scale := tenTo (-grid.exponent)
  let (low, high) := interval magnitude
  if magnitude % 2 = 0 then
    decide (low * scale ≤ doubled) && decide (doubled ≤ high * scale)
  else decide (low * scale < doubled) && decide (doubled < high * scale)

/-- The whole steps of a power of ten in a magnitude, and what is left, as a part of the step. -/
def steps (magnitude : Nat) (exponent : Int) : Nat × Nat × Nat :=
  let num := units magnitude * tenTo (-exponent)
  let den := one * tenTo exponent
  (num / den, num % den, den)

/-- Of two neighbours on a grid the nearer one. -/
def nearerStep (tie : Tie) (count rest den : Nat) : Nat :=
  if 2 * rest < den then count
  else if den < 2 * rest then count + 1
  else
    match tie with
    | .up => count + 1
    | .even => count + count % 2

/-- The best decimal number on the grid of a power of ten, if one on it reads back. -/
def onGrid? (tie : Tie) (magnitude : Nat) (exponent : Int) : Option Grid :=
  let (count, rest, den) := steps magnitude exponent
  match readsBack magnitude ⟨count, exponent⟩, readsBack magnitude ⟨count + 1, exponent⟩ with
  | true, true => some ⟨nearerStep tie count rest den, exponent⟩
  | true, false => some ⟨count, exponent⟩
  | false, true => some ⟨count + 1, exponent⟩
  | false, false => none

/-- The number of digits in front of the point, or minus the number of zeros behind it: the
magnitude is less than this power of ten, and not less than the one before. -/
def pointPlace (magnitude : Nat) : Int :=
  let guess : Int := ((Nat.log2 (units magnitude) : Int) - 1074) * 30103 / 100000 + 1
  if (steps magnitude (guess - 1)).1 = 0 then guess - 1
  else if (steps magnitude guess).1 = 0 then guess
  else guess + 1

/-- The best decimal number on a grid or on one of so many finer ones. -/
def searchGrids (tie : Tie) (magnitude : Nat) : Nat → Int → Grid
  | 0, exponent => ⟨(steps magnitude exponent).1, exponent⟩
  | finer + 1, exponent =>
      match onGrid? tie magnitude exponent with
      | some grid => grid
      | none => searchGrids tie magnitude finer (exponent - 1)

/-- The decimal number with the fewest digits that is rounded to a positive finite magnitude;
seventeen digits are always enough. -/
def shortest (tie : Tie) (magnitude : Nat) : Grid :=
  searchGrids tie magnitude 17 (pointPlace magnitude - 1)

end NameSieve.Binary64
