import NameSieve.Number.Shortest

/-!
# Numbers as texts

Both layouts write the fewest digits that read back.  The *plain* layout writes them out in full,
with zeros where they are needed and no point in whole numbers.  The *data* layout marks whole
numbers by `.0` and turns to an exponent for numbers that are very great or very small.
-/

namespace NameSieve.Binary64

/-- Digits with the place of the point: `0.` and the digits, times ten to that power. -/
structure Digits where
  /-- The digits, of which the first and the last are not zero. -/
  digits : List Char
  /-- The place of the point, counted from the first digit. -/
  point : Int
deriving DecidableEq

/-- The list without the zeros at its end. -/
def dropLastZeros (digits : List Char) : List Char :=
  (digits.reverse.dropWhile (· = '0')).reverse

/-- The digits of a decimal number. -/
def Grid.digits (grid : Grid) : Digits :=
  let all := Nat.toDigits 10 grid.count
  ⟨dropLastZeros all, grid.exponent + all.length⟩

def zeros (count : Nat) : List Char :=
  List.replicate count '0'

namespace Digits

/-- A number below one in full. -/
def fraction (d : Digits) : List Char :=
  '0' :: '.' :: zeros (-d.point).toNat ++ d.digits

/-- A number with digits on both sides of the point. -/
def mixed (d : Digits) : List Char :=
  d.digits.take d.point.toNat ++ '.' :: d.digits.drop d.point.toNat

def whole (d : Digits) : List Char :=
  d.digits ++ zeros (d.point.toNat - d.digits.length)

/-- A number with an exponent, the point behind its first digit. -/
def scientific (d : Digits) : List Char :=
  let exponent := d.point - 1
  let sign := if exponent < 0 then '-' else '+'
  let scale := 'e' :: sign :: Nat.toDigits 10 exponent.natAbs
  match d.digits with
  | first :: second :: rest => first :: '.' :: second :: rest ++ scale
  | digits => digits ++ scale

def plain (d : Digits) : List Char :=
  if d.point ≤ 0 then d.fraction
  else if d.point < d.digits.length then d.mixed
  else d.whole

/-- The data layout: an exponent is written below the fifth place behind the point and above the
sixteenth in front of it. -/
def data (d : Digits) : List Char :=
  if -5 < d.point ∧ d.point ≤ 0 then d.fraction
  else if 0 < d.point ∧ d.point ≤ 16 then
    if d.point < d.digits.length then d.mixed else d.whole ++ ['.', '0']
  else d.scientific

end Digits

/-- A text with the sign of a number in front. -/
def signed (x : Binary64) (text : List Char) : String :=
  String.ofList (if x.negative then '-' :: text else text)

/-- A number in the plain layout.  No NaN shows its sign. -/
def plainText (x : Binary64) : String :=
  if x.isNaN then "NaN"
  else if x.magnitude = infinity then x.signed "inf".toList
  else if x.magnitude = 0 then x.signed ['0']
  else x.signed (shortest .up x.magnitude).digits.plain

/-- A number in the data layout, which has no words for the infinities and the NaNs. -/
def dataText (x : Binary64) : String :=
  if infinity ≤ x.magnitude then "null"
  else if x.magnitude = 0 then x.signed "0.0".toList
  else x.signed (shortest .even x.magnitude).digits.data

end NameSieve.Binary64
