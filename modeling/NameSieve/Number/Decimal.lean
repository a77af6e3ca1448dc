import NameSieve.Number.Rounding
import NameSieve.Text.Basic

/-!
# Reading decimal numbers

A number is written with a sign, digits with a point among them, and an exponent, all but one
digit optional; or by one of the words `inf`, `infinity` and `nan` in any case.  `ofText?` reads it
as the nearest binary number.
-/

namespace NameSieve.Binary64

/-- A decimal number without its sign: `digits * 10 ^ exponent`. -/
structure Decimal where
  digits : Nat
  exponent : Int
deriving DecidableEq

/-- The digits at the begin of a text, and the rest. -/
def splitDigits (text : List Char) : List Char × List Char :=
  (text.takeWhile Char.isDigit, text.dropWhile Char.isDigit)

/-- A sign at the begin of a text, if there is one, and the rest. -/
def splitSign : List Char → Bool × List Char
  | '+' :: rest => (false, rest)
  | '-' :: rest => (true, rest)
  | rest => (false, rest)

/-- The exponent that a text consists of; an empty text stands for none. -/
def exponent? : List Char → Option Int
  | [] => some 0
  | e :: rest =>
      if e = 'e' || e = 'E' then
        let (isNegative, unsigned) := splitSign rest
        if unsigned.isEmpty || !unsigned.all Char.isDigit then none
        else
          let size := (Text.digitsValue 0 unsigned : Int)
          some (if isNegative then -size else size)
      else none

/-- The decimal number that a text without a sign consists of. -/
def decimal? (text : List Char) : Option Decimal :=
  let (whole, rest) := splitDigits text
  let (fraction, rest) :=
    match rest with
    | '.' :: more => splitDigits more
    | _ => ([], rest)
  if whole.isEmpty && fraction.isEmpty then none
  else
    (exponent? rest).map fun exponent =>
      ⟨Text.digitsValue 0 (whole ++ fraction), exponent - fraction.length⟩

/-- The magnitude nearest to a decimal number.  A number beyond all magnitudes, or nearer to zero
than half the least, is recognised by its number of digits alone. -/
def Decimal.magnitude (decimal : Decimal) : Nat :=
  let size := decimal.exponent + (Nat.toDigits 10 decimal.digits).length
  if decimal.digits = 0 ∨ size < -330 then 0
  else if 330 < size then infinity
  else
    nearest (decimal.digits * tenTo decimal.exponent * one) (tenTo (-decimal.exponent))

/-- The magnitude that a text without a sign stands for. -/
def magnitude? (text : List Char) : Option Nat :=
  let word := String.ofList (text.map Char.toLower)
  if word = "inf" ∨ word = "infinity" then some infinity
  else if word = "nan" then some quietNaN
  else (decimal? text).map Decimal.magnitude

/-- The number that a text stands for. -/
def ofText? (text : List Char) : Option Binary64 :=
  let (negative, unsigned) := splitSign text
  (magnitude? unsigned).map (ofMagnitude negative)

end NameSieve.Binary64
