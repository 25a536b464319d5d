/-!
# Decimal numbers

A decimal number is written with the point among its digits, or with an exponent behind a single
leading digit. Which of the two depends on where the point falls.

## Main definitions

* `Decimal` — a whole number of digits, scaled by a power of ten
* `Decimal.Style` — how far from the digits the point may fall
* `Decimal.render` — the text of a decimal number
-/

set_option autoImplicit false

namespace UsageScan

/-- The number `digits * 10 ^ exponent`. -/
structure Decimal where
  digits : Nat
  exponent : Int
deriving DecidableEq, Repr

namespace Decimal

/-- How numbers are written: positionally if the point falls behind more than `least` and at most
`most` digits, counted from the first digit, and with an exponent otherwise. -/
structure Style where
  least : Int
  most : Int
deriving DecidableEq, Repr

/-- The text of a number written positionally. The point falls behind the first `point` digits.
There is at least one digit on either side of it. -/
def renderPositional (digits : List Char) (point : Int) : List Char :=
  if point ≤ 0 then
    ['0', '.'] ++ .replicate (-point).toNat '0' ++ digits
  else if digits.length ≤ point.toNat then
    digits ++ .replicate (point.toNat - digits.length) '0' ++ ['.', '0']
  else
    digits.take point.toNat ++ '.' :: digits.drop point.toNat

/-- The text of an exponent, with its sign. -/
def renderExponent (n : Int) : List Char :=
  if n < 0 then n.repr.toList else '+' :: n.repr.toList

/-- The text of a number written with an exponent. A single digit stands alone. -/
def renderScientific (digits : List Char) (point : Int) : List Char :=
  let fraction := if digits.length ≤ 1 then [] else '.' :: digits.drop 1
  digits.take 1 ++ fraction ++ 'e' :: renderExponent (point - 1)

/-- The text of a number. -/
def render (style : Style) (d : Decimal) : String :=
  let digits := Nat.toDigits 10 d.digits
  let point := digits.length + d.exponent
  .ofList <|
    if style.least < point ∧ point ≤ style.most then renderPositional digits point
    else renderScientific digits point

end Decimal

end UsageScan
