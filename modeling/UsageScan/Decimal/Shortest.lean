import UsageScan.Decimal
/-!
# The shortest decimal that reads back

A floating-point number is shown by the decimal number with the fewest digits that rounds to it, and
of those by the nearest. The search goes through the powers of ten from the greatest: the first one
that has a multiple in the rounding interval is the one with the fewest digits.

## Main definitions

* `Binary64` — a positive number as a multiple of a power of two
* `Binary64.shortest` — the shortest decimal in the rounding interval
* `Decimal.ofFloat` — the text of a finite floating-point number
-/

set_option autoImplicit false

namespace UsageScan

/-- The number `mantissa * 2 ^ exponent`. -/
structure Binary64 where
  mantissa : Nat
  exponent : Int
  /-- Whether the next smaller number is only half as far away as the next greater one. -/
  tight : Bool
deriving DecidableEq, Repr

namespace Binary64

/-- The bit above the fraction, which is set in all but the smallest numbers and not stored. -/
def hiddenBit : Nat :=
  0x10000000000000

/-- The bit that holds the sign of a number. -/
def signBit : Nat :=
  0x8000000000000000

/-- The magnitude of the number with the given bits: eleven bits of exponent above the fraction. -/
def ofBits (bits : UInt64) : Binary64 :=
  let fraction : Nat := bits.toNat % hiddenBit
  let biased : Nat := bits.toNat / hiddenBit % 0x800
  if biased = 0 then ⟨fraction, -1074, false⟩
  else ⟨hiddenBit + fraction, biased - 1075, fraction = 0 && 1 < biased⟩

/-- The multiple of `10 ^ grid` that is nearest to a number, if some multiple rounds to the number.
Numbers are compared as multiples of a quarter of the last binary place. Of two multiples equally
near, the even one counts. The ends of the rounding interval belong to it if the mantissa is
even. -/
def nearestOn? (b : Binary64) (grid : Int) : Option Nat :=
  let quarter := b.exponent - 2
  let binary := Nat.pow 2 quarter.toNat * Nat.pow 10 (-grid).toNat
  let decimal := Nat.pow 2 (-quarter).toNat * Nat.pow 10 grid.toNat
  let value := 4 * b.mantissa * binary
  let low := (4 * b.mantissa - if b.tight then 1 else 2) * binary
  let high := (4 * b.mantissa + 2) * binary
  let rounds (n : Nat) : Bool :=
    if b.mantissa % 2 = 0 then low ≤ n * decimal && n * decimal ≤ high
    else low < n * decimal && n * decimal < high
  let below := value / decimal
  let above := below + 1
  match rounds below, rounds above with
  | false, false => none
  | true, false => some below
  | false, true => some above
  | true, true =>
    let toBelow := value - below * decimal
    let toAbove := above * decimal - value
    if toBelow < toAbove then some below
    else if toAbove < toBelow then some above
    else if below % 2 = 0 then some below
    else some above

/-- The shortest decimal among the multiples of `10 ^ grid` and of the next `finer` smaller powers
of ten. -/
def shortestFrom (b : Binary64) (grid : Int) : Nat → Decimal
  | 0 => ⟨0, 0⟩
  | finer + 1 =>
    match b.nearestOn? grid with
    | some digits => ⟨digits, grid⟩
    | none => b.shortestFrom (grid - 1) finer

/-- The shortest decimal that rounds to a number. No number is above `10 ^ 309`, and all are told
apart by multiples of `10 ^ (-342)`. -/
def shortest (b : Binary64) : Decimal :=
  b.shortestFrom 309 652

end Binary64

/-- The text of a finite floating-point number. Zero keeps its sign. -/
def Decimal.ofFloat (style : Style) (x : Float) : String :=
  let bits := x.toBits
  let b := Binary64.ofBits bits
  let sign := if bits.toNat < Binary64.signBit then "" else "-"
  sign ++ if b.mantissa = 0 then "0.0" else b.shortest.render style

end UsageScan
