import UsageScan.Json.Fault
/-!
# Reading JSON numbers

A number without fraction and exponent is an integer if it fits into 64 bits, and any other number
is a floating-point number. Of its digits only as many count as fit into 64 bits without a sign;
they are scaled by the power of ten that the point, the exponent and the digits left out amount to.

## Main definitions

* `Number` — an integer or a floating-point number
* `readNumber` — a number behind its sign
-/

set_option autoImplicit false

namespace UsageScan.Json

/-- A number as it is read. -/
inductive Number where
  | integer (n : Int)
  | float (x : Float)
deriving DecidableEq, Repr

/-- A run of digits, at least one. -/
def readDigits (cs : List Char) : Except Fault (List Char × List Char) :=
  match cs.takeWhile Char.isDigit, cs.dropWhile Char.isDigit with
  | [], [] => .error (.ended .value)
  | [], _ :: _ => .error .invalidNumber
  | digits, rest => .ok (digits, rest)

/-- The digits behind a point, if there is one. -/
def readFraction (cs : List Char) : Except Fault (Option (List Char) × List Char) :=
  match cs with
  | '.' :: cs => do
    let (digits, rest) ← readDigits cs
    .ok (some digits, rest)
  | cs => .ok (none, cs)

/-- The number that some digits make. -/
def digitsValue (digits : List Char) : Nat :=
  digits.foldl (fun n d => n * 10 + (d.toNat - '0'.toNat)) 0

/-- The digits of an exponent, with their sign. -/
def readSignedDigits (cs : List Char) : Except Fault (Int × List Char) :=
  match cs with
  | '-' :: cs => do
    let (digits, rest) ← readDigits cs
    .ok (-(digitsValue digits), rest)
  | '+' :: cs => do
    let (digits, rest) ← readDigits cs
    .ok (digitsValue digits, rest)
  | cs => do
    let (digits, rest) ← readDigits cs
    .ok (digitsValue digits, rest)

/-- An exponent, if there is one. -/
def readExponent (cs : List Char) : Except Fault (Option Int × List Char) :=
  match cs with
  | c :: rest =>
    if c = 'e' ∨ c = 'E' then do
      let (n, rest) ← readSignedDigits rest
      .ok (some n, rest)
    else .ok (none, cs)
  | [] => .ok (none, [])

/-- Puts digits behind the number `n` as long as the result fits into 64 bits. Returns the result
and how many digits were left out. -/
def appendDigits (n : Nat) : List Char → Nat × Nat
  | [] => (n, 0)
  | d :: ds =>
    let m := n * 10 + (d.toNat - '0'.toNat)
    if m < UInt64.size then appendDigits m ds else (n, ds.length + 1)

/-- The power of ten with the given exponent, of which no greater one than `10 ^ 308` is used. -/
def powerOfTen (n : Nat) : Float :=
  .ofScientific 1 false n

/-- Divides a number by `10 ^ n`, in steps of at most `10 ^ 308`. -/
def scaleDown (x : Float) (n : Nat) : Float :=
  if n ≤ 308 then x / powerOfTen n
  else if x == 0 then x
  else scaleDown (x / powerOfTen 308) (n - 308)
termination_by n

/-- The number `significand * 10 ^ exponent`, if it is not too great for a floating-point number. -/
def scale? (significand : Nat) (exponent : Int) : Option Float :=
  let x := Float.ofNat significand
  if exponent < 0 then some (scaleDown x (-exponent).toNat)
  else if 308 < exponent then if x == 0 then some x else none
  else
    let y := x * powerOfTen exponent.toNat
    if y.isInf then none else some y

/-- The magnitude of the least integer. -/
def leastInteger : Nat :=
  0x8000000000000000

/-- The number made of a sign, some digits, and the fraction and the exponent behind them if there
are any. Zero is an integer only without a minus sign. -/
def Number.ofParts (negative : Bool) (whole : List Char) (fraction : Option (List Char))
    (exponent : Option Int) : Except Fault Number :=
  let (n, dropped) := appendDigits 0 whole
  let isWhole := dropped == 0 && fraction.isNone && exponent.isNone
  if isWhole && !negative then .ok (.integer n)
  else if isWhole && 0 < n && n ≤ leastInteger then .ok (.integer (-n))
  else
    let digits := fraction.getD []
    let (significand, left) := appendDigits n digits
    match scale? significand (dropped - (digits.length - left : Nat) + exponent.getD 0) with
    | none => .error .numberOutOfRange
    | some x => .ok (.float (if negative then -x else x))

/-- A number, from behind its minus sign if it has one. A zero is not followed by further digits. -/
def readNumber (negative : Bool) (cs : List Char) : Except Fault (Number × List Char) := do
  let (whole, cs) ← readDigits cs
  if whole.head? = some '0' ∧ 1 < whole.length then
    .error .invalidNumber
  else
    let (fraction, cs) ← readFraction cs
    let (exponent, cs) ← readExponent cs
    let number ← Number.ofParts negative whole fraction exponent
    .ok (number, cs)

end UsageScan.Json
