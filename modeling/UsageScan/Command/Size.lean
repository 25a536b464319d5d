/-!
# Sizes on the command line

A size is written in decimal digits, with or without a plus sign, and fits into 64 bits.
-/

set_option autoImplicit false

namespace UsageScan.Command

/-- Why a text is no size. -/
inductive SizeFault where
  | empty
  | invalidDigit
  | tooLarge
deriving DecidableEq, Repr

/-- A fault in words. -/
def SizeFault.message : SizeFault → String
  | empty => "cannot parse integer from empty string"
  | invalidDigit => "invalid digit found in string"
  | tooLarge => "number too large to fit in target type"

/-- The number whose digits are those of `n` and then the characters of a text. The first character
at which it is no digit or grows too large is its fault. -/
def readSizeFrom (n : Nat) : List Char → Except SizeFault Nat
  | [] => .ok n
  | c :: cs =>
    if c.isDigit then
      let m := n * 10 + (c.toNat - '0'.toNat)
      if m < UInt64.size then readSizeFrom m cs else .error .tooLarge
    else .error .invalidDigit

/-- The size that a text gives. -/
def readSize (text : String) : Except SizeFault Nat :=
  match text.toList with
  | [] => .error .empty
  | ['+'] => .error .invalidDigit
  | '+' :: cs => readSizeFrom 0 cs
  | cs => readSizeFrom 0 cs

end UsageScan.Command
