import UsageScan.Text.IdentifierTable
/-!
# Characters of identifiers

An identifier starts with a letter or an underscore and goes on with letters, digits, marks and
underscores. Letters and marks beyond ASCII are those of Unicode. The dollar sign is none of them.

## Main results

* `isIdentifierPart_of_isIdentifierStart` — what may start an identifier may also continue one
-/

set_option autoImplicit false

namespace UsageScan.Text

/-- Whether a character lies in one of several closed ranges of code points. -/
def inRanges (ranges : List (Nat × Nat)) (c : Char) : Bool :=
  ranges.any fun (low, high) => low ≤ c.toNat && c.toNat ≤ high

/-- Whether a character may start an identifier. -/
def isIdentifierStart (c : Char) : Bool :=
  c == '_' || c.isAlpha || (0x7F < c.toNat && inRanges xidStartRanges c)

/-- Whether a character may continue an identifier. -/
def isIdentifierPart (c : Char) : Bool :=
  isIdentifierStart c || c.isDigit || (0x7F < c.toNat && inRanges xidContinueOnlyRanges c)

theorem isIdentifierPart_of_isIdentifierStart {c : Char} (h : isIdentifierStart c = true) :
    isIdentifierPart c = true := by
  simp [isIdentifierPart, h]

end UsageScan.Text
