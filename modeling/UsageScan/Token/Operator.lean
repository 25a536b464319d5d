/-!
# Operators

An operator is read as far as it goes: of the spellings that begin the text, the longest counts. No
spelling has more than three characters, so two characters behind the first decide.

## Main definitions

* `operatorSpellings` — every operator that is recognized by its spelling
* `longestOperator?` — the longest spelling at the front of a text

## Main results

* `length_pos_of_mem_operatorSpellings` — no spelling is empty
-/

set_option autoImplicit false

namespace UsageScan

/-- The operators of two or three characters. -/
def longOperators : List String :=
  ["===", "!==", "==", "!=", "<=", ">=", "+=", "-=", "*=", "/=", "++", "--", "&&", "||", "=>"]

/-- The operators of one character. -/
def shortOperators : List String :=
  ["+", "-", "*", "/", "=", "<", ">", "&", "|", "!"]

/-- Every operator that is recognized by its spelling. -/
def operatorSpellings : List String :=
  longOperators ++ shortOperators

/-- The texts that may turn out to be an operator, longest first: the first character with the
next two, with the next one, and alone. -/
def operatorCandidates (first : Char) (ahead : List Char) : List String :=
  [.ofList (first :: ahead.take 2), .ofList (first :: ahead.take 1), .ofList [first]]

/-- The longest operator that `first` and the characters ahead of it begin with, if there is
one. -/
def longestOperator? (first : Char) (ahead : List Char) : Option String :=
  (operatorCandidates first ahead).find? operatorSpellings.contains

theorem length_pos_of_mem_operatorSpellings {op : String} (h : op ∈ operatorSpellings) :
    0 < op.length := by
  have hall : ∀ op ∈ operatorSpellings, 0 < op.length := by decide
  exact hall op h

theorem mem_operatorSpellings_of_longestOperator? {first : Char} {ahead : List Char} {op : String}
    (h : longestOperator? first ahead = some op) : op ∈ operatorSpellings := by
  simpa using List.find?_some h

end UsageScan
