import UsageScan.Json.Number
import UsageScan.Json.StringReader
/-!
# How a JSON value opens

A reader that knows which value it expects need not read another one. It looks at how the value
opens: a scalar is read as a whole, of an array or an object the bracket alone.

## Main definitions

* `skipBlanks` — the text behind leading blanks
* `Opening` — how a value opens
* `readOpening` — reading it
-/

set_option autoImplicit false

namespace UsageScan.Json

/-- Whether a character may stand between the parts of a text. -/
def isBlank (c : Char) : Bool :=
  c == ' ' || c == '\t' || c == '\n' || c == '\r'

/-- A text without the blanks at its front. -/
def skipBlanks (cs : List Char) : List Char :=
  cs.dropWhile isBlank

/-- How a value opens. -/
inductive Opening where
  | null
  | boolean (b : Bool)
  | number (n : Number)
  | string (s : String)
  | list
  | object
deriving DecidableEq, Repr

/-- The text behind a word that has to stand at its front. -/
def readWord (word : List Char) (cs : List Char) : Except Fault (List Char) :=
  match word, cs with
  | [], cs => .ok cs
  | _ :: _, [] => .error (.ended .value)
  | w :: word, c :: cs => if w = c then readWord word cs else .error .wordExpected

/-- How the value at the front of a text opens, behind leading blanks. -/
def readOpening (cs : List Char) : Except Fault (Opening × List Char) :=
  match skipBlanks cs with
  | [] => .error (.ended .value)
  | c :: cs =>
    match c with
    | 'n' => do .ok (.null, ← readWord ['u', 'l', 'l'] cs)
    | 't' => do .ok (.boolean true, ← readWord ['r', 'u', 'e'] cs)
    | 'f' => do .ok (.boolean false, ← readWord ['a', 'l', 's', 'e'] cs)
    | '"' => do
      let (s, rest) ← readString cs
      .ok (.string s, rest)
    | '[' => .ok (.list, cs)
    | '{' => .ok (.object, cs)
    | '-' => do
      let (n, rest) ← readNumber true cs
      .ok (.number n, rest)
    | c =>
      if c.isDigit then do
        let (n, rest) ← readNumber false (c :: cs)
        .ok (.number n, rest)
      else .error .valueExpected

end UsageScan.Json
