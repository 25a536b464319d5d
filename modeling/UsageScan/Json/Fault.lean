/-!
# Faults in JSON texts

What can be wrong with a text that should be JSON. A reader stops at the first fault from the left.
-/

set_option autoImplicit false

namespace UsageScan.Json

/-- What was being read when a text broke off. -/
inductive Unfinished where
  | value
  | object
  | list
  | string
deriving DecidableEq, Repr

/-- What is wrong with a text. -/
inductive Fault where
  /-- The text broke off. -/
  | ended (inside : Unfinished)
  | valueExpected
  | wordExpected
  | colonExpected
  | objectSeparatorExpected
  | listSeparatorExpected
  | keyNotString
  | trailingComma
  | trailingCharacters
  | invalidNumber
  | numberOutOfRange
  | invalidEscape
  | controlCharacter
  /-- The first half of a surrogate pair was not followed by an escape. -/
  | pairCutShort
  /-- The second half of a surrogate pair was missing or came first. -/
  | loneSurrogate
deriving DecidableEq, Repr

/-- Whether the text broke off. -/
def Fault.isEnd : Fault → Bool
  | ended _ => true
  | _ => false

/-- A fault in words. -/
def Fault.message : Fault → String
  | ended .value => "EOF while parsing a value"
  | ended .object => "EOF while parsing an object"
  | ended .list => "EOF while parsing a list"
  | ended .string => "EOF while parsing a string"
  | valueExpected => "expected value"
  | wordExpected => "expected ident"
  | colonExpected => "expected `:`"
  | objectSeparatorExpected => "expected `,` or `\x7d`"
  | listSeparatorExpected => "expected `,` or `]`"
  | keyNotString => "key must be a string"
  | trailingComma => "trailing comma"
  | trailingCharacters => "trailing characters"
  | invalidNumber => "invalid number"
  | numberOutOfRange => "number out of range"
  | invalidEscape => "invalid escape"
  | controlCharacter => "control character (\\u0000-\\u001F) found while parsing a string"
  | pairCutShort => "unexpected end of hex escape"
  | loneSurrogate => "lone leading surrogate in hex escape"

end UsageScan.Json
