import UsageScan.Text.Identifier
import UsageScan.Text.UnprintableTable
/-!
# Quoted texts

A text quoted for a message shows every character in visible form: quotation marks and backslashes
behind a backslash, the usual control characters by a letter, and whatever else has no visible shape
of its own by its code point.
-/

set_option autoImplicit false

namespace UsageScan.Text

/-- Whether a character is spelled out by its code point. -/
def isUnprintable (c : Char) : Bool :=
  c.toNat < 0x20 || inRanges unprintableRanges c

/-- A character in visible form. -/
def quoteChar (c : Char) : List Char :=
  match c with
  | '\x00' => ['\\', '0']
  | '\t' => ['\\', 't']
  | '\n' => ['\\', 'n']
  | '\r' => ['\\', 'r']
  | '"' => ['\\', '"']
  | '\\' => ['\\', '\\']
  | c => if isUnprintable c then ['\\', 'u', '{'] ++ Nat.toDigits 16 c.toNat ++ ['}'] else [c]

/-- A text in quotation marks with every character in visible form. -/
def quote (s : String) : String :=
  .ofList ('"' :: (s.toList.flatMap quoteChar ++ ['"']))

end UsageScan.Text
