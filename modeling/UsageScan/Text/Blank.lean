/-!
# Blanks

The characters that separate tokens without being part of any: the line feed, which alone ends a
line, and the blanks inside a line. Among the latter are the carriage return, the spaces of other
scripts, the two separators of Unicode and the byte order mark.
-/

set_option autoImplicit false

namespace UsageScan.Text

/-- Whether a character ends a line. -/
def isLineBreak (c : Char) : Bool :=
  c == '\n'

/-- Whether a character is a blank inside a line. -/
def isInlineBlank (c : Char) : Bool :=
  match c with
  | ' ' | '\t' | '\r' | '\x0b' | '\x0c' => true
  | '\u00a0' | '\u1680' | '\u2028' | '\u2029' | '\u202f' | '\u205f' | '\u3000' | '\ufeff' => true
  | _ => '\u2000' ≤ c && c ≤ '\u200a'

/-- Whether a character separates tokens: a line break or a blank inside a line. -/
def isBlank (c : Char) : Bool :=
  isLineBreak c || isInlineBlank c

end UsageScan.Text
