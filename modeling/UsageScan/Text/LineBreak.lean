import UsageScan.Text.Blank
import UsageScan.Text.Columns
/-!
# Line breaks

Where a line may end and the next one begin. That depends on the classes of the two characters there
and on whether spaces stand between them: a line may end behind spaces, between a slash and a
letter, or beside an ideograph, but neither inside a word or a number nor beside a quotation mark.
These are the rules of Unicode for the classes that ASCII knows. Beyond ASCII, what is not listed
counts as an ideograph if it is wide and as a letter otherwise.

A hyphen ends no piece of a text, since a word is divided only once it does not fit.

## Main definitions

* `LineBreakClass` — what matters about a character for line breaks
* `LineBreakClass.separates` — whether a line may end between two characters
* `pieces` — a text cut wherever a line may end
-/

set_option autoImplicit false

namespace UsageScan.Text

/-- What matters about a character for line breaks. -/
inductive LineBreakClass where
  | letter
  | digit
  | ideograph
  /-- A mark, or a control character that does not lay out a text. -/
  | mark
  | space
  /-- A character, such as a tab, behind which a line may end. -/
  | breakAfter
  /-- A character that ends a line by itself. -/
  | lineEnd
  /-- A space that holds its neighbours together. -/
  | glue
  | hyphen
  | slash
  /-- A full stop, a comma and the like. -/
  | separator
  | exclamation
  | quotation
  | opening
  | closing
  /-- A closing bracket that a word may go on behind. -/
  | closingInWord
  /-- A sign that stands before a number. -/
  | beforeNumber
  /-- A sign that stands behind a number. -/
  | afterNumber
deriving DecidableEq, Repr

namespace LineBreakClass

/-- The class of a character beyond ASCII. -/
def ofCharBeyondAscii (c : Char) : LineBreakClass :=
  match c with
  | '\u0085' | '\u2028' | '\u2029' => lineEnd
  | '\u00a0' | '\u2007' | '\u202f' | '\u2060' | '\ufeff' => glue
  | '\u2010' | '\u2012' | '\u2013' | '\u00ad' => breakAfter
  | '«' | '»' | '‘' | '’' | '‛' | '“' | '”' | '‟' | '‹' | '›' => quotation
  | '¡' | '¿' | '‚' | '„' | '（' | '［' | '｛' | '「' | '『' | '【' | '〔' | '〈' | '《' => opening
  | '、' | '。' | '，' | '．' | '）' | '］' | '｝' | '」' | '』' | '】' | '〕' | '〉' | '》' => closing
  | '！' | '？' => exclamation
  | '£' | '¤' | '¥' | '±' | '€' | '№' => beforeNumber
  | '¢' | '°' | '‰' | '′' | '″' => afterNumber
  | '\u200d' => mark
  | c =>
    if isInlineBlank c then breakAfter
    else if isControl c || isMark c then mark
    else if isWide c then ideograph
    else letter

/-- The class of a character. -/
def ofChar (c : Char) : LineBreakClass :=
  match c with
  | ' ' => space
  | '\t' | '|' => breakAfter
  | '\n' | '\x0b' | '\x0c' | '\r' => lineEnd
  | '!' | '?' => exclamation
  | '"' | '\'' => quotation
  | '$' | '+' | '\\' => beforeNumber
  | '%' => afterNumber
  | '(' | '[' | '{' => opening
  | ')' | ']' => closingInWord
  | '}' => closing
  | ',' | '.' | ':' | ';' => separator
  | '-' => hyphen
  | '/' => slash
  | c =>
    if c.isDigit then digit
    else if c < ' ' || c = '\x7f' then mark
    else if c < '\x7f' then letter
    else ofCharBeyondAscii c

/-- Whether no line begins with a character of a class, not even behind spaces. -/
def neverLeads : LineBreakClass → Bool
  | space | lineEnd | slash | separator | exclamation | closing | closingInWord => true
  | _ => false

/-- Whether a line may end between two characters that touch. -/
def separates (before after : LineBreakClass) : Bool :=
  match before, after with
  | breakAfter, glue | hyphen, glue => true
  | _, glue | glue, _ => false
  | _, quotation | quotation, _ => false
  | _, breakAfter | _, hyphen => false
  | letter, letter | letter, digit | digit, letter | digit, digit => false
  | beforeNumber, ideograph | ideograph, afterNumber => false
  | beforeNumber, letter | afterNumber, letter => false
  | letter, beforeNumber | letter, afterNumber => false
  | closing, beforeNumber | closing, afterNumber => false
  | closingInWord, beforeNumber | closingInWord, afterNumber => false
  | digit, beforeNumber | digit, afterNumber => false
  | beforeNumber, opening | beforeNumber, digit => false
  | afterNumber, opening | afterNumber, digit => false
  | hyphen, digit | separator, digit | slash, digit => false
  | separator, letter => false
  | letter, opening | digit, opening => false
  | closingInWord, letter | closingInWord, digit => false
  | _, _ => true

/-- Whether a line may end between two characters with spaces between them. -/
def separatesSpaced (before after : LineBreakClass) : Bool :=
  before ≠ opening && !(before == quotation && after == opening)

end LineBreakClass

/-- What matters for line breaks about the part of a text that has been read. -/
structure LineBreaking where
  /-- The class of the last character that is neither a space nor a mark on another character. -/
  before : Option LineBreakClass
  /-- Whether spaces follow that character. -/
  spaced : Bool
  /-- The last character. -/
  last : Option Char
deriving DecidableEq, Repr

namespace LineBreaking

/-- The state before a text. -/
def start : LineBreaking :=
  ⟨none, false, none⟩

/-- Whether a character of a class belongs to the one before it. -/
def absorbs (s : LineBreaking) (cls : LineBreakClass) : Bool :=
  cls == .mark && !s.spaced && s.before.any fun b => b != .lineEnd

/-- The class that a character of a class has here. A mark that stands alone counts as a letter. -/
def resolve (cls : LineBreakClass) : LineBreakClass :=
  if cls = .mark then .letter else cls

/-- The state behind a character. -/
def advance (s : LineBreaking) (c : Char) : LineBreaking :=
  let cls := LineBreakClass.ofChar c
  if s.absorbs cls then { s with last := some c }
  else if cls = .space then
    let before := if s.before.any (· != .lineEnd) then s.before else some .space
    ⟨before, true, some c⟩
  else ⟨some (resolve cls), false, some c⟩

/-- Whether a line may end before a character. -/
def allows (s : LineBreaking) (c : Char) : Bool :=
  let cls := LineBreakClass.ofChar c
  match s.before with
  | none => false
  | some .lineEnd => true
  | some before =>
    if s.absorbs cls || s.last == some '\u200d' || cls.neverLeads then false
    else if before = .opening then false
    else if s.spaced then before.separatesSpaced (resolve cls)
    else before.separates (resolve cls)

/-- Whether a piece of a text ends before a character. -/
def cuts (s : LineBreaking) (c : Char) : Bool :=
  s.allows c && s.last != some '-' && s.last != some '\u00ad'

/-- The pieces of a text from one that has been begun. What there is of it comes in reverse. -/
def piecesFrom (s : LineBreaking) (piece : List Char) : List Char → List (List Char)
  | [] => [piece.reverse]
  | c :: cs =>
    if s.cuts c then piece.reverse :: (s.advance c).piecesFrom [c] cs
    else (s.advance c).piecesFrom (c :: piece) cs

end LineBreaking

/-- A text cut wherever a line may end. -/
def pieces (cs : List Char) : List (List Char) :=
  LineBreaking.start.piecesFrom [] cs

end UsageScan.Text
