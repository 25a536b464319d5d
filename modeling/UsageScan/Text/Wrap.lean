import UsageScan.Text.LineBreak
/-!
# Wrapped texts

A text that has to fit into a number of columns is told in several lines. Each line holds as many
words as fit, and the spaces behind its last word are left out. A word that is joined by a hyphen
may be divided behind it, and one that is wider than a whole line is divided anywhere.

## Main definitions

* `Word` — a part of a text that stays on one line
* `words` — the words of a text, none wider than a line
* `linesOf` — words dealt out to lines
* `wrap` — the lines of a text
-/

set_option autoImplicit false

namespace UsageScan.Text

/-- A part of a text that stays on one line, and the number of spaces behind it. -/
structure Word where
  text : List Char
  spaces : Nat
deriving DecidableEq, Repr

namespace Word

/-- The word that a piece of a text holds. -/
def ofPiece (piece : List Char) : Word :=
  let text := (piece.reverse.dropWhile (· == ' ')).reverse
  ⟨text, piece.length - text.length⟩

/-- A word with its spaces as text. -/
def spacedText (w : Word) : List Char :=
  w.text ++ List.replicate w.spaces ' '

/-- Whether a character makes a hyphen beside it join two parts of a word. -/
def isJoinable (c : Char) : Bool :=
  isIdentifierPart c && c != '_'

/-- The parts of a text that hyphens join, from one that has been begun. What there is of it comes
in reverse. -/
def hyphenated (part : List Char) : List Char → List (List Char)
  | [] => [part.reverse]
  | '-' :: c :: cs =>
    if part.head?.any isJoinable && isJoinable c then
      ('-' :: part).reverse :: hyphenated [] (c :: cs)
    else hyphenated ('-' :: part) (c :: cs)
  | c :: cs => hyphenated (c :: part) cs

/-- The parts of a text that fill lines of a width, from one that has been begun. What there is of
it comes in reverse. -/
def chunks (width : Nat) (part : List Char) : List Char → List (List Char)
  | [] => [part.reverse]
  | c :: cs =>
    if 0 < columns part && width < columns part + charColumns c then
      part.reverse :: chunks width [c] cs
    else chunks width (c :: part) cs

/-- A word in several parts, the spaces behind the last of them. -/
def ofParts (parts : List (List Char)) (spaces : Nat) : List Word :=
  match parts with
  | [] => []
  | [part] => [⟨part, spaces⟩]
  | part :: parts => ⟨part, 0⟩ :: ofParts parts spaces

/-- The parts of a word between hyphens. -/
def splitAtHyphens (w : Word) : List Word :=
  ofParts (hyphenated [] w.text) w.spaces

/-- The parts of a word that fill lines of a width, if it is wider than a line. -/
def splitAtWidth (width : Nat) (w : Word) : List Word :=
  if columns w.text ≤ width then [w] else ofParts (chunks width [] w.text) w.spaces

end Word

/-- The words of a text, none wider than a line. -/
def words (width : Nat) (cs : List Char) : List Word :=
  ((pieces cs).map Word.ofPiece).flatMap fun w => w.splitAtHyphens.flatMap (·.splitAtWidth width)

/-- The columns that words take up in a line with the spaces behind them. -/
def lineColumns (line : List Word) : Nat :=
  line.foldr (fun w n => columns w.text + w.spaces + n) 0

/-- Deals words out to lines of a width, behind a line that has been begun. Each word goes onto the
line if it fits there or if the line is empty. -/
def linesFrom (width : Nat) (line : List Word) : List Word → List (List Word)
  | [] => [line]
  | w :: ws =>
    if line ≠ [] ∧ width < lineColumns line + columns w.text then line :: linesFrom width [w] ws
    else linesFrom width (line ++ [w]) ws

/-- Words dealt out to lines of a width. -/
def linesOf (width : Nat) (ws : List Word) : List (List Word) :=
  linesFrom width [] ws

/-- A line of words as text. The spaces behind the last word are left out. -/
def lineText (line : List Word) : List Char :=
  match line.getLast? with
  | none => []
  | some w => line.dropLast.flatMap Word.spacedText ++ w.text

/-- The lines of a text that has to fit into a number of columns. Every line of the text begins a
new one. -/
def wrap (width : Nat) (s : String) : List String :=
  (s.splitOn "\n").flatMap fun line =>
    (linesOf width (words width line.toList)).map fun ws => .ofList (lineText ws)

end UsageScan.Text
