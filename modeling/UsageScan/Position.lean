/-!
# Positions in a text

A reader of a text keeps three counts: the bytes of UTF-8 behind it, the line breaks among them, and
the characters since the last line break. People are shown the last two as a line and a column.

## Main definitions

* `Location` — a line and a column, both counted from one
* `Position` — how far a reading has come
* `Position.after` and `Position.afterAll` — the position behind one more character, or several
* `Span` — the stretch of a text between two byte offsets
-/

set_option autoImplicit false

namespace UsageScan

/-- A line and a column as people count them, from one. -/
structure Location where
  line : Nat
  column : Nat
deriving DecidableEq, Repr

namespace Location

/-- The form `line:column`. -/
def render (l : Location) : String :=
  l.line.repr ++ ":" ++ l.column.repr

end Location

/-- How far a reading has come: the bytes read, the line breaks among the characters read, and the
characters read since the last line break. -/
structure Position where
  offset : Nat
  newlines : Nat
  column : Nat
deriving DecidableEq, Repr

namespace Position

/-- The position before the first character. -/
def start : Position :=
  ⟨0, 0, 0⟩

/-- The position behind one more character. Only a line feed begins a new line. -/
def after (p : Position) (c : Char) : Position :=
  if c = '\n' then ⟨p.offset + c.utf8Size, p.newlines + 1, 0⟩
  else ⟨p.offset + c.utf8Size, p.newlines, p.column + 1⟩

/-- The position behind several more characters. -/
def afterAll (p : Position) (cs : List Char) : Position :=
  cs.foldl after p

/-- The line and column of the next character to be read. -/
def location (p : Position) : Location :=
  ⟨p.newlines + 1, p.column + 1⟩

@[simp] theorem afterAll_nil (p : Position) : p.afterAll [] = p := rfl

@[simp] theorem afterAll_cons (p : Position) (c : Char) (cs : List Char) :
    p.afterAll (c :: cs) = (p.after c).afterAll cs := rfl

theorem afterAll_append (p : Position) (as bs : List Char) :
    p.afterAll (as ++ bs) = (p.afterAll as).afterAll bs :=
  List.foldl_append

end Position

/-- The stretch of a text from the byte offset `start` up to, not including, `stop`. -/
structure Span where
  start : Nat
  stop : Nat
deriving DecidableEq, Repr

namespace Span

/-- The span between two offsets; there is none that ends before it starts. -/
def between? (start stop : Nat) : Option Span :=
  if start ≤ stop then some ⟨start, stop⟩ else none

/-- The span that covers nothing at an offset. -/
def empty (offset : Nat) : Span :=
  ⟨offset, offset⟩

/-- The number of bytes covered. -/
def size (s : Span) : Nat :=
  s.stop - s.start

/-- Whether nothing is covered. -/
def isEmpty (s : Span) : Bool :=
  s.start == s.stop

/-- Whether the byte at an offset is covered. -/
def contains (s : Span) (offset : Nat) : Bool :=
  s.start ≤ offset && offset < s.stop

/-- The half-open interval as mathematicians write it. -/
def render (s : Span) : String :=
  "[" ++ s.start.repr ++ ", " ++ s.stop.repr ++ ")"

/-- The two offsets with two dots between them. -/
def renderRange (s : Span) : String :=
  s.start.repr ++ ".." ++ s.stop.repr

end Span

end UsageScan
