import UsageScan.Position
import UsageScan.Text.Offset
import UsageScan.Text.Blank
/-!
# Cursors

A cursor stands between two characters of a text. It holds the characters still to be read and the
position it has reached. Cursors are values: to come back to a place, keep the cursor that stands
there.

## Main definitions

* `Cursor.ofText` — the cursor before a text
* `Cursor.advance`, `Cursor.skip`, `Cursor.eatWhile` — reading on
* `Cursor.advanceTo?` — jumping forward to a byte offset
* `Cursor.lineEnd`, `Cursor.find?` — searching forward for a byte offset
* `Cursor.textTo?` — the text between two cursors

## Main results

* `Cursor.length_advance_lt`, `Cursor.length_eatWhile_lt` — reading a character leaves fewer of them
* `Cursor.length_skip_le`, `Cursor.length_eatWhile_le`, `Cursor.length_advanceTo?_le` — reading on
  never leaves more
-/

set_option autoImplicit false

namespace UsageScan

/-- A place in a text: the characters still to be read, and the position before them. -/
structure Cursor where
  rest : List Char
  position : Position
deriving DecidableEq, Repr

namespace Cursor

/-- The cursor before the first character of a text. -/
def ofText (text : String) : Cursor :=
  ⟨text.toList, .start⟩

/-- The byte offset of the next character. -/
def offset (c : Cursor) : Nat :=
  c.position.offset

/-- The line and column of the next character. -/
def location (c : Cursor) : Location :=
  c.position.location

/-- Whether no character is left. -/
def atEnd (c : Cursor) : Bool :=
  c.rest.isEmpty

/-- The next character, if there is one. -/
def peek? (c : Cursor) : Option Char :=
  c.rest.head?

/-- The character `n` places behind the next one, if there is one. -/
def peekAt? (c : Cursor) (n : Nat) : Option Char :=
  c.rest[n]?

/-- The cursor behind the next character. At the end of the text it stays. -/
def advance (c : Cursor) : Cursor :=
  match c.rest with
  | [] => c
  | ch :: rest => ⟨rest, c.position.after ch⟩

/-- The cursor behind the next `n` characters, or at the end of the text if fewer are left. -/
def skip (c : Cursor) : Nat → Cursor
  | 0 => c
  | n + 1 => c.advance.skip n

/-- The cursor behind the longest run of characters that satisfy `p`. -/
def eatWhile (p : Char → Bool) (c : Cursor) : Cursor :=
  ⟨c.rest.dropWhile p, c.position.afterAll (c.rest.takeWhile p)⟩

/-- The cursor at a byte offset further on, if a character begins or the text ends there. -/
def advanceTo? (c : Cursor) (target : Nat) : Option Cursor :=
  if target < c.offset then none
  else
    (Text.splitAt? (target - c.offset) c.rest).map fun (read, rest) =>
      ⟨rest, c.position.afterAll read⟩

/-- The byte offset of the next line break, or of the end of the text. -/
def lineEnd (c : Cursor) : Nat :=
  (c.eatWhile fun ch => !Text.isLineBreak ch).offset

/-- The byte offset at which the text ends. -/
def endOffset (c : Cursor) : Nat :=
  (c.position.afterAll c.rest).offset

/-- The least byte offset from here on at which `needle` occurs. -/
def find? (c : Cursor) (needle : String) : Option Nat :=
  Text.findFrom? needle.toList c.offset c.rest

/-- The characters between two cursors of one text, if they are in order. -/
def textTo? (c d : Cursor) : Option (List Char) :=
  if d.offset < c.offset then none
  else (Text.splitAt? (d.offset - c.offset) c.rest).map Prod.fst

/-- The cursor behind the run of blanks in front of it, if there are any. -/
def skipBlanks (c : Cursor) : Cursor :=
  c.eatWhile Text.isBlank

theorem length_advance_le (c : Cursor) : c.advance.rest.length ≤ c.rest.length := by
  unfold advance
  split <;> simp_all

theorem length_advance_lt {c : Cursor} (h : c.rest ≠ []) :
    c.advance.rest.length < c.rest.length := by
  unfold advance
  split
  · contradiction
  · next h => simp [h]

theorem length_skip_le (c : Cursor) (n : Nat) : (c.skip n).rest.length ≤ c.rest.length := by
  induction n generalizing c with
  | zero => exact Nat.le_refl _
  | succ n ih => exact Nat.le_trans (ih c.advance) c.length_advance_le

theorem length_eatWhile_le (p : Char → Bool) (c : Cursor) :
    (c.eatWhile p).rest.length ≤ c.rest.length :=
  (List.dropWhile_suffix p).length_le

/-- A run takes the next character if that one belongs to it. -/
theorem length_eatWhile_lt {p : Char → Bool} {c : Cursor} {ch : Char} {rest : List Char}
    (hc : c.rest = ch :: rest) (hp : p ch = true) :
    (c.eatWhile p).rest.length < c.rest.length := by
  have hle := (List.dropWhile_suffix p (l := rest)).length_le
  simp only [eatWhile, hc, List.dropWhile_cons_of_pos hp, List.length_cons]
  omega

theorem length_advanceTo?_le {c d : Cursor} {target : Nat} (h : c.advanceTo? target = some d) :
    d.rest.length ≤ c.rest.length := by
  unfold advanceTo? at h
  split at h
  · contradiction
  · obtain ⟨⟨read, rest⟩, hsplit, rfl⟩ := Option.map_eq_some_iff.mp h
    rw [(Text.splitAt?_eq_some_iff.mp hsplit).1]
    simp

end Cursor

end UsageScan
