import UsageScan.Cursor
import UsageScan.Text.Identifier
import UsageScan.Token
import UsageScan.Token.Keyword
import UsageScan.Token.Operator
/-!
# Lexemes

A lexeme is what one reading step makes of the characters in front of a cursor: a class, the text to
show, and the cursor behind it. Every character begins some lexeme, so reading one fails only at the
end of the text; malformed text is classified, never refused.

The first character decides what is read, and at a slash or a dot the second one as well. Each
reader then goes as far as its class allows.

## Main definitions

* `Lexeme.read?` — the lexeme in front of a cursor
* `Lexeme.stringLength` — how far a string reaches behind its opening quote

## Main results

* `Lexeme.length_read?_lt` — a lexeme takes at least one character
-/

set_option autoImplicit false

namespace UsageScan

open Text

/-- What one reading step found. The text is complete; clipping it is left to the token. -/
structure Lexeme where
  kind : Token.Kind
  /-- The text to show. -/
  text : List Char
  flags : Token.Flags
  /-- The cursor behind the lexeme. -/
  stop : Cursor
deriving DecidableEq, Repr

namespace Lexeme

/-- The characters that make a delimiter each. -/
def delimiters : List Char :=
  ['[', ']', '{', '}', '(', ')', ',', ';']

/-- Whether a character opens and closes strings. -/
def isQuote (c : Char) : Bool :=
  c == '"' || c == '\''

/-- Whether a character goes on a number. Dots are not counted. -/
def isNumberPart (c : Char) : Bool :=
  c.isDigit || c == '.'

/-- The lexeme that shows just what lies between two cursors. -/
def between? (kind : Token.Kind) (flags : Token.Flags) (start stop : Cursor) : Option Lexeme :=
  (start.textTo? stop).map fun text => ⟨kind, text, flags, stop⟩

/-- An identifier or a keyword: the longest run of characters that may continue an identifier. -/
def word? (start : Cursor) : Option Lexeme := do
  let stop := start.eatWhile isIdentifierPart
  let text ← start.textTo? stop
  some ⟨if isKeyword (.ofList text) then .keyword else .identifier, text, .none, stop⟩

/-- A number: the longest run of digits and dots. A zero is shown before a leading dot. -/
def number? (start : Cursor) : Option Lexeme := do
  let stop := start.eatWhile isNumberPart
  let text ← start.textTo? stop
  if text.head? = some '.' then
    some ⟨.number, '0' :: text, { implicitLeadingZero := true }, stop⟩
  else
    some ⟨.number, text, .none, stop⟩

/-- How many characters a string takes behind its opening quote, and whether the last of them closes
it, counted on from `read`. A backslash takes the next character with it. -/
def stringLength (quote : Char) (read : Nat) : List Char → Nat × Bool
  | [] => (read, false)
  | c :: cs =>
    if c = '\\' then
      match cs with
      | [] => (read + 1, false)
      | _ :: cs => stringLength quote (read + 2) cs
    else if c = quote then (read + 1, true)
    else stringLength quote (read + 1) cs

/-- A string, through its closing quote or to the end of the text. -/
def string? (quote : Char) (start : Cursor) : Option Lexeme :=
  let (length, closed) := stringLength quote 0 start.advance.rest
  between? .string { unterminated := !closed } start (start.advance.skip length)

/-- A comment behind two slashes, up to but not including the line break. -/
def lineComment? (start : Cursor) : Option Lexeme := do
  let body := start.skip 2
  let stop ← body.advanceTo? body.lineEnd
  between? .comment .none start stop

/-- The block comment with the given text between its delimiters. -/
def blockText (body : List Char) : List Char :=
  ['/', '*'] ++ body ++ ['*', '/']

/-- A comment between `/*` and the first `*/` behind it. One that is never closed reaches to the end
of the text, and is shown closed. -/
def blockComment? (start : Cursor) : Option Lexeme :=
  let body := start.skip 2
  match body.find? "*/" with
  | some offset => do
    let close ← body.advanceTo? offset
    let text ← body.textTo? close
    some ⟨.comment, blockText text, { blockComment := true }, close.skip 2⟩
  | none => do
    let stop ← body.advanceTo? body.endOffset
    let text ← body.textTo? stop
    some ⟨.comment, blockText text, { blockComment := true, unterminated := true }, stop⟩

/-- The longest operator that begins with `first`, or `first` alone as an unknown character. -/
def operator? (first : Char) (start : Cursor) : Option Lexeme :=
  match longestOperator? first (start.rest.tail.take 2) with
  | some op => between? .operator .none start (start.skip op.length)
  | none => between? .unknown .none start start.advance

/-- The lexeme in front of a cursor. There is none exactly at the end of the text. -/
def read? (start : Cursor) : Option Lexeme :=
  match start.rest with
  | [] => none
  | c :: rest =>
    if isIdentifierStart c then word? start
    else if c.isDigit then number? start
    else if c = '.' then
      if rest.head?.any Char.isDigit then number? start
      else between? .operator .none start start.advance
    else if isQuote c then string? c start
    else if c = '/' ∧ rest.head? = some '/' then lineComment? start
    else if c = '/' ∧ rest.head? = some '*' then blockComment? start
    else if delimiters.contains c then between? .delimiter .none start start.advance
    else operator? c start

/-! ### Progress -/

theorem stop_of_between? {kind : Token.Kind} {flags : Token.Flags} {start stop : Cursor}
    {l : Lexeme} (h : between? kind flags start stop = some l) : l.stop = stop := by
  obtain ⟨text, -, rfl⟩ := Option.map_eq_some_iff.mp h
  rfl

theorem length_skip_succ_lt {c : Cursor} (h : c.rest ≠ []) (n : Nat) :
    (c.skip (n + 1)).rest.length < c.rest.length :=
  Nat.lt_of_le_of_lt (c.advance.length_skip_le n) (c.length_advance_lt h)

/-- A word takes the character that starts it, because that one may also continue it. -/
theorem length_word?_lt {c : Cursor} {ch : Char} {rest : List Char} {l : Lexeme}
    (hc : c.rest = ch :: rest) (hstart : isIdentifierStart ch = true) (h : word? c = some l) :
    l.stop.rest.length < c.rest.length := by
  obtain ⟨text, -, hl⟩ := Option.bind_eq_some_iff.mp h
  cases hl
  exact Cursor.length_eatWhile_lt hc (isIdentifierPart_of_isIdentifierStart hstart)

theorem length_number?_lt {c : Cursor} {ch : Char} {rest : List Char} {l : Lexeme}
    (hc : c.rest = ch :: rest) (hpart : isNumberPart ch = true) (h : number? c = some l) :
    l.stop.rest.length < c.rest.length := by
  obtain ⟨text, -, hl⟩ := Option.bind_eq_some_iff.mp h
  have hlt := Cursor.length_eatWhile_lt hc hpart
  split at hl <;> cases hl <;> exact hlt

theorem length_string?_lt {c : Cursor} {quote : Char} {l : Lexeme} (hc : c.rest ≠ [])
    (h : string? quote c = some l) : l.stop.rest.length < c.rest.length := by
  rw [stop_of_between? h]
  exact length_skip_succ_lt hc _

theorem length_lineComment?_lt {c : Cursor} {l : Lexeme} (hc : c.rest ≠ [])
    (h : lineComment? c = some l) : l.stop.rest.length < c.rest.length := by
  obtain ⟨stop, hstop, hl⟩ := Option.bind_eq_some_iff.mp h
  rw [stop_of_between? hl]
  exact Nat.lt_of_le_of_lt (Cursor.length_advanceTo?_le hstop) (length_skip_succ_lt hc 1)

theorem length_blockComment?_lt {c : Cursor} {l : Lexeme} (hc : c.rest ≠ [])
    (h : blockComment? c = some l) : l.stop.rest.length < c.rest.length := by
  have hbody : (c.skip 2).rest.length < c.rest.length := length_skip_succ_lt hc 1
  simp only [blockComment?] at h
  split at h
  · obtain ⟨close, hclose, h⟩ := Option.bind_eq_some_iff.mp h
    obtain ⟨text, -, hl⟩ := Option.bind_eq_some_iff.mp h
    cases hl
    have := Cursor.length_advanceTo?_le hclose
    have := close.length_skip_le 2
    simp only
    omega
  · obtain ⟨stop, hstop, h⟩ := Option.bind_eq_some_iff.mp h
    obtain ⟨text, -, hl⟩ := Option.bind_eq_some_iff.mp h
    cases hl
    have := Cursor.length_advanceTo?_le hstop
    simp only
    omega

theorem length_operator?_lt {c : Cursor} {first : Char} {l : Lexeme} (hc : c.rest ≠ [])
    (h : operator? first c = some l) : l.stop.rest.length < c.rest.length := by
  unfold operator? at h
  split at h
  · next op hop =>
    have hpos := length_pos_of_mem_operatorSpellings
      (mem_operatorSpellings_of_longestOperator? hop)
    rw [stop_of_between? h, show op.length = op.length - 1 + 1 by omega]
    exact length_skip_succ_lt hc _
  · rw [stop_of_between? h]
    exact c.length_advance_lt hc

/-- A lexeme takes at least one character. -/
theorem length_read?_lt {c : Cursor} {l : Lexeme} (h : read? c = some l) :
    l.stop.rest.length < c.rest.length := by
  have hone {kind flags} (hc : c.rest ≠ [])
      (h : between? kind flags c c.advance = some l) : l.stop.rest.length < c.rest.length := by
    rw [stop_of_between? h]
    exact c.length_advance_lt hc
  unfold read? at h
  split at h
  · contradiction
  · next ch rest hrest =>
    have hc : c.rest ≠ [] := by simp [hrest]
    repeat' split at h
    · next hstart => exact length_word?_lt hrest hstart h
    · next hdigit => exact length_number?_lt hrest (by simp [isNumberPart, hdigit]) h
    · next hdot _ => exact length_number?_lt hrest (by simp [isNumberPart, hdot]) h
    · exact hone hc h
    · exact length_string?_lt hc h
    · exact length_lineComment?_lt hc h
    · exact length_blockComment?_lt hc h
    · exact hone hc h
    · exact length_operator?_lt hc h

end Lexeme

end UsageScan
