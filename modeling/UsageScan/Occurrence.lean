import UsageScan.Lexeme
/-!
# Occurrences

What a scan comes across in a source, in order: tokens, declared names, line breaks outside tokens,
and the end. A declared name follows a declaration keyword behind blanks and is not a token. The
occurrences of a source depend on its text and on the length limit alone; what is made of them is
left to those who observe them.

## Main definitions

* `Occurrence`
* `clip` — a text cut to the length limit
* `Pull.read?` — one token with all that is come across up to the next token

## Main results

* `Pull.length_read?_lt` — a pull takes at least one character
-/

set_option autoImplicit false

namespace UsageScan

/-- Something a scan comes across. -/
inductive Occurrence where
  /-- A token that ends before `stop`. -/
  | token (token : Token) (stop : Location)
  /-- A declared name: its line, its byte offset, and the place behind it. -/
  | declaration (name : String) (line offset : Nat) (stop : Location)
  /-- A line break outside tokens. -/
  | lineBreak
  /-- The end of the source. -/
  | endOfText
deriving DecidableEq, Repr

/-- A text cut to a length limit, and whether anything was cut off. -/
def clip (limit : Option Nat) (text : List Char) : String × Bool :=
  match limit with
  | none => (.ofList text, false)
  | some n => (.ofList (text.take n), n < text.length)

/-- A clipped text is what the text begins with. -/
theorem clip_prefix (limit : Option Nat) (text : List Char) :
    (clip limit text).1.toList <+: text := by
  cases limit with
  | none => simp [clip]
  | some n => simpa [clip] using List.take_prefix n text

/-- The token that a lexeme makes behind `start`. -/
def Lexeme.token? (limit : Option Nat) (start : Cursor) (l : Lexeme) : Option Token := do
  let span ← Span.between? start.offset l.stop.offset
  let (text, truncated) := clip limit l.text
  some ⟨l.kind, text, start.location, span, l.flags.union { truncated }⟩

/-- The line breaks between two cursors. -/
def lineBreaks (c d : Cursor) : List Occurrence :=
  .replicate (d.position.newlines - c.position.newlines) .lineBreak

/-- One token with all that is come across from it up to the next token. -/
structure Pull where
  token : Token
  occurrences : List Occurrence
  /-- The cursor before the next token, or at the end of the source. -/
  stop : Cursor
deriving DecidableEq, Repr

namespace Pull

/-- The declared name in front of a cursor, with the cursor behind it. Anything but an identifier
is left for the next token. -/
def declaration? (limit : Option Nat) (start : Cursor) : Option (List Occurrence × Cursor) :=
  if start.peek?.any Text.isIdentifierStart then do
    let stop := start.eatWhile Text.isIdentifierPart
    let name ← start.textTo? stop
    some ([.declaration (clip limit name).1 start.location.line start.offset stop.location], stop)
  else some ([], start)

/-- What follows a lexeme before the next token can come: the declared name behind a declaration
keyword, or nothing. -/
def declared? (limit : Option Nat) (l : Lexeme) : Option (List Occurrence × Cursor) :=
  if l.kind = .keyword ∧ isDeclarationKeyword (.ofList l.text) then do
    let start := l.stop.skipBlanks
    let (declaration, stop) ← declaration? limit start
    some (lineBreaks l.stop start ++ declaration, stop)
  else some ([], l.stop)

/-- The token in front of a cursor that does not stand before a blank. There is none exactly at the
end of the source. -/
def read? (limit : Option Nat) (start : Cursor) : Option Pull := do
  let l ← Lexeme.read? start
  let token ← l.token? limit start
  let (declared, behind) ← declared? limit l
  let stop := behind.skipBlanks
  let ending := if stop.atEnd then [.endOfText] else []
  some ⟨token, .token token l.stop.location :: declared ++ lineBreaks behind stop ++ ending, stop⟩

theorem length_declaration?_le {limit : Option Nat} {c d : Cursor} {seen : List Occurrence}
    (h : declaration? limit c = some (seen, d)) : d.rest.length ≤ c.rest.length := by
  unfold declaration? at h
  split at h
  · obtain ⟨name, -, hd⟩ := Option.bind_eq_some_iff.mp h
    cases hd
    exact Cursor.length_eatWhile_le _ _
  · cases h
    exact Nat.le_refl _

theorem length_declared?_le {limit : Option Nat} {l : Lexeme} {d : Cursor} {seen : List Occurrence}
    (h : declared? limit l = some (seen, d)) : d.rest.length ≤ l.stop.rest.length := by
  unfold declared? at h
  split at h
  · obtain ⟨⟨declaration, stop⟩, hstop, hd⟩ := Option.bind_eq_some_iff.mp h
    cases hd
    exact Nat.le_trans (length_declaration?_le hstop) (Cursor.length_eatWhile_le _ _)
  · cases h
    exact Nat.le_refl _

/-- A pull takes at least one character. -/
theorem length_read?_lt {limit : Option Nat} {c : Cursor} {p : Pull} (h : read? limit c = some p) :
    p.stop.rest.length < c.rest.length := by
  obtain ⟨l, hl, h⟩ := Option.bind_eq_some_iff.mp h
  obtain ⟨token, -, h⟩ := Option.bind_eq_some_iff.mp h
  obtain ⟨⟨declared, behind⟩, hbehind, hp⟩ := Option.bind_eq_some_iff.mp h
  cases hp
  have hskip : behind.skipBlanks.rest.length ≤ behind.rest.length :=
    Cursor.length_eatWhile_le _ _
  have hdeclared := length_declared?_le hbehind
  have hlexeme := Lexeme.length_read?_lt hl
  simp only
  omega

end Pull

end UsageScan
