import UsageScan.Lexeme
import UsageScan.Proofs.Cursor
/-!
# Forms of lexemes

What a lexeme is depends on the characters in front of the cursor alone, not on where they stand. A
form is a lexeme without its place: a class, flags and the characters taken. Every nonempty text
begins with exactly one form, and reading a lexeme finds that form.

## Main definitions

* `Form` — a class, flags and the characters taken
* `Form.shown` — the text shown for a form
* `Form.front` — the form at the front of a text, and the rest of the text

## Main results

* `Form.append_front` — a form and the rest make up the text
* `Form.word_front_ne_nil` — a form takes at least one character
* `Lexeme.read?_cons` — reading a lexeme finds the form at the front
-/

set_option autoImplicit false

namespace UsageScan

open Text

/-- A lexeme without its place. -/
structure Form where
  kind : Token.Kind
  flags : Token.Flags
  /-- The characters taken. -/
  word : List Char
deriving DecidableEq, Repr

namespace Form

/-- The text shown for characters with the given flags: a number with a leading dot gets a zero, and
a block comment that is never closed is closed. -/
def shownText (flags : Token.Flags) (word : List Char) : List Char :=
  if flags.implicitLeadingZero then '0' :: word
  else if flags.blockComment && flags.unterminated then word ++ ['*', '/']
  else word

/-- Whether a text was clipped does not decide how it is shown. -/
theorem shownText_union (flags : Token.Flags) (truncated : Bool) (word : List Char) :
    shownText (flags.union { truncated }) word = shownText flags word := by
  simp [shownText, Token.Flags.union]

/-- The text shown for a form. -/
def shown (f : Form) : List Char :=
  shownText f.flags f.word

/-- The class of a run of characters that may continue an identifier. -/
def wordKind (word : List Char) : Token.Kind :=
  if isKeyword (.ofList word) then .keyword else .identifier

/-- The form that takes `c` and the characters behind it as long as they satisfy `p`. -/
def run (kind : Token.Kind) (flags : Token.Flags) (p : Char → Bool) (c : Char) (cs : List Char) :
    Form × List Char :=
  (⟨kind, flags, c :: cs.takeWhile p⟩, cs.dropWhile p)

/-- The form that takes the given number of characters. -/
def first (kind : Token.Kind) (flags : Token.Flags) (length : Nat) (cs : List Char) :
    Form × List Char :=
  (⟨kind, flags, cs.take length⟩, cs.drop length)

/-- The string whose opening quote is `quote` and whose further characters are in front of `cs`. -/
def string (quote : Char) (cs : List Char) : Form × List Char :=
  first .string { unterminated := !(Lexeme.stringLength quote 0 cs).2 }
    ((Lexeme.stringLength quote 0 cs).1 + 1) (quote :: cs)

/-- The block comment whose characters behind `/*` are `body`. -/
def block (body : List Char) : Form × List Char :=
  match cut? ['*', '/'] body with
  | some (text, rest) => (⟨.comment, { blockComment := true }, Lexeme.blockText text⟩, rest)
  | none => (⟨.comment, { blockComment := true, unterminated := true }, '/' :: '*' :: body⟩, [])

/-- The operator at the front of the text `c :: cs`, or its first character as an unknown one. -/
def operator (c : Char) (cs : List Char) : Form × List Char :=
  match longestOperator? c (cs.take 2) with
  | some op => first .operator .none op.length (c :: cs)
  | none => first .unknown .none 1 (c :: cs)

/-- The form at the front of the text `c :: cs`, and the rest of that text. -/
def front (c : Char) (cs : List Char) : Form × List Char :=
  if isIdentifierStart c then
    run (wordKind (c :: cs.takeWhile isIdentifierPart)) .none isIdentifierPart c cs
  else if c.isDigit then run .number .none Lexeme.isNumberPart c cs
  else if c = '.' then
    if cs.head?.any Char.isDigit then
      run .number { implicitLeadingZero := true } Lexeme.isNumberPart c cs
    else first .operator .none 1 (c :: cs)
  else if Lexeme.isQuote c then string c cs
  else if c = '/' ∧ cs.head? = some '/' then
    run .comment .none (fun d => !isLineBreak d) c cs
  else if c = '/' ∧ cs.head? = some '*' then block cs.tail
  else if Lexeme.delimiters.contains c then first .delimiter .none 1 (c :: cs)
  else operator c cs

/-- The lexeme that a form and the rest make at a position. -/
def lexeme (p : Position) (f : Form × List Char) : Lexeme :=
  ⟨f.1.kind, f.1.shown, f.1.flags, ⟨f.2, p.afterAll f.1.word⟩⟩

variable (c : Char) (cs : List Char)

/-- The characters behind a first one, if the second one is known. -/
theorem eq_cons_tail {cs : List Char} {d : Char} (h : cs.head? = some d) : cs = d :: cs.tail :=
  List.eq_cons_of_mem_head? h

/-- A form is a run behind the first character, a number of characters, or a block comment. -/
theorem front_cases {P : Form × List Char → Prop} (hrun : ∀ kind flags p, P (run kind flags p c cs))
    (hfirst : ∀ kind flags n, 0 < n → P (first kind flags n (c :: cs)))
    (hblock : ∀ body, c :: cs = '/' :: '*' :: body → P (block body)) : P (front c cs) := by
  unfold front
  repeat' split
  · exact hrun ..
  · exact hrun ..
  · exact hrun ..
  · exact hfirst _ _ _ Nat.one_pos
  · exact hfirst _ _ _ (Nat.succ_pos _)
  · exact hrun ..
  · next h =>
    have hbody : c :: cs = '/' :: '*' :: cs.tail := by rw [h.1, ← eq_cons_tail h.2]
    exact hblock _ hbody
  · exact hfirst _ _ _ Nat.one_pos
  · unfold operator
    split
    · next op hop =>
      exact hfirst _ _ _
        (length_pos_of_mem_operatorSpellings (mem_operatorSpellings_of_longestOperator? hop))
    · exact hfirst _ _ _ Nat.one_pos

theorem append_block (body : List Char) :
    (block body).1.word ++ (block body).2 = '/' :: '*' :: body := by
  unfold block
  split
  · next text rest hcut => simp [append_of_cut? hcut, Lexeme.blockText]
  · simp

/-- A form and the rest make up the text. -/
theorem append_front : (front c cs).1.word ++ (front c cs).2 = c :: cs := by
  apply front_cases (P := fun r => r.1.word ++ r.2 = c :: cs)
  · intro kind flags p
    simp [run]
  · intro kind flags n _
    exact List.take_append_drop n (c :: cs)
  · intro body h
    rw [h, append_block]

/-- A form takes at least one character. -/
theorem word_front_ne_nil : (front c cs).1.word ≠ [] := by
  apply front_cases (P := fun r => r.1.word ≠ [])
  · intro kind flags p
    simp [run]
  · intro kind flags n hn
    simp only [first, ne_eq, List.take_eq_nil_iff, reduceCtorEq, or_false]
    omega
  · intro body _
    unfold block
    split <;> simp [Lexeme.blockText]

end Form

/-! ### Reading finds the form at the front -/

namespace Lexeme

open Form

variable (p : Position) (c : Char) (cs : List Char)

/-- A run takes the next character if that one belongs to it. -/
theorem eatWhile_cons {f : Char → Bool} (hc : f c = true) :
    (⟨c :: cs, p⟩ : Cursor).eatWhile f = ⟨cs.dropWhile f, p.afterAll (c :: cs.takeWhile f)⟩ := by
  rw [Cursor.eatWhile_mk, List.dropWhile_cons_of_pos hc, List.takeWhile_cons_of_pos hc]

/-- The text up to the end of a run behind a first character. -/
theorem textTo?_run (f : Char → Bool) :
    (⟨c :: cs, p⟩ : Cursor).textTo? ⟨cs.dropWhile f, p.afterAll (c :: cs.takeWhile f)⟩ =
      some (c :: cs.takeWhile f) := by
  have htext := Cursor.textTo?_append p (c :: cs.takeWhile f) (cs.dropWhile f) (cs.dropWhile f)
  rw [List.cons_append, List.takeWhile_append_dropWhile] at htext
  exact htext

theorem word?_cons (hc : isIdentifierStart c = true) : word? ⟨c :: cs, p⟩ = some (lexeme p
    (run (wordKind (c :: cs.takeWhile isIdentifierPart)) .none isIdentifierPart c cs)) := by
  have hstop := eatWhile_cons p c cs (isIdentifierPart_of_isIdentifierStart hc)
  simp only [word?, hstop, textTo?_run]
  rfl

theorem number?_cons_of_digit (hc : c.isDigit = true) : number? ⟨c :: cs, p⟩ =
    some (lexeme p (run .number .none isNumberPart c cs)) := by
  have hne : c ≠ '.' := by
    rintro rfl
    contradiction
  have hstop := eatWhile_cons p c cs (show isNumberPart c = true by simp [isNumberPart, hc])
  simp only [number?, hstop, textTo?_run]
  simp only [Option.bind_eq_bind, Option.bind_some, List.head?_cons, Option.some.injEq, if_neg hne]
  rfl

theorem number?_dot : number? ⟨'.' :: cs, p⟩ =
    some (lexeme p (run .number { implicitLeadingZero := true } isNumberPart '.' cs)) := by
  have hstop := eatWhile_cons p '.' cs (show isNumberPart '.' = true from rfl)
  simp only [number?, hstop, textTo?_run]
  rfl

/-- What lies between a cursor and one some characters further on, shown as it is. -/
theorem between?_skip (kind : Token.Kind) (flags : Token.Flags) (n : Nat)
    (hzero : flags.implicitLeadingZero = false) (hblock : flags.blockComment = false) :
    between? kind flags ⟨cs, p⟩ ((⟨cs, p⟩ : Cursor).skip n) =
      some (lexeme p (first kind flags n cs)) := by
  have htext : (⟨cs, p⟩ : Cursor).textTo? ⟨cs.drop n, p.afterAll (cs.take n)⟩ =
      some (cs.take n) := by
    simpa using Cursor.textTo?_append p (cs.take n) (cs.drop n) (cs.drop n)
  rw [Cursor.skip_mk, between?, htext]
  simp [lexeme, first, shown, shownText, hzero, hblock]

theorem string?_cons (quote : Char) : string? quote ⟨quote :: cs, p⟩ =
    some (lexeme p (string quote cs)) :=
  between?_skip p (quote :: cs) .string { unterminated := !(stringLength quote 0 cs).2 }
    ((stringLength quote 0 cs).1 + 1) rfl rfl

/-- A line comment is a run of characters that do not end the line, the two slashes included. -/
theorem lineComment?_cons : lineComment? ⟨'/' :: '/' :: cs, p⟩ =
    some (lexeme p (run .comment .none (fun d => !isLineBreak d) '/' ('/' :: cs))) := by
  have hbody : (⟨'/' :: '/' :: cs, p⟩ : Cursor).skip 2 = ⟨cs, p.afterAll ['/', '/']⟩ := rfl
  have hstop := Cursor.advanceTo?_append (p.afterAll ['/', '/'])
    (cs.takeWhile fun d => !isLineBreak d) (cs.dropWhile fun d => !isLineBreak d)
  have htext := Cursor.textTo?_append p ('/' :: '/' :: cs.takeWhile fun d => !isLineBreak d)
    (cs.dropWhile fun d => !isLineBreak d) (cs.dropWhile fun d => !isLineBreak d)
  rw [List.takeWhile_append_dropWhile] at hstop
  simp only [List.cons_append, List.takeWhile_append_dropWhile] at htext
  simp only [lineComment?, hbody, Cursor.lineEnd_mk, hstop, between?, Option.bind_eq_bind,
    Option.bind_some, ← Position.afterAll_append, List.cons_append, List.nil_append, htext]
  rfl

/-- A block comment ends behind the first `*/`, or at the end of the text if there is none. -/
theorem blockComment?_cons : blockComment? ⟨'/' :: '*' :: cs, p⟩ = some (lexeme p (block cs)) := by
  have hbody : (⟨'/' :: '*' :: cs, p⟩ : Cursor).skip 2 = ⟨cs, p.afterAll ['/', '*']⟩ := rfl
  have hclose : "*/".toList = ['*', '/'] := rfl
  simp only [blockComment?, hbody, Cursor.find?_mk, hclose, block]
  -- What the reader takes up to the hit and two characters more is the cut at the hit.
  cases hcut : cut? ['*', '/'] cs with
  | none =>
    have hstop := Cursor.advanceTo?_append (p.afterAll ['/', '*']) cs []
    have htext := Cursor.textTo?_append (p.afterAll ['/', '*']) cs [] []
    rw [List.append_nil] at hstop htext
    simp only [Option.map_none, Cursor.endOffset_mk, hstop, htext, Option.bind_eq_bind,
      Option.bind_some]
    rfl
  | some parts =>
    obtain ⟨text, rest⟩ := parts
    obtain rfl := append_of_cut? hcut
    have hstop := Cursor.advanceTo?_append (p.afterAll ['/', '*']) text (['*', '/'] ++ rest)
    have htext := Cursor.textTo?_append (p.afterAll ['/', '*']) text (['*', '/'] ++ rest)
      (['*', '/'] ++ rest)
    rw [← List.append_assoc] at hstop htext
    simp only [Option.map_some, hstop, htext, Option.bind_eq_bind, Option.bind_some]
    simp only [lexeme, shown, shownText, blockText, Position.afterAll_append]
    rfl

theorem operator?_cons : operator? c ⟨c :: cs, p⟩ = some (lexeme p (operator c cs)) := by
  simp only [operator?, operator, List.tail_cons]
  cases longestOperator? c (cs.take 2) with
  | none => exact between?_skip p (c :: cs) .unknown .none 1 rfl rfl
  | some op => exact between?_skip p (c :: cs) .operator .none op.length rfl rfl

/-- Reading a lexeme finds the form at the front of the text. -/
theorem read?_cons : read? ⟨c :: cs, p⟩ = some (lexeme p (front c cs)) := by
  simp only [read?, front]
  split_ifs with hstart hdigit hdot hfraction hquote hline hblock hdelimiter
  · exact word?_cons p c cs hstart
  · exact number?_cons_of_digit p c cs hdigit
  · rw [hdot, number?_dot]
  · exact between?_skip p (c :: cs) .operator .none 1 rfl rfl
  · exact string?_cons p cs c
  · rw [hline.1, eq_cons_tail hline.2, lineComment?_cons]
  · rw [hblock.1, eq_cons_tail hblock.2, blockComment?_cons]
    rfl
  · exact between?_skip p (c :: cs) .delimiter .none 1 rfl rfl
  · exact operator?_cons p c cs

end Lexeme

end UsageScan
