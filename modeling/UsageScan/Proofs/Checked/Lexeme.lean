import UsageScan.Proofs.Checked.Reader
import UsageScan.Proofs.Form
import UsageScan.Proofs.Token.Operator
/-!
# Reading lexemes without failing

The readers of the lexemes, written out with every cut, jump and count that they make. In front of a
text that fits, none of these fails, and what is read is the form at the front of the text.

## Main definitions

* `Checked.Shown` — a class, a text to show and flags
* `Checked.number?`, `Checked.string?`, `Checked.lineComment?`, `Checked.blockComment?`,
  `Checked.operator?` — the readers of the classes
* `Checked.lexeme?` — the reader of everything but words

## Main results

* `Checked.lexeme?_behind` — reading never fails, and finds the form at the front
-/

set_option autoImplicit false

namespace UsageScan.Checked

open Text

/-- What a reader makes of the characters it has read. -/
structure Shown where
  kind : Token.Kind
  /-- The text to show. It is not clipped yet. -/
  text : List Char
  flags : Token.Flags

/-! ### The readers of the classes -/

/-- A number, from the offset at which it starts. -/
def number? (r : Reader) (start : Nat) : Option (Shown × Reader) := do
  let r ← r.eatWhile? Lexeme.isNumberPart
  let raw ← r.slice? start r.offset
  if raw.head? = some '.' then some (⟨.number, '0' :: raw, { implicitLeadingZero := true }⟩, r)
  else some (⟨.number, raw, .none⟩, r)

/-- Reads through the quote that closes a string, or to the end of the text, and says which. -/
def closing? (quote : Char) (r : Reader) : Option (Bool × Reader) :=
  match _h : r.bump? with
  | none => none
  | some (none, r') => some (false, r')
  | some (some c, r') =>
    if c = '\\' then
      match _h' : r'.bump? with
      | none => none
      | some (_, r'') => closing? quote r''
    else if c = quote then some (true, r')
    else closing? quote r'
termination_by r.left
decreasing_by
  · exact Nat.lt_of_le_of_lt (Reader.left_bump?_le _h') (Reader.left_bump?_lt _h)
  · exact Reader.left_bump?_lt _h

/-- A string, from the offset at which it starts. -/
def string? (quote : Char) (r : Reader) (start : Nat) : Option (Shown × Reader) := do
  let (_, r) ← r.bump?
  let (closed, r) ← closing? quote r
  let text ← r.slice? start r.offset
  some (⟨.string, text, { unterminated := !closed }⟩, r)

/-- A comment that ends with its line, from the offset at which it starts. -/
def lineComment? (r : Reader) (start : Nat) : Option (Shown × Reader) := do
  let stop ← r.lineEnd?
  let r ← r.advanceTo? stop
  let text ← r.slice? start stop
  some (⟨.comment, text, .none⟩, r)

/-- A comment between delimiters. -/
def blockComment? (r : Reader) : Option (Shown × Reader) := do
  let (_, r) ← r.bump?
  let (_, r) ← r.bump?
  let start := r.offset
  match ← r.find? ['*', '/'] with
  | some close =>
    let r ← r.advanceTo? (close + 2)
    let body ← r.slice? start close
    some (⟨.comment, Lexeme.blockText body, { blockComment := true }⟩, r)
  | none =>
    let stop := size r.text
    let r ← r.advanceTo? stop
    let body ← r.slice? start stop
    some (⟨.comment, Lexeme.blockText body, { blockComment := true, unterminated := true }⟩, r)

/-- The next characters, at most so many, and the reader behind them. -/
def lookahead? : Nat → Reader → Option (List Char × Reader)
  | 0, r => some ([], r)
  | n + 1, r => do
    match ← r.bump? with
    | (none, r) => some ([], r)
    | (some c, r) =>
      let (cs, r) ← lookahead? n r
      some (c :: cs, r)

/-- A single character. -/
def single? (kind : Token.Kind) (c : Char) (r : Reader) : Option (Shown × Reader) := do
  let (_, r) ← r.bump?
  some (⟨kind, [c], .none⟩, r)

/-- An operator, or a character that begins none. What was looked at ahead is given back, and then as
many characters are read as the operator has bytes. -/
def operator? (first : Char) (r : Reader) : Option (Shown × Reader) := do
  let mark := r.position
  let (_, r) ← r.bump?
  let (ahead, r) ← lookahead? 2 r
  let r := r.restore mark
  match longestOperator? first ahead with
  | some op =>
    let r ← r.bumps? (size op.toList)
    some (⟨.operator, op.toList, .none⟩, r)
  | none => single? .unknown first r

/-- The lexeme that begins with the character `c`, which does not begin a word. -/
def lexeme? (c : Char) (r : Reader) : Option (Shown × Reader) := do
  let next ← r.peekAt? 1
  if c.isDigit then number? r r.offset
  else if c = '.' then
    if next.any Char.isDigit then number? r r.offset else single? .operator c r
  else if Lexeme.isQuote c then string? c r r.offset
  else if c = '/' ∧ next = some '/' then lineComment? r r.offset
  else if c = '/' ∧ next = some '*' then blockComment? r
  else if Lexeme.delimiters.contains c then single? .delimiter c r
  else operator? c r

/-! ### Reading forms -/

/-- What is read if a form comes next: the form as it is shown, and the reader behind it. -/
def found (read : List Char) (f : Form × List Char) : Shown × Reader :=
  (⟨f.1.kind, f.1.shown, f.1.flags⟩, .behind (read ++ f.1.word) f.2)

section Forms

variable {read : List Char} {c : Char} {cs : List Char}

/-- The text from where a word starts up to where it ends is the word. -/
theorem slice?_word (read word rest : List Char) :
    (Reader.behind (read ++ word) rest).slice? (size read) (size read + size word) = some word :=
  Reader.slice?_of_eq rfl rfl rfl

/-- The text from where a word starts up to the reader behind it is the word. -/
theorem slice?_behind (read word rest : List Char) :
    (Reader.behind (read ++ word) rest).slice? (size read)
      (Reader.behind (read ++ word) rest).offset = some word := by
  rw [Reader.offset_behind, size_append, slice?_word]

theorem number?_of_digit (h : Fits (read ++ c :: cs)) (hc : c.isDigit = true) :
    number? (.behind read (c :: cs)) (size read) =
      some (found read (Form.run .number .none Lexeme.isNumberPart c cs)) := by
  have hpart : Lexeme.isNumberPart c = true := by simp [Lexeme.isNumberPart, hc]
  have hne : c ≠ '.' := by
    rintro rfl
    contradiction
  rw [number?, Reader.eatWhile?_behind h, List.takeWhile_cons_of_pos hpart,
    List.dropWhile_cons_of_pos hpart]
  simp only [Option.bind_eq_bind, Option.bind_some, slice?_behind, List.head?_cons,
    Option.some.injEq, if_neg hne]
  rfl

theorem number?_dot (h : Fits (read ++ '.' :: cs)) :
    number? (.behind read ('.' :: cs)) (size read) =
      some (found read
        (Form.run .number { implicitLeadingZero := true } Lexeme.isNumberPart '.' cs)) := by
  have hpart : Lexeme.isNumberPart '.' = true := rfl
  rw [number?, Reader.eatWhile?_behind h, List.takeWhile_cons_of_pos hpart,
    List.dropWhile_cons_of_pos hpart]
  simp only [Option.bind_eq_bind, Option.bind_some, slice?_behind, List.head?_cons, if_true]
  rfl

theorem single?_behind (h : Fits (read ++ c :: cs)) (kind : Token.Kind) :
    single? kind c (.behind read (c :: cs)) =
      some (found read (Form.first kind .none 1 (c :: cs))) := by
  simp only [single?, Reader.bump?_behind_cons h, Option.bind_eq_bind, Option.bind_some]
  rfl

theorem le_stringLength (quote : Char) (k : Nat) (cs : List Char) :
    k ≤ (Lexeme.stringLength quote k cs).1 := by
  fun_induction Lexeme.stringLength quote k cs with
  | case1 => exact Nat.le_refl _
  | case2 => exact Nat.le_succ _
  | case3 k d cs ih => exact Nat.le_trans (Nat.le_add_right k 2) ih
  | case4 => exact Nat.le_succ _
  | case5 k c cs _ _ ih => exact Nat.le_trans (Nat.le_succ k) ih

/-- A string goes on behind a character that does not close it. -/
theorem closing?_of_bump? {quote : Char} {r r' : Reader} (h : r.bump? = some (some c, r'))
    (hescape : c ≠ '\\') :
    closing? quote r = if c = quote then some (true, r') else closing? quote r' := by
  rw [closing?]
  split <;> simp_all

/-- A string goes on behind the character that a backslash takes with it. -/
theorem closing?_of_escape {quote : Char} {r r' r'' : Reader} {d : Option Char}
    (h : r.bump? = some (some '\\', r')) (h' : r'.bump? = some (d, r'')) :
    closing? quote r = closing? quote r'' := by
  rw [closing?]
  split <;> simp_all
  split <;> simp_all

theorem closing?_nil (quote : Char) (read : List Char) :
    closing? quote (.behind read []) = some (false, .behind read []) := by
  rw [closing?]
  split <;> simp_all [Reader.bump?_behind_nil]

/-- The quote that closes a string is found where the string ends. -/
theorem closing?_behind (quote : Char) (k : Nat) (h : Fits (read ++ cs)) :
    closing? quote (.behind read cs) = some ((Lexeme.stringLength quote k cs).2,
      .behind (read ++ cs.take ((Lexeme.stringLength quote k cs).1 - k))
        (cs.drop ((Lexeme.stringLength quote k cs).1 - k))) := by
  -- The induction is that of the length; in each case what is taken moves to what has been read.
  fun_induction Lexeme.stringLength quote k cs generalizing read with
  | case1 k => simp [closing?_nil]
  | case2 k =>
    rw [closing?_of_escape (Reader.bump?_behind_cons h) Reader.bump?_behind_nil, closing?_nil]
    simp
  | case3 k d cs ih =>
    obtain ⟨n, hn⟩ := Nat.exists_eq_add_of_le (le_stringLength quote (k + 2) cs)
    rw [closing?_of_escape (Reader.bump?_behind_cons h) (Reader.bump?_behind_cons h.advance),
      ih h.advance.advance, hn]
    have htake : k + 2 + n - k = n + 2 := by omega
    simp [htake]
  | case4 k cs hescape =>
    rw [closing?_of_bump? (Reader.bump?_behind_cons h) hescape, if_pos rfl]
    simp
  | case5 k c cs hescape hquote ih =>
    obtain ⟨n, hn⟩ := Nat.exists_eq_add_of_le (le_stringLength quote (k + 1) cs)
    rw [closing?_of_bump? (Reader.bump?_behind_cons h) hescape, if_neg hquote, ih h.advance, hn]
    have htake : k + 1 + n - k = n + 1 := by omega
    simp [htake]

theorem string?_behind (h : Fits (read ++ c :: cs)) :
    string? c (.behind read (c :: cs)) (size read) = some (found read (Form.string c cs)) := by
  have hclosing := closing?_behind c 0 h.advance
  rw [Nat.sub_zero, List.append_assoc, List.singleton_append, ← List.take_succ_cons] at hclosing
  simp only [string?, Reader.bump?_behind_cons h, hclosing, Option.bind_eq_bind, Option.bind_some,
    slice?_behind]
  simp only [found, Form.string, Form.first, Form.shown, Form.shownText]
  simp

/-- A line comment is read up to the end of its line. -/
theorem lineComment?_behind (h : Fits (read ++ '/' :: '/' :: cs)) :
    lineComment? (.behind read ('/' :: '/' :: cs)) (size read) =
      some (found read (Form.run .comment .none (fun d => !isLineBreak d) '/' ('/' :: cs))) := by
  have hslash : (!isLineBreak '/') = true := by decide
  have hrun := List.takeWhile_cons_of_pos (p := (!isLineBreak ·)) (l := '/' :: cs) hslash
  have hrest := List.dropWhile_cons_of_pos (p := (!isLineBreak ·)) (l := '/' :: cs) hslash
  have hsplit : '/' :: '/' :: cs = ('/' :: ('/' :: cs).takeWhile (!isLineBreak ·)) ++
      ('/' :: cs).dropWhile (!isLineBreak ·) := by
    rw [List.cons_append, List.takeWhile_append_dropWhile]
  have hline : (Reader.behind read ('/' :: '/' :: cs)).lineEnd? =
      some (size read + size ('/' :: ('/' :: cs).takeWhile (!isLineBreak ·))) := by
    rw [Reader.lineEnd?_behind, hrun]
  rw [hsplit] at h
  have hjump := Reader.advanceTo?_behind h
  rw [← hsplit] at hjump
  simp only [lineComment?, hline, hjump, slice?_word, Option.bind_eq_bind, Option.bind_some]
  rfl

/-- A block comment is read through the first delimiter that closes it, or to the end. -/
theorem blockComment?_behind (h : Fits (read ++ '/' :: '*' :: cs)) :
    blockComment? (.behind read ('/' :: '*' :: cs)) = some (found read (Form.block cs)) := by
  have hbody := h.advance.advance
  simp only [blockComment?, Reader.bump?_behind_cons h, Reader.bump?_behind_cons h.advance,
    Option.bind_eq_bind, Option.bind_some, Reader.find?_behind, Form.block]
  cases hcut : cut? ['*', '/'] cs with
  | none =>
    have hend : Fits ((read ++ ['/'] ++ ['*']) ++ (cs ++ [])) := by rwa [List.append_nil]
    have hjump := Reader.advanceTo?_behind hend
    rw [List.append_nil] at hjump
    simp only [Option.map_none, Reader.text_behind, Reader.offset_behind, size_append _ cs, hjump,
      slice?_word, Option.bind_some]
    simp [found, Form.shown, Form.shownText, Lexeme.blockText]
  | some parts =>
    obtain ⟨body, rest⟩ := parts
    obtain rfl := append_of_cut? hcut
    have hdelimiter : size ['*', '/'] = 2 := rfl
    have hjump := Reader.advanceTo?_behind hbody
    have htext : (read ++ ['/'] ++ ['*'] ++ (body ++ ['*', '/'])) ++ rest =
        (read ++ ['/'] ++ ['*']) ++ body ++ (['*', '/'] ++ rest) := by
      simp only [List.append_assoc]
    have hslice := Reader.slice?_of_eq htext rfl rfl
    rw [size_append body, hdelimiter, ← Nat.add_assoc] at hjump
    simp only [Option.map_some, Reader.offset_behind, hjump, hslice, Option.bind_some]
    simp [found, Form.shown, Form.shownText, Lexeme.blockText]

/-- The characters ahead are looked at without failing. -/
theorem lookahead?_behind (h : Fits (read ++ cs)) (n : Nat) :
    lookahead? n (.behind read cs) =
      some (cs.take n, .behind (read ++ cs.take n) (cs.drop n)) := by
  induction n generalizing read cs with
  | zero => simp [lookahead?]
  | succ n ih =>
    cases cs with
    | nil => simp [lookahead?, Reader.bump?_behind_nil]
    | cons c cs =>
      simp [lookahead?, Reader.bump?_behind_cons h, ih h.advance]

/-- An operator is read as far as its spelling goes. -/
theorem operator?_behind (h : Fits (read ++ c :: cs)) :
    operator? c (.behind read (c :: cs)) = some (found read (Form.operator c cs)) := by
  -- Whatever has been looked at, the reader is back where it was.
  have hback : (Reader.behind ((read ++ [c]) ++ cs.take 2) (cs.drop 2)).restore
      (Reader.behind read (c :: cs)).position = .behind read (c :: cs) := by
    simp [Reader.restore, Reader.behind]
  simp only [operator?, Reader.bump?_behind_cons h, lookahead?_behind h.advance, Option.bind_eq_bind,
    Option.bind_some, hback, Form.operator]
  cases hop : longestOperator? c (cs.take 2) with
  | none => exact single?_behind h .unknown
  | some op =>
    obtain ⟨hmem, hprefix, -⟩ := isLongest_of_longestOperator? hop
    -- Operators are ASCII, so as many characters are read as the spelling has.
    have hsize : size op.toList = op.length := by
      have hall : ∀ op ∈ operatorSpellings, size op.toList = op.length := by decide
      exact hall op hmem
    have hword : (c :: cs).take op.length = op.toList := by
      have hbegins : op.toList <+: c :: cs :=
        hprefix.trans (List.cons_prefix_cons.mpr ⟨rfl, List.take_prefix 2 cs⟩)
      rw [← String.length_toList]
      exact (List.prefix_iff_eq_take.mp hbegins).symm
    simp only [hsize, Reader.bumps?_behind h, Option.bind_some, found, Form.first, Form.shown, hword]
    rfl

/-- In front of a text that fits, reading never fails and finds the form at the front. -/
theorem lexeme?_behind (h : Fits (read ++ c :: cs)) (hc : isIdentifierStart c = false) :
    lexeme? c (.behind read (c :: cs)) = some (found read (Form.front c cs)) := by
  simp only [lexeme?, Reader.peekAt?_behind, Option.bind_eq_bind, Option.bind_some,
    Reader.offset_behind, List.getElem?_cons_succ, ← List.head?_eq_getElem?, Form.front, hc,
    Bool.false_eq_true, if_false]
  split_ifs with hdigit hdot hfraction hquote hline hblock hdelimiter
  · exact number?_of_digit h hdigit
  · subst hdot
    exact number?_dot h
  · exact single?_behind h .operator
  · exact string?_behind h
  · obtain ⟨rfl, hnext⟩ := hline
    rw [Form.eq_cons_tail hnext] at h ⊢
    exact lineComment?_behind h
  · obtain ⟨rfl, hnext⟩ := hblock
    have hcs := Form.eq_cons_tail hnext
    rw [hcs] at h
    conv => lhs; rw [hcs]
    exact blockComment?_behind h
  · exact single?_behind h .delimiter
  · exact operator?_behind h

end Forms

end UsageScan.Checked
