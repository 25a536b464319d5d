import UsageScan.Proofs.Cursor
import UsageScan.Proofs.Text.Bytes
/-!
# Readers that can fail

A reader holds a whole text and counts how far it has come. Whatever it looks at it cuts out of the
text by byte offsets, and its counts are kept in 32 bits. So each of its operations can fail: a cut
may fall inside a character or past the end, a count may not fit, and a place to jump to may lie
behind the reader. A reader of a short text that stands where its counts say never fails, and then
does what a cursor does.

## Main definitions

* `Checked.count?` — a count in 32 bits
* `Checked.Reader` — a text with the position reached in it
* `Checked.Reader.bump?`, `Checked.Reader.eatWhile?`, `Checked.Reader.advanceTo?` — reading on
* `Checked.Reader.lineEnd?`, `Checked.Reader.find?` — searching through the bytes ahead
* `Checked.Reader.behind` — the reader between two parts of its text
* `Checked.Fits` — a text so short that all counts of its readers fit

## Main results

* `Checked.Reader.bump?_behind_cons`, `Checked.Reader.eatWhile?_behind`,
  `Checked.Reader.advanceTo?_behind` — reading on never fails
* `Checked.Reader.lineEnd?_behind`, `Checked.Reader.find?_behind` — a search finds an offset that
  can be read up to
-/

set_option autoImplicit false

namespace UsageScan.Checked

open Text

/-- A count that is kept in 32 bits, if it fits. -/
def count? (n : Nat) : Option Nat :=
  if n < UInt32.size then some n else none

theorem count?_of_lt {n : Nat} (h : n < UInt32.size) : count? n = some n :=
  if_pos h

/-- A text with the position reached in it. -/
structure Reader where
  text : List Char
  position : Position

namespace Reader

/-! ### Operations -/

/-- The reader before the first character of a text. -/
def ofText (text : List Char) : Reader :=
  ⟨text, .start⟩

/-- The byte offset of the next character. -/
def offset (r : Reader) : Nat :=
  r.position.offset

/-- The text between two byte offsets. -/
def slice? (r : Reader) (start stop : Nat) : Option (List Char) :=
  Text.slice? r.text start stop

/-- The text that has not been read. -/
def rest? (r : Reader) : Option (List Char) :=
  r.slice? r.offset (size r.text)

/-- Whether no text is left. -/
def atEnd (r : Reader) : Bool :=
  size r.text ≤ r.offset

/-- The character `n` places behind the next one. -/
def peekAt? (r : Reader) (n : Nat) : Option (Option Char) := do
  let rest ← r.rest?
  some rest[n]?

/-- The next character. -/
def peek? (r : Reader) : Option (Option Char) := do
  let rest ← r.rest?
  some rest.head?

/-- Reads the next character, if there is one. -/
def bump? (r : Reader) : Option (Option Char × Reader) :=
  match r.peek? with
  | none => none
  | some none => some (none, r)
  | some (some c) =>
    if isLineBreak c then do
      let newlines ← count? (r.position.newlines + 1)
      some (some c, ⟨r.text, ⟨r.offset + c.utf8Size, newlines, 0⟩⟩)
    else do
      let column ← count? (r.position.column + 1)
      some (some c, ⟨r.text, ⟨r.offset + c.utf8Size, r.position.newlines, column⟩⟩)

/-- Reads so many characters, or all there are. -/
def bumps? : Nat → Reader → Option Reader
  | 0, r => some r
  | n + 1, r => do
    let (_, r) ← r.bump?
    r.bumps? n

/-- The number of bytes that have not been read. -/
def left (r : Reader) : Nat :=
  size r.text - r.offset

/-- The line and the column of the next character. -/
def location? (r : Reader) : Option Location := do
  let line ← count? (r.position.newlines + 1)
  let column ← count? (r.position.column + 1)
  some ⟨line, column⟩

/-- Goes back to a position that the reader had before. -/
def restore (r : Reader) (p : Position) : Reader :=
  ⟨r.text, p⟩

/-- Jumps forward to a byte offset at which a character begins or the text ends. The line breaks on
the way are counted among the bytes, and the characters behind the last of them give the column. -/
def advanceTo? (r : Reader) (target : Nat) : Option Reader := do
  guard (r.offset ≤ target ∧ (splitAt? target r.text).isSome)
  let skipped ← r.slice? r.offset target
  match Bytes.findLast? (byte '\n') (utf8 skipped) with
  | some last =>
    let breaks ← count? ((utf8 skipped).count (byte '\n'))
    let newlines ← count? (r.position.newlines + breaks)
    let line ← Text.slice? skipped (last + 1) (size skipped)
    let column ← count? line.length
    some ⟨r.text, ⟨target, newlines, column⟩⟩
  | none =>
    let length ← count? skipped.length
    let column ← count? (r.position.column + length)
    some ⟨r.text, ⟨target, r.position.newlines, column⟩⟩

/-- The byte offset of the next line break, or of the end of the text. -/
def lineEnd? (r : Reader) : Option Nat := do
  let rest ← r.rest?
  some (((Bytes.find? (utf8 ['\n']) (utf8 rest)).map (r.offset + ·)).getD (size r.text))

/-- The byte offset at which some characters occur next. -/
def find? (r : Reader) (needle : List Char) : Option (Option Nat) := do
  let rest ← r.rest?
  some ((Bytes.find? (utf8 needle) (utf8 rest)).map (r.offset + ·))

/-! ### Progress -/

theorem exists_of_peek? {r : Reader} {c : Char} (h : r.peek? = some (some c)) :
    r.offset + c.utf8Size ≤ size r.text := by
  obtain ⟨rest, hrest, hc⟩ := Option.bind_eq_some_iff.mp h
  obtain ⟨before, behind, htext, hbefore, -⟩ := slice?_eq_some_iff.mp hrest
  obtain ⟨rest, rfl⟩ : ∃ tail, rest = c :: tail := by
    cases rest with
    | nil => cases hc
    | cons d tail =>
      cases hc
      exact ⟨tail, rfl⟩
  rw [htext, ← hbefore]
  simp only [size_append, size_cons]
  omega

/-- A character that has been read is not left. -/
theorem left_bump?_lt {r r' : Reader} {c : Char} (h : r.bump? = some (some c, r')) :
    r'.left < r.left := by
  have hpos := c.utf8Size_pos
  unfold bump? at h
  split at h
  case h_1 => cases h
  case h_2 => cases h
  case h_3 d hpeek =>
    have hle := exists_of_peek? hpeek
    split at h <;> obtain ⟨n, -, h⟩ := Option.bind_eq_some_iff.mp h <;> cases h <;>
      simp only [left, offset] at hle ⊢ <;> omega

theorem left_bump?_le {r r' : Reader} {c : Option Char} (h : r.bump? = some (c, r')) :
    r'.left ≤ r.left := by
  cases c with
  | some c => exact Nat.le_of_lt (left_bump?_lt h)
  | none =>
    unfold bump? at h
    split at h
    case h_1 => cases h
    case h_2 =>
      cases h
      exact Nat.le_refl _
    case h_3 =>
      split at h <;> obtain ⟨n, -, h⟩ := Option.bind_eq_some_iff.mp h <;> cases h

/-- Reads characters as long as they satisfy `p`. -/
def eatWhile? (p : Char → Bool) (r : Reader) : Option Reader :=
  match r.peek? with
  | none => none
  | some none => some r
  | some (some c) =>
    if p c then
      match _h : r.bump? with
      | some (some _, r') => eatWhile? p r'
      | some (none, r') => some r'
      | none => none
    else some r
termination_by r.left
decreasing_by exact left_bump?_lt _h

end Reader

/-! ### Readers between two parts of a text -/

/-- A text so short that its offsets, lines and columns fit into 32 bits. -/
def Fits (text : List Char) : Prop :=
  size text + 1 < UInt32.size

namespace Fits

variable {read rest : List Char}

/-- A text that fits does so wherever it is divided: here, behind its next character. -/
theorem advance {c : Char} (h : Fits (read ++ c :: rest)) : Fits ((read ++ [c]) ++ rest) := by
  rwa [List.append_assoc]

/-- A text that fits does so divided behind the run at its front. -/
theorem advanceWhile (h : Fits (read ++ rest)) (p : Char → Bool) :
    Fits ((read ++ rest.takeWhile p) ++ rest.dropWhile p) := by
  rwa [List.append_assoc, List.takeWhile_append_dropWhile]

/-- The bytes read can be counted. -/
theorem count?_size (h : Fits (read ++ rest)) : count? (size read) = some (size read) := by
  rw [Fits, size_append] at h
  exact count?_of_lt (by omega)

/-- One more line than has been read can be counted, and one more character in the last line. -/
theorem newlines_column_lt (h : Fits (read ++ rest)) :
    (Position.start.afterAll read).newlines + 1 < UInt32.size ∧
      (Position.start.afterAll read).column + 1 < UInt32.size := by
  have hnewlines := Position.newlines_start_afterAll_le read
  have hcolumn := Position.column_start_afterAll_le read
  rw [Fits, size_append] at h
  omega

end Fits

namespace Reader

/-- The reader that has read `read` and not yet `rest`. -/
def behind (read rest : List Char) : Reader :=
  ⟨read ++ rest, Position.start.afterAll read⟩

variable {read rest : List Char}

@[simp] theorem text_behind : (behind read rest).text = read ++ rest := rfl

@[simp] theorem position_behind : (behind read rest).position = .afterAll .start read := rfl

@[simp] theorem offset_behind : (behind read rest).offset = size read := by
  rw [offset, position_behind, Position.offset_start_afterAll]

@[simp] theorem atEnd_behind : (behind read rest).atEnd = rest.isEmpty := by
  cases rest with
  | nil => simp [atEnd]
  | cons c rest =>
    have hpos := c.utf8Size_pos
    simp [atEnd]
    omega

/-- The text between two parts is found by the offsets where it begins and ends. -/
theorem slice?_of_eq {before word after : List Char} {start stop : Nat}
    (htext : read ++ rest = before ++ word ++ after) (hstart : size before = start)
    (hstop : start + size word = stop) : (behind read rest).slice? start stop = some word :=
  slice?_eq_some_iff.mpr ⟨before, after, htext, hstart, hstop⟩

@[simp] theorem rest?_behind : (behind read rest).rest? = some rest := by
  have htext : read ++ rest = read ++ rest ++ [] := (List.append_nil _).symm
  exact slice?_of_eq htext offset_behind.symm (by simp)

@[simp] theorem peekAt?_behind (n : Nat) : (behind read rest).peekAt? n = some rest[n]? := by
  simp [peekAt?]

@[simp] theorem peek?_behind : (behind read rest).peek? = some rest.head? := by
  simp [peek?]

/-- In a text that fits, the lines and columns fit. -/
theorem location?_behind (h : Fits (read ++ rest)) :
    (behind read rest).location? = some (Position.start.afterAll read).location := by
  obtain ⟨hnewlines, hcolumn⟩ := h.newlines_column_lt
  rw [location?, position_behind, count?_of_lt hnewlines, Option.bind_eq_bind, Option.bind_some,
    count?_of_lt hcolumn]
  rfl

theorem bump?_behind_nil : (behind read []).bump? = some (none, behind read []) := by
  rw [bump?, peek?_behind]
  rfl

/-- Reading a character never fails. -/
theorem bump?_behind_cons {c : Char} (h : Fits (read ++ c :: rest)) :
    (behind read (c :: rest)).bump? = some (some c, behind (read ++ [c]) rest) := by
  obtain ⟨hnewlines, hcolumn⟩ := h.newlines_column_lt
  have hafter : Position.start.afterAll (read ++ [c]) = (Position.start.afterAll read).after c := by
    rw [Position.afterAll_append]
    rfl
  have hbehind : behind (read ++ [c]) rest =
      ⟨read ++ c :: rest, (Position.start.afterAll read).after c⟩ := by
    rw [behind, hafter, List.append_assoc, List.singleton_append]
  rw [bump?, peek?_behind, hbehind, Position.after]
  simp only [List.head?_cons, isLineBreak, beq_iff_eq, position_behind, text_behind, offset]
  split
  · rw [count?_of_lt hnewlines]
    rfl
  · rw [count?_of_lt hcolumn]
    rfl

/-- Reading several characters never fails. -/
theorem bumps?_behind (h : Fits (read ++ rest)) (n : Nat) :
    (behind read rest).bumps? n = some (behind (read ++ rest.take n) (rest.drop n)) := by
  induction n generalizing read rest with
  | zero => simp [bumps?]
  | succ n ih =>
    cases rest with
    | nil =>
      have hstays := ih h
      rw [List.take_nil, List.drop_nil] at hstays
      simp only [bumps?, bump?_behind_nil, Option.bind_eq_bind, Option.bind_some, List.take_nil,
        List.drop_nil, hstays]
    | cons c rest =>
      simp only [bumps?, bump?_behind_cons h, Option.bind_eq_bind, Option.bind_some, ih h.advance,
        List.take_succ_cons, List.drop_succ_cons, List.append_assoc, List.singleton_append]

/-- A run goes on behind a character that belongs to it. -/
theorem eatWhile?_of_bump? {r r' : Reader} {p : Char → Bool} {c : Char}
    (hpeek : r.peek? = some (some c)) (hc : p c = true) (h : r.bump? = some (some c, r')) :
    r.eatWhile? p = r'.eatWhile? p := by
  rw [eatWhile?, hpeek]
  simp only [hc, if_true]
  split <;> simp_all

/-- Reading a run of characters never fails. -/
theorem eatWhile?_behind (h : Fits (read ++ rest)) (p : Char → Bool) :
    (behind read rest).eatWhile? p =
      some (behind (read ++ rest.takeWhile p) (rest.dropWhile p)) := by
  induction rest generalizing read with
  | nil =>
    rw [eatWhile?, peek?_behind]
    simp
  | cons c rest ih =>
    by_cases hc : p c = true
    · rw [eatWhile?_of_bump? peek?_behind hc (bump?_behind_cons h), ih h.advance,
        List.takeWhile_cons_of_pos hc, List.dropWhile_cons_of_pos hc, List.append_assoc,
        List.singleton_append]
    · rw [eatWhile?, peek?_behind, List.takeWhile_cons_of_neg hc, List.dropWhile_cons_of_neg hc,
        List.append_nil]
      simp [hc]

/-- Jumping to the end of what comes next never fails. -/
theorem advanceTo?_behind {word : List Char} (h : Fits (read ++ (word ++ rest))) :
    (behind read (word ++ rest)).advanceTo? (size read + size word) =
      some (behind (read ++ word) rest) := by
  have hbehind : behind (read ++ word) rest =
      ⟨read ++ (word ++ rest), .afterAll (.afterAll .start read) word⟩ := by
    rw [behind, Position.afterAll_append, List.append_assoc]
  have htarget : size read ≤ size read + size word ∧
      (splitAt? (size read + size word) (read ++ (word ++ rest))).isSome = true := by
    rw [← size_append, ← List.append_assoc, splitAt?_size_append, size_append]
    exact ⟨Nat.le_add_right _ _, rfl⟩
  have hslice : (behind read (word ++ rest)).slice? (size read) (size read + size word) =
      some word :=
    slice?_of_eq (List.append_assoc ..).symm rfl rfl
  have hnewlines := Position.newlines_start_afterAll_le read
  have hcolumn := Position.column_start_afterAll_le read
  have hcount : word.count '\n' ≤ size word :=
    Nat.le_trans List.count_le_length (length_le_size word)
  have hlength := length_le_size word
  rw [Fits, size_append, size_append] at h
  simp only [advanceTo?, offset_behind, text_behind, position_behind, guard, htarget, and_self,
    if_true, hslice, Option.pure_def, Option.bind_eq_bind, Option.bind_some, hbehind]
  have hascii : IsAscii '\n' := by decide
  rw [count_utf8 hascii, Position.afterAll_eq _ word, Position.offset_start_afterAll]
  by_cases hbreak : '\n' ∈ word
  · -- The last break on the way is found where the last line begins.
    obtain ⟨as, bs, rfl, hbs⟩ := exists_last_break hbreak
    have hline : Text.slice? (as ++ '\n' :: bs) (size as + 1) (size (as ++ '\n' :: bs)) =
        some bs := by
      have hone : '\n'.utf8Size = 1 := rfl
      refine slice?_eq_some_iff.mpr ⟨as ++ ['\n'], [], by simp, by simp [hone], ?_⟩
      simp only [size_append, size_cons, hone]
      omega
    have hlast := length_le_size bs
    simp only [size_append, size_cons] at h hcount
    rw [findLast?_utf8_append hascii as hbs, Position.column_afterAll_append_cons _ as hbs]
    dsimp only
    rw [hline, count?_of_lt (by omega), Option.bind_some, count?_of_lt (by omega), Option.bind_some,
      Option.bind_some, count?_of_lt (by omega), Option.bind_some]
  · rw [Bytes.findLast?_of_not_mem (byte_notMem_utf8 hascii hbreak),
      Position.column_afterAll_of_notMem _ hbreak, List.count_eq_zero.mpr hbreak]
    dsimp only
    rw [count?_of_lt (by omega), Option.bind_some, count?_of_lt (by omega), Option.bind_some,
      Nat.add_zero]

/-- A text is cut at its first line break where its first line ends. -/
theorem getD_cut?_lineBreak (cs : List Char) :
    ((cut? ['\n'] cs).map fun parts => size parts.1).getD (size cs) =
      size (cs.takeWhile (!isLineBreak ·)) := by
  induction cs with
  | nil => rfl
  | cons c cs ih =>
    by_cases hc : c = '\n'
    · subst hc
      rfl
    · have hstart : ¬ ['\n'].isPrefixOf (c :: cs) = true := by
        simp [List.isPrefixOf, Ne.symm hc]
      rw [cut?, if_neg hstart, List.takeWhile_cons_of_pos (by simp [isLineBreak, hc]), size_cons,
        size_cons, ← ih]
      cases cut? ['\n'] cs <;> rfl

/-- The next line break is found where the line ends. -/
theorem lineEnd?_behind : (behind read rest).lineEnd? =
    some (size read + size (rest.takeWhile (!isLineBreak ·))) := by
  rw [lineEnd?, rest?_behind, Option.bind_eq_bind, Option.bind_some, find?_utf8, text_behind,
    offset_behind, size_append, ← getD_cut?_lineBreak]
  cases cut? ['\n'] rest <;> rfl

/-- Characters are found where the text is cut at them. -/
theorem find?_behind (needle : List Char) : (behind read rest).find? needle =
    some ((cut? needle rest).map fun parts => size read + size parts.1) := by
  simp [find?, find?_utf8, Function.comp_def]

end Reader

end UsageScan.Checked
