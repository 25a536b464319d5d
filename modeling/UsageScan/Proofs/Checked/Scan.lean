import UsageScan.Proofs.Checked.Token
import UsageScan.Proofs.Progress
/-!
# Scanning without failing

A scan is written out with every cut, jump and count that it makes, each of which may fail. If the
source takes fewer than `2 ^ 32 - 1` bytes, none of them ever does: however often a token is asked
for, there is an answer, and it is the scanner's.

What carries this is how a reached scanner stands: what it has read and what is in front of it make
up the source, its position is the one behind what it has read, and no more parentheses are open than
bytes have been read.

## Main definitions

* `Checked.Machine` — a scan under way whose steps may fail
* `Checked.Machine.next?`, `Checked.Machine.finish?` — the next token, and all of them
* `Unfailing` — that no step of a scan fails

## Main results

* `Scanner.depth_le_of_reached` — how many parentheses are open
* `Checked.Machine.next?_ofScanner` — a request for a token does not fail
* `unfailing_scan` — no scan of a source of fewer than `2 ^ 32 - 1` bytes ever fails
-/

set_option autoImplicit false

namespace UsageScan

open Text

/-! ### Open parentheses -/

/-- Whether something that is come across is a token. -/
def Occurrence.isToken : Occurrence → Bool
  | token _ _ => true
  | _ => false

namespace SemicolonLint

theorem depth_followParentheses_le (lint : SemicolonLint) (t : Token) :
    (lint.followParentheses t).depth ≤ lint.depth + 1 := by
  unfold followParentheses
  split
  · exact Nat.le_refl _
  · split
    · exact Nat.le_trans (Nat.sub_le ..) (Nat.le_succ _)
    · exact Nat.le_succ _

theorem depth_observe_le (lint : SemicolonLint) (t : Token) (stop : Location) :
    (lint.observe t stop).depth ≤ lint.depth + 1 := by
  unfold observe
  split
  · exact Nat.le_succ _
  · exact lint.depth_followParentheses_le t

end SemicolonLint

namespace Findings

theorem depth_endLine (f : Findings) : f.endLine.depth = f.depth := by
  obtain ⟨binder, lint⟩ := f
  cases lint with
  | none => rfl
  | some lint =>
    obtain ⟨pending, headerKeyword, headerDepth, depth⟩ := lint
    cases pending <;> rfl

/-- Only a token opens a parenthesis, and only one. -/
theorem depth_observe_le (f : Findings) (o : Occurrence) :
    (f.observe o).depth ≤ f.depth + if o.isToken then 1 else 0 := by
  cases o with
  | token t stop =>
    obtain ⟨binder, lint⟩ := f
    cases lint with
    | none => exact Nat.zero_le _
    | some lint => exact lint.depth_observe_le t stop
  | declaration name line offset stop =>
    obtain ⟨binder, lint⟩ := f
    cases lint <;> exact Nat.le_refl _
  | lineBreak => exact Nat.le_of_eq f.depth_endLine
  | endOfText => exact Nat.le_of_eq f.depth_endLine

theorem depth_observeAll_le (f : Findings) (seen : List Occurrence) :
    (f.observeAll seen).depth ≤ f.depth + seen.countP Occurrence.isToken := by
  induction seen generalizing f with
  | nil => exact Nat.le_refl _
  | cons o seen ih =>
    have hone := f.depth_observe_le o
    have hmore := ih (f.observe o)
    rw [observeAll_cons, List.countP_cons]
    omega

end Findings

theorem Passage.countP_isToken_lineBreaksIn (cs : List Char) :
    (lineBreaksIn cs).countP Occurrence.isToken = 0 := by
  simp [lineBreaksIn, List.countP_replicate, Occurrence.isToken]

theorem Passage.countP_isToken_occurrences (limit : Option Nat) (p : Position) (g : Passage) :
    (g.occurrences limit p).countP Occurrence.isToken = 1 := by
  have hname (q : Position) : (declaration limit q g.name).countP Occurrence.isToken = 0 := by
    unfold declaration
    split <;> rfl
  have htoken (t : Token) (place : Location) : (Occurrence.token t place).isToken = true := rfl
  simp only [occurrences, List.countP_cons_of_pos (htoken ..), List.countP_append,
    countP_isToken_lineBreaksIn, hname]

/-- What is come across in a pull is one token and what follows it. -/
theorem Pull.countP_isToken_occurrences {limit : Option Nat} {c : Cursor} {p : Pull}
    (h : read? limit c = some p) : p.occurrences.countP Occurrence.isToken = 1 := by
  obtain ⟨rest, q⟩ := c
  cases rest with
  | nil => contradiction
  | cons d ds =>
    rw [read?_cons] at h
    cases h
    rw [List.countP_append, Passage.countP_isToken_occurrences]
    split <;> rfl

namespace Scanner

/-- At a request, no more parentheses are opened than bytes are read. -/
theorem depth_next_le (s : Scanner) :
    s.next.2.findings.depth + s.cursor.offset ≤ s.findings.depth + s.next.2.cursor.offset := by
  have hblanks : (lineBreaks s.cursor s.cursor.skipBlanks).countP Occurrence.isToken = 0 := by
    simp [lineBreaks, List.countP_replicate, Occurrence.isToken]
  have hskip : s.cursor.offset ≤ s.cursor.skipBlanks.offset := by
    simp [Cursor.skipBlanks, Cursor.eatWhile, Cursor.offset]
  have hdepth := s.findings.depth_observeAll_le s.taken
  rw [← findings_next] at hdepth
  cases hf : s.finished with
  | true => rw [next_of_finished hf]
  | false =>
    cases hread : Pull.read? s.limit s.cursor.skipBlanks with
    | none =>
      rw [taken_of_none hf hread, List.countP_append, hblanks] at hdepth
      rw [next_of_none hf hread] at hdepth ⊢
      have hend : [Occurrence.endOfText].countP Occurrence.isToken = 0 := rfl
      simp only [hend] at hdepth ⊢
      omega
    | some p =>
      -- The one token that is come across takes at least one byte.
      obtain ⟨word, hword, hstop⟩ := Pull.exists_stop_of_read? hread
      have hne : word ≠ [] := by
        rintro rfl
        exact absurd (Pull.length_read?_lt hread) (by rw [hword]; exact Nat.lt_irrefl _)
      have hsize := size_pos hne
      have hoffset : p.stop.offset = s.cursor.skipBlanks.offset + size word := by
        rw [Cursor.offset, hstop, Position.offset_afterAll]
        rfl
      rw [taken_of_some hf hread, List.countP_append, hblanks,
        Pull.countP_isToken_occurrences hread] at hdepth
      rw [next_of_some hf hread] at hdepth ⊢
      simp only at hdepth ⊢
      omega

/-- No more parentheses are open than bytes have been read. -/
theorem depth_le_of_reached {source : String} {options : Options} {s : Scanner}
    (h : Reached source options s) : s.findings.depth ≤ s.cursor.offset := by
  induction h with
  | ofSource =>
    cases hcheck : options.checkSemicolons <;>
      simp [ofSource, Findings.start, Findings.depth, hcheck, SemicolonLint.start]
  | @next s _ ih =>
    have hnext := s.depth_next_le
    omega

end Scanner

/-! ### Requests that may fail -/

namespace Checked

/-- A scan under way. -/
structure Machine where
  limit : Option Nat
  reader : Reader
  findings : Findings
  /-- Whether the end of the source has been seen. -/
  finished : Bool

namespace Machine

/-- The scan before the first token of a source. -/
def ofSource (source : String) (options : Options) : Machine where
  limit := options.maxTokenLength
  reader := .ofText source.toList
  findings := .start options.checkSemicolons
  finished := false

/-- The next token, if there is one, and the scan behind it. -/
def next? (m : Machine) : Option (Option Token × Machine) :=
  if m.finished then some (none, m)
  else do
    let (r, f) ← skipBlanks? m.reader m.findings
    match ← r.peek? with
    | none => some (none, ⟨m.limit, r, f.endLine, true⟩)
    | some c =>
      let (t, r, f) ← token? m.limit c r f
      let (r, f) ← skipBlanks? r f
      if r.atEnd then some (some t, ⟨m.limit, r, f.endLine, true⟩)
      else some (some t, ⟨m.limit, r, f, false⟩)

/-- The scan behind a number of requests for a token. -/
def after? (m : Machine) : Nat → Option Machine
  | 0 => some m
  | k + 1 => do
    let (_, m) ← m.next?
    m.after? k

/-- What remains of a scan that has come this far. -/
def result (m : Machine) : ScanResult where
  table := m.findings.binder.table
  log := m.findings.log
  totalLines := m.reader.position.newlines

/-- Asks for tokens until there is none and returns what remains of the scan. There are at most `n`
requests. -/
def finish? (m : Machine) : Nat → Option ScanResult
  | 0 => none
  | n + 1 => do
    match ← m.next? with
    | (none, m) => some m.result
    | (some _, m) => m.finish? n

/-- The scan that has come as far as a scanner in a text. -/
def ofScanner (text : List Char) (s : Scanner) : Machine :=
  ⟨s.limit, ⟨text, s.cursor.position⟩, s.findings, s.finished⟩

end Machine

end Checked

open Checked

/-- That no step of a scan fails. -/
structure Unfailing (source : String) (options : Options) : Prop where
  /-- Wherever a scanner of the source comes to stand, asking for a token does not fail there, and
  does what the scanner does. -/
  next : ∀ s, Scanner.Reached source options s →
    (Machine.ofScanner source.toList s).next? =
      some (s.next.1, .ofScanner source.toList s.next.2)
  /-- No number of requests fails. -/
  after : ∀ k, (Machine.ofSource source options).after? k =
    some (.ofScanner source.toList ((Scanner.ofSource source options).after k))
  /-- Reading to the end does not fail, and comes to the end. -/
  finish : ∀ n, source.length < n →
    (Machine.ofSource source options).finish? n = some (Scanner.ofSource source options).finish
  /-- The span of a token does not end before it starts, nor beyond 32 bits. -/
  spans : ∀ s, Scanner.Reached source options s → ∀ t s', s.next = (some t, s') →
    t.span.start ≤ t.span.stop ∧ t.span.stop < UInt32.size
  /-- All counts that are kept fit into 32 bits. -/
  counts : ∀ s, Scanner.Reached source options s → s.cursor.offset < UInt32.size ∧
    s.cursor.location.line < UInt32.size ∧ s.cursor.location.column < UInt32.size ∧
      s.findings.depth < UInt32.size

/-- The token of a pull ends within the pull. -/
theorem Pull.span_token_of_read? {limit : Option Nat} {c : Cursor} {p : Pull}
    (h : read? limit c = some p) :
    p.token.span.start ≤ p.token.span.stop ∧ p.token.span.stop ≤ p.stop.offset := by
  obtain ⟨rest, q⟩ := c
  cases rest with
  | nil => contradiction
  | cons d ds =>
    rw [read?_cons] at h
    cases h
    simp only [Passage.token, Cursor.offset, Position.offset_afterAll, Passage.chars, size_append]
    omega

namespace Checked.Machine

/-! ### No request fails -/

section Next

variable {limit : Option Nat} {read rest : List Char} {f : Findings}

/-- Skipping the blanks of a passage reads all blanks there are. -/
theorem skipBlanks?_blanks {c : Char} {cs : List Char}
    (h : Fits (read ++ ((Passage.front c cs).1.blanks ++ (Passage.front c cs).2))) (f : Findings) :
    let g := (Passage.front c cs).1
    skipBlanks? (.behind read (g.blanks ++ (Passage.front c cs).2)) f =
      some (.behind (read ++ g.blanks) (Passage.front c cs).2,
        f.observeAll (Passage.lineBreaksIn g.blanks)) := by
  intro g
  obtain ⟨ds, hblanks, hrest⟩ := Passage.exists_blanks_ofForm (Form.front c cs).1 (Form.front c cs).2
  rw [skipBlanks?_behind h]
  simp only [g, Passage.front, hblanks, hrest, List.takeWhile_append_dropWhile]

/-- A request in front of blanks goes on like the one behind them. -/
theorem next?_skipBlanks (h : Fits (read ++ rest)) (f : Findings) :
    let blanks := rest.takeWhile isBlank
    (⟨limit, .behind read rest, f, false⟩ : Machine).next? =
      (⟨limit, .behind (read ++ blanks) (rest.dropWhile isBlank),
        f.observeAll (Passage.lineBreaksIn blanks), false⟩ : Machine).next? := by
  intro blanks
  have hbody : Fits ((read ++ blanks) ++ rest.dropWhile isBlank) := h.advanceWhile isBlank
  -- Behind the blanks, blanks are skipped again, but there are none.
  have hagain := skipBlanks?_behind hbody (f.observeAll (Passage.lineBreaksIn blanks))
  rw [Cursor.takeWhile_isBlank_dropWhile, List.dropWhile_idempotent, List.append_nil] at hagain
  simp only [next?, Bool.false_eq_true, if_false, skipBlanks?_behind h, hagain]
  rfl

/-- At the end, a request is answered by no token. -/
theorem next?_behind_nil (h : Fits read) :
    (⟨limit, .behind read [], f, false⟩ : Machine).next? =
      some (none, ofScanner read (.behind limit [] (.afterAll .start read) f)) := by
  have hend : Fits (read ++ []) := by rwa [List.append_nil]
  have hskip := skipBlanks?_behind hend f
  simp only [next?, Bool.false_eq_true, if_false, hskip, Reader.peek?_behind, Option.bind_eq_bind,
    Option.bind_some, List.dropWhile_nil, List.head?_nil]
  simp [ofScanner, Scanner.behind, Reader.behind, Passage.lineBreaksIn, Findings.observe]

/-- In front of a passage, a request hands out its token and goes behind it. -/
theorem next?_behind_cons {c : Char} {cs : List Char} (h : Fits (read ++ c :: cs))
    (hdepth : f.depth ≤ size read) (hc : isBlank c = false) :
    let p := Position.start.afterAll read
    let g := (Passage.front c cs).1
    (⟨limit, .behind read (c :: cs), f, false⟩ : Machine).next? = some (some (g.token limit p),
      ofScanner (read ++ c :: cs) (.behind limit (Passage.front c cs).2 (p.afterAll g.chars)
        (f.observeAll (g.occurrences limit p)))) := by
  intro p g
  have hskip : skipBlanks? (.behind read (c :: cs)) f = some (.behind read (c :: cs), f) := by
    have hblanks := skipBlanks?_behind h f
    rw [List.takeWhile_cons_of_neg (by simp [hc]), List.dropWhile_cons_of_neg (by simp [hc]),
      List.append_nil] at hblanks
    exact hblanks
  have htext : (read ++ g.core) ++ (g.blanks ++ (Passage.front c cs).2) = read ++ c :: cs := by
    rw [List.append_assoc, ← List.append_assoc g.core, ← Passage.chars_eq, Passage.append_front]
  have hbehind : Reader.behind (read ++ g.core ++ g.blanks) (Passage.front c cs).2 =
      ⟨read ++ c :: cs, p.afterAll g.chars⟩ := by
    rw [Reader.behind, List.append_assoc _ g.blanks, htext, List.append_assoc, ← Passage.chars_eq,
      Position.afterAll_append]
  -- Behind the token and its name, just the blanks of the passage are left to skip.
  have hblanks : skipBlanks? (.behind (read ++ g.core) (g.blanks ++ (Passage.front c cs).2))
      (f.observeAll (g.coreOccurrences limit p)) =
        some (⟨read ++ c :: cs, p.afterAll g.chars⟩, f.observeAll (g.occurrences limit p)) := by
    rw [← hbehind, Passage.occurrences_eq, Findings.observeAll_append]
    exact skipBlanks?_blanks (by rwa [htext]) _
  have hend : (⟨read ++ c :: cs, p.afterAll g.chars⟩ : Reader).atEnd =
      (Passage.front c cs).2.isEmpty := by
    rw [← hbehind, Reader.atEnd_behind]
  simp only [next?, Bool.false_eq_true, if_false, hskip, Reader.peek?_behind, Option.bind_eq_bind,
    Option.bind_some, List.head?_cons, token?_behind h hdepth]
  rw [hblanks, Option.bind_some, hend, Scanner.behind]
  cases (Passage.front c cs).2 <;> rfl

/-- A request of a scanner that has not seen the end does not fail. -/
theorem next?_behind (h : Fits (read ++ rest)) (hdepth : f.depth ≤ size read) :
    let s : Scanner := ⟨limit, ⟨rest, .afterAll .start read⟩, f, false⟩
    (ofScanner (read ++ rest) s).next? = some (s.next.1, ofScanner (read ++ rest) s.next.2) := by
  intro s
  let blanks := rest.takeWhile isBlank
  have htext : read ++ rest = (read ++ blanks) ++ rest.dropWhile isBlank := by
    rw [List.append_assoc, List.takeWhile_append_dropWhile]
  have hbefore : (f.observeAll (Passage.lineBreaksIn blanks)).depth ≤ size (read ++ blanks) := by
    have hle := f.depth_observeAll_le (Passage.lineBreaksIn blanks)
    rw [Passage.countP_isToken_lineBreaksIn] at hle
    rw [size_append]
    omega
  have hmachine : ofScanner (read ++ rest) s = ⟨limit, .behind read rest, f, false⟩ := rfl
  rw [hmachine, next?_skipBlanks h, Scanner.next_mk, ← Position.afterAll_append, htext]
  rw [htext] at h
  cases hbody : rest.dropWhile isBlank with
  | nil =>
    rw [hbody, List.append_nil] at h
    rw [Scanner.next_behind_nil, List.append_nil]
    exact next?_behind_nil h
  | cons c cs =>
    have hhead : c ∈ (rest.dropWhile isBlank).head? := by
      rw [hbody]
      rfl
    have hc : isBlank c = false := Passage.isBlank_of_mem_head?_dropWhile hhead
    rw [hbody] at h
    rw [Scanner.next_behind_cons _ _ _ cs hc]
    exact next?_behind_cons h hbefore hc

end Next

section Source

variable {source : String} {options : Options} {s : Scanner}

/-- In a source that fits, a request of a reached scanner does not fail. -/
theorem next?_ofScanner (h : Fits source.toList) (hs : Scanner.Reached source options s) :
    (ofScanner source.toList s).next? = some (s.next.1, ofScanner source.toList s.next.2) := by
  cases hf : s.finished with
  | true =>
    rw [Scanner.next_of_finished hf]
    simp [next?, ofScanner, hf]
  | false =>
    -- The scanner stands behind what it has read, and that bounds the open parentheses.
    have hdepth := Scanner.depth_le_of_reached hs
    obtain ⟨read, hsource, hposition⟩ := (Scanner.stands_of_reached hs).read
    obtain ⟨limit, ⟨rest, p⟩, f, finished⟩ := s
    obtain rfl : finished = false := hf
    obtain rfl : p = .afterAll .start read := hposition
    rw [Cursor.offset, Position.offset_start_afterAll] at hdepth
    rw [hsource] at h ⊢
    exact next?_behind h hdepth

theorem after?_ofScanner (h : Fits source.toList) (hs : Scanner.Reached source options s) (k : Nat) :
    (ofScanner source.toList s).after? k = some (ofScanner source.toList (s.after k)) := by
  induction k generalizing s with
  | zero => rfl
  | succ k ih =>
    rw [after?, next?_ofScanner h hs, Option.bind_eq_bind, Option.bind_some]
    exact ih hs.next

/-- As many requests as there are characters left, and one more, read to the end. -/
theorem finish?_ofScanner (h : Fits source.toList) (hs : Scanner.Reached source options s) {n : Nat}
    (hn : s.cursor.rest.length < n) : (ofScanner source.toList s).finish? n = some s.finish := by
  -- Each request that is answered leaves fewer characters, so the requests last.
  induction n generalizing s with
  | zero => exact absurd hn (Nat.not_lt_zero _)
  | succ n ih =>
    rw [finish?, next?_ofScanner h hs, Option.bind_eq_bind, Option.bind_some]
    cases hnext : s.next with
    | mk t s' =>
      obtain rfl : s.next.2 = s' := congrArg Prod.snd hnext
      cases t with
      | none =>
        rw [Scanner.finish, Scanner.drain, Scanner.drainFrom_none hnext]
        rfl
      | some t =>
        have hlt := Scanner.length_next_lt hnext
        rw [← Scanner.finish_next]
        exact ih hs.next (Nat.lt_of_lt_of_le hlt (Nat.le_of_lt_succ hn))

/-- In a source that fits, all counts of a reached scanner fit into 32 bits. -/
theorem counts_of_reached (h : Fits source.toList) (hs : Scanner.Reached source options s) :
    s.cursor.offset < UInt32.size ∧ s.cursor.location.line < UInt32.size ∧
      s.cursor.location.column < UInt32.size ∧ s.findings.depth < UInt32.size := by
  have hdepth := Scanner.depth_le_of_reached hs
  obtain ⟨read, hsource, hposition⟩ := (Scanner.stands_of_reached hs).read
  rw [hsource] at h
  obtain ⟨hnewlines, hcolumn⟩ := h.newlines_column_lt
  rw [Cursor.offset, hposition, Position.offset_start_afterAll] at hdepth
  rw [Fits, size_append] at h
  simp only [Cursor.offset, Cursor.location, Position.location, hposition,
    Position.offset_start_afterAll]
  omega

theorem span_of_next (h : Fits source.toList) (hs : Scanner.Reached source options s) {t : Token}
    {s' : Scanner} (hnext : s.next = (some t, s')) :
    t.span.start ≤ t.span.stop ∧ t.span.stop < UInt32.size := by
  obtain ⟨hoffset, -⟩ := counts_of_reached h hs.next
  cases hf : s.finished with
  | true =>
    rw [Scanner.next_of_finished hf] at hnext
    cases hnext
  | false =>
    cases hread : Pull.read? s.limit s.cursor.skipBlanks with
    | none =>
      rw [Scanner.next_of_none hf hread] at hnext
      cases hnext
    | some p =>
      rw [Scanner.next_of_some hf hread] at hnext hoffset
      cases hnext
      obtain ⟨horder, hstop⟩ := Pull.span_token_of_read? hread
      exact ⟨horder, Nat.lt_of_le_of_lt hstop hoffset⟩

end Source

end Checked.Machine

/-- No scan of a source of fewer than `2 ^ 32 - 1` bytes ever fails. -/
theorem unfailing_scan (source : String) (options : Options)
    (h : size source.toList < UInt32.size - 1) : Unfailing source options := by
  have hfits : Fits source.toList := Nat.add_lt_of_lt_sub h
  exact {
    next := fun s hs => Machine.next?_ofScanner hfits hs
    after := Machine.after?_ofScanner hfits .ofSource
    finish := fun n hn => Machine.finish?_ofScanner hfits .ofSource (by
      rwa [← String.length_toList] at hn)
    spans := fun s hs t s' hnext => Machine.span_of_next hfits hs hnext
    counts := fun s hs => Machine.counts_of_reached hfits hs }

/-- A string that the source ends in behind a backslash, among characters of two bytes. -/
theorem unfailing_scan_open : size "var é = (\"ß\\".toList < UInt32.size - 1 ∧
    Unfailing "var é = (\"ß\\" ⟨true, some 1, none, true⟩ :=
  ⟨by decide, unfailing_scan _ _ (by decide)⟩

end UsageScan
