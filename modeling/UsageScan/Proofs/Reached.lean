import UsageScan.Proofs.Scan
/-!
# Reached scanners

A scanner is asked for tokens again and again. Whenever that stops, the text read so far and what is
in front of the scanner make up the source, and what has been come across so far and what still lies
ahead make up all that there is to come across.

## Main definitions

* `Scanner.Reached` — the scanners that can be reached from the start of a source
* `Scanner.ahead` — what a scanner has still to come across
* `Scanner.Stands` — how a scanner stands in its source

## Main results

* `Scanner.stands_next` — one more token
* `Scanner.stands_of_reached` — any number of tokens
* `Scanner.reached_drainFrom` — what handing out all tokens reaches
-/

set_option autoImplicit false

namespace UsageScan

open Text

/-! ### How far a cursor goes -/

/-- Skipping blanks reads some text. -/
theorem Cursor.exists_skipBlanks (c : Cursor) : ∃ blanks, c.rest = blanks ++ c.skipBlanks.rest ∧
    c.skipBlanks.position = c.position.afterAll blanks :=
  ⟨c.rest.takeWhile isBlank, List.takeWhile_append_dropWhile.symm, rfl⟩

namespace Pull

variable {limit : Option Nat} {c : Cursor}

/-- Where there is no pull, nothing is left. -/
theorem rest_eq_nil_of_read? (h : read? limit c = none) : c.rest = [] := by
  obtain ⟨rest, p⟩ := c
  cases rest with
  | nil => rfl
  | cons d ds =>
    rw [read?_cons] at h
    contradiction

/-- A pull reads some text. -/
theorem exists_stop_of_read? {p : Pull} (h : read? limit c = some p) :
    ∃ word, c.rest = word ++ p.stop.rest ∧ p.stop.position = c.position.afterAll word := by
  obtain ⟨rest, q⟩ := c
  cases rest with
  | nil => contradiction
  | cons d ds =>
    rw [read?_cons] at h
    cases h
    exact ⟨_, (Passage.append_front d ds).symm, rfl⟩

end Pull

namespace Scanner

/-- The scanners that can be reached from the start of a source. -/
inductive Reached (source : String) (options : Options) : Scanner → Prop where
  | ofSource : Reached source options (.ofSource source options)
  | next {s : Scanner} : Reached source options s → Reached source options s.next.2

/-- What a scanner has still to come across. -/
def ahead (s : Scanner) : List Occurrence :=
  if s.finished then [] else Pull.occurrencesFrom s.limit s.cursor

/-- How a scanner stands in its source. -/
structure Stands (source : String) (options : Options) (s : Scanner) : Prop where
  limit : s.limit = options.maxTokenLength
  /-- The text read and the text in front make up the source. -/
  read : ∃ read, source.toList = read ++ s.cursor.rest ∧ s.cursor.position = .afterAll .start read
  /-- Once the end has been seen, nothing is left. -/
  finished : s.finished = true → s.cursor.rest = []
  /-- What has been come across and what lies ahead make up all there is. -/
  seen : ∃ seen, s.findings = (Findings.start options.checkSemicolons).observeAll seen ∧
    seen ++ s.ahead = Pull.occurrencesFrom options.maxTokenLength (.ofText source)

/-! ### The three ways to go on -/

section Next

variable {s : Scanner}

theorem next_of_finished (h : s.finished = true) : s.next = (none, s) := by
  rw [next, if_pos h]

theorem next_of_none (hf : s.finished = false)
    (h : Pull.read? s.limit s.cursor.skipBlanks = none) :
    s.next = (none, ⟨s.limit, s.cursor.skipBlanks,
      (s.findings.observeAll (lineBreaks s.cursor s.cursor.skipBlanks)).observe .endOfText,
      true⟩) := by
  simp [next, hf, h]

theorem next_of_some (hf : s.finished = false) {p : Pull}
    (h : Pull.read? s.limit s.cursor.skipBlanks = some p) :
    s.next = (some p.token, ⟨s.limit, p.stop,
      (s.findings.observeAll (lineBreaks s.cursor s.cursor.skipBlanks)).observeAll p.occurrences,
      p.stop.atEnd⟩) := by
  simp [next, hf, h]

end Next

/-! ### One more token -/

section Stands

variable {source : String} {options : Options} {s : Scanner}

theorem stands_ofSource : Stands source options (.ofSource source options) where
  limit := rfl
  read := ⟨[], rfl, rfl⟩
  finished h := by contradiction
  seen := ⟨[], rfl, rfl⟩

/-- A further token leads on to where the blanks behind it end. -/
theorem stands_next (h : Stands source options s) : Stands source options s.next.2 := by
  cases hf : s.finished with
  | true =>
    rw [next_of_finished hf]
    exact h
  | false =>
    obtain ⟨read, hsource, hposition⟩ := h.read
    obtain ⟨seen, hfindings, hahead⟩ := h.seen
    obtain ⟨blanks, hblanks, hstart⟩ := s.cursor.exists_skipBlanks
    rw [ahead, if_neg (by simp [hf])] at hahead
    cases hread : Pull.read? s.limit s.cursor.skipBlanks with
    | none =>
      -- Only blanks were left: they are read, and the end is told.
      have hrest := Pull.rest_eq_nil_of_read? hread
      rw [next_of_none hf hread]
      refine ⟨h.limit, ⟨read ++ blanks, ?_, ?_⟩, fun _ => hrest, ?_⟩
      · rw [hsource, hblanks, List.append_assoc]
      · rw [hstart, hposition, Position.afterAll_append]
      · refine ⟨seen ++ (lineBreaks s.cursor s.cursor.skipBlanks ++ [.endOfText]), ?_, ?_⟩
        · rw [hfindings, Findings.observeAll_append, Findings.observeAll_append]
          rfl
        · rw [← hahead, Pull.occurrencesFrom_of_none hread, ahead, if_pos rfl, List.append_nil]
    | some p =>
      -- The pull reads on from the blanks and moves what it tells from ahead to seen.
      obtain ⟨word, hword, hstop⟩ := Pull.exists_stop_of_read? hread
      rw [next_of_some hf hread]
      refine ⟨h.limit, ⟨read ++ (blanks ++ word), ?_, ?_⟩, ?_, ?_⟩
      · rw [hsource, hblanks, hword]
        simp
      · rw [hstop, hstart, hposition, Position.afterAll_append, Position.afterAll_append]
      · intro hend
        simpa [Cursor.atEnd] using hend
      · refine ⟨seen ++ (lineBreaks s.cursor s.cursor.skipBlanks ++ p.occurrences), ?_, ?_⟩
        · rw [hfindings, Findings.observeAll_append, Findings.observeAll_append]
        · rw [← hahead, Pull.occurrencesFrom_of_some hread, ahead]
          simp

/-- However often a scanner is asked for a token, it stands in its source. -/
theorem stands_of_reached (h : Reached source options s) : Stands source options s := by
  induction h with
  | ofSource => exact stands_ofSource
  | next _ ih => exact stands_next ih

/-- Where there is no further token, nothing is left of the source. -/
theorem rest_eq_nil_of_next (h : Stands source options s) (hnext : s.next.1 = none) :
    s.next.2.cursor.rest = [] := by
  cases hf : s.finished with
  | true =>
    rw [next_of_finished hf]
    exact h.finished hf
  | false =>
    cases hread : Pull.read? s.limit s.cursor.skipBlanks with
    | none =>
      rw [next_of_none hf hread]
      exact Pull.rest_eq_nil_of_read? hread
    | some p =>
      rw [next_of_some hf hread] at hnext
      contradiction

/-! ### All tokens -/

/-- Handing out all tokens reaches the end of the source. -/
theorem reached_drainFrom (h : Reached source options s) (told : Nat) (steps : Array ScanStep) :
    Reached source options (s.drainFrom told steps).2 ∧
      (s.drainFrom told steps).2.cursor.rest = [] := by
  -- The recursion ends with the first request that is not answered by a token.
  fun_induction drainFrom told s steps with
  | case1 told s steps s' hnext =>
    have hs' : s' = s.next.2 := by rw [hnext]
    rw [hs']
    exact ⟨h.next, rest_eq_nil_of_next (stands_of_reached h) (by rw [hnext])⟩
  | case2 told s steps token s' hnext ih =>
    have hs' : s' = s.next.2 := by rw [hnext]
    rw [hs'] at ih ⊢
    exact ih h.next

end Stands

end Scanner

end UsageScan
