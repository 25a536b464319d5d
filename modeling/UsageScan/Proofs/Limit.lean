import UsageScan.Proofs.Lossless
import UsageScan.Proofs.Reached
/-!
# The length limit

A length limit changes what is shown and nothing else. Where a token begins and ends, of which kind
it is and whether a name follows it is decided before its text is cut. So a scan under a limit and a
scan without one go through the source side by side: before every request they stand at the same
place, and what they hand out differs in the texts and in the note that a text was cut.

## Main definitions

* `Token.clipped`, `Occurrence.clipped`, `Pull.clipped` — what is told without a limit, cut
* `Scanner.Beside` — a scan without a limit and one with a limit at the same place
* `Lockstep` — what a scan under a limit has in common with the scan without one

## Main results

* `Pull.read?_some` — one pull under a limit
* `Scanner.Beside.next`, `Scanner.Beside.drainFrom` — one request, and all of them
* `Pull.occurrencesFrom_some` — all that is come across under a limit
* `lockstep_scan` — a limit never makes a scan lose its place
-/

set_option autoImplicit false

namespace UsageScan

open Text

/-- The same settings with another length limit. -/
def Options.withLimit (o : Options) (limit : Option Nat) : Options :=
  { o with maxTokenLength := limit }

/-- A token with the first `n` characters of its text. -/
def Token.clipped (n : Nat) (t : Token) : Token :=
  { t with
    text := .ofList (t.text.toList.take n)
    flags := { t.flags with truncated := n < t.text.length } }

/-- An occurrence with the first `n` characters of its text or name. -/
def Occurrence.clipped (n : Nat) : Occurrence → Occurrence
  | token t stop => token (t.clipped n) stop
  | declaration name line offset stop => declaration (.ofList (name.toList.take n)) line offset stop
  | lineBreak => lineBreak
  | endOfText => endOfText

/-- A pull whose token and occurrences are clipped. -/
def Pull.clipped (n : Nat) (p : Pull) : Pull :=
  ⟨p.token.clipped n, p.occurrences.map (Occurrence.clipped n), p.stop⟩

/-- What a scan under a limit has in common with the scan without one. -/
structure Lockstep (source : String) (options : Options) (n : Nat) : Prop where
  /-- The tokens are the same but for their texts and the note that these were cut. -/
  tokens : (Scanner.ofSource source (options.withLimit (some n))).tokens =
    (Scanner.ofSource source (options.withLimit none)).tokens.map (Token.clipped n)
  /-- Without a limit no text is cut. -/
  whole : ∀ t ∈ (Scanner.ofSource source (options.withLimit none)).tokens,
    t.flags.truncated = false
  /-- Behind each token the same lines have been read. -/
  lines : (Scanner.ofSource source (options.withLimit (some n))).drain.1.toList.map ScanStep.lines =
    (Scanner.ofSource source (options.withLimit none)).drain.1.toList.map ScanStep.lines
  /-- In the end the same lines have been read. -/
  totalLines : (Scanner.ofSource source (options.withLimit (some n))).finish.totalLines =
    (Scanner.ofSource source (options.withLimit none)).finish.totalLines
  /-- The tokens declare the same names at the same places. -/
  declared : declaredIn source (options.withLimit (some n)) =
    declaredIn source (options.withLimit none)
  /-- So do the scans, under clipped names. -/
  told : (Pull.occurrencesFrom (some n) (.ofText source)).filterMap Occurrence.declared? =
    ((Pull.occurrencesFrom none (.ofText source)).filterMap Occurrence.declared?).map
      fun (name, line, offset) => (.ofList (name.toList.take n), line, offset)

/-! ### One pull -/

theorem Form.truncated_front (c : Char) (cs : List Char) :
    (front c cs).1.flags.truncated = false := by
  unfold front
  repeat' split
  all_goals try rfl
  · unfold block
    split <;> rfl
  · unfold operator
    split <;> rfl

namespace Lexeme

theorem truncated_of_read? {start : Cursor} {l : Lexeme} (h : read? start = some l) :
    l.flags.truncated = false := by
  obtain ⟨rest, p⟩ := start
  cases rest with
  | nil => contradiction
  | cons c cs =>
    rw [read?_cons] at h
    cases h
    exact Form.truncated_front c cs

/-- The token of a lexeme under a limit. Its span comes from the cursors alone. -/
theorem token?_some (n : Nat) (start : Cursor) {l : Lexeme} (h : l.flags.truncated = false) :
    l.token? (some n) start = (l.token? none start).map (Token.clipped n) := by
  simp only [token?]
  cases Span.between? start.offset l.stop.offset with
  | none => rfl
  | some span => simp [clip, Token.clipped, Token.Flags.union, h]

end Lexeme

namespace Pull

variable (n : Nat)

theorem map_clipped_lineBreaks (c d : Cursor) :
    (lineBreaks c d).map (Occurrence.clipped n) = lineBreaks c d := by
  rw [lineBreaks, List.map_replicate]
  rfl

/-- Where a declared name begins and ends does not depend on the limit. -/
theorem declaration?_some (start : Cursor) : declaration? (some n) start =
    (declaration? none start).map fun r => (r.1.map (Occurrence.clipped n), r.2) := by
  simp only [declaration?]
  split
  · cases start.textTo? (start.eatWhile isIdentifierPart) with
    | none => rfl
    | some name => simp [clip, Occurrence.clipped]
  · rfl

/-- Whether a name is looked for is decided by the whole text of the lexeme. -/
theorem declared?_some (l : Lexeme) : declared? (some n) l =
    (declared? none l).map fun r => (r.1.map (Occurrence.clipped n), r.2) := by
  simp only [declared?]
  split
  · rw [declaration?_some]
    cases declaration? none l.stop.skipBlanks with
    | none => rfl
    | some r => simp [map_clipped_lineBreaks]
  · rfl

/-- A pull under a limit is the pull without one, clipped. -/
theorem read?_some (start : Cursor) :
    read? (some n) start = (read? none start).map (clipped n) := by
  simp only [read?]
  cases hl : Lexeme.read? start with
  | none => rfl
  | some l =>
    have htoken := l.token?_some n start (Lexeme.truncated_of_read? hl)
    simp only [Option.bind_eq_bind, Option.bind_some, htoken, declared?_some]
    cases l.token? none start with
    | none => rfl
    | some token =>
      cases declared? none l with
      | none => rfl
      | some r =>
        -- The end is told in the same way, because the cursor behind the pull is the same.
        simp only [Option.map_some, Option.bind_some, clipped, List.map_cons, List.map_append,
          map_clipped_lineBreaks]
        split <;> rfl

/-- All that is come across under a limit is what is come across without one, clipped. -/
theorem occurrencesFrom_some (c : Cursor) :
    occurrencesFrom (some n) c = (occurrencesFrom none c).map (Occurrence.clipped n) := by
  induction c using occurrencesFrom.induct none with
  | case1 c ih =>
    have hread := read?_some n c.skipBlanks
    cases hpull : read? none c.skipBlanks with
    | none =>
      rw [hpull] at hread
      rw [occurrencesFrom_of_none hread, occurrencesFrom_of_none hpull, List.map_append,
        map_clipped_lineBreaks]
      rfl
    | some p =>
      rw [hpull] at hread
      rw [occurrencesFrom_of_some hread, occurrencesFrom_of_some hpull, List.map_append,
        List.map_append, map_clipped_lineBreaks]
      have hstop : (clipped n p).stop = p.stop := rfl
      rw [hstop]
      by_cases hend : p.stop.atEnd = true
      · rw [if_pos hend, if_pos hend]
        rfl
      · rw [if_neg hend, if_neg hend, ih p hpull]
        rfl

end Pull

/-! ### Two scans side by side -/

namespace Scanner

/-- A scan without a limit and a scan under a limit that stand at the same place. What they have
found is not compared. -/
structure Beside (n : Nat) (s s' : Scanner) : Prop where
  limit : s.limit = none
  limited : s'.limit = some n
  cursor : s'.cursor = s.cursor
  finished : s'.finished = s.finished

variable {n : Nat} {s s' : Scanner}

theorem beside_ofSource (n : Nat) (source : String) (options : Options) :
    Beside n (ofSource source (options.withLimit none))
      (ofSource source (options.withLimit (some n))) :=
  ⟨rfl, rfl, rfl, rfl⟩

/-- One more request leaves the two side by side, and both hand out a token or neither does. -/
theorem Beside.next (h : Beside n s s') :
    s'.next.1 = s.next.1.map (Token.clipped n) ∧ Beside n s.next.2 s'.next.2 := by
  cases hf : s.finished with
  | true =>
    rw [next_of_finished hf, next_of_finished (h.finished.trans hf)]
    exact ⟨rfl, h⟩
  | false =>
    have hf' : s'.finished = false := h.finished.trans hf
    have hread : Pull.read? s'.limit s'.cursor.skipBlanks =
        (Pull.read? s.limit s.cursor.skipBlanks).map (Pull.clipped n) := by
      rw [h.limit, h.limited, h.cursor, Pull.read?_some]
    cases hpull : Pull.read? s.limit s.cursor.skipBlanks with
    | none =>
      rw [hpull] at hread
      rw [next_of_none hf hpull, next_of_none hf' hread]
      exact ⟨rfl, h.limit, h.limited, by rw [h.cursor], rfl⟩
    | some p =>
      rw [hpull] at hread
      rw [next_of_some hf hpull, next_of_some hf' hread]
      exact ⟨rfl, h.limit, h.limited, rfl, rfl⟩

/-- All requests leave the two side by side, and their steps go through the same places. -/
theorem Beside.drainFrom (h : Beside n s s') (told told' : Nat) {steps steps' : Array ScanStep}
    (hsteps : steps'.toList.map (fun x => (x.token, x.lines)) =
      steps.toList.map fun x => (x.token.clipped n, x.lines)) :
    (s'.drainFrom told' steps').1.toList.map (fun x => (x.token, x.lines)) =
        (s.drainFrom told steps).1.toList.map (fun x => (x.token.clipped n, x.lines)) ∧
      Beside n (s.drainFrom told steps).2 (s'.drainFrom told' steps').2 := by
  fun_induction Scanner.drainFrom told s steps generalizing s' told' steps' with
  | case1 told s steps t hnext =>
    obtain ⟨htoken, hbeside⟩ := h.next
    rw [hnext] at htoken hbeside
    rw [drainFrom_none (Prod.ext htoken rfl)]
    exact ⟨hsteps, hbeside⟩
  | case2 told s steps token t hnext ih =>
    obtain ⟨htoken, hbeside⟩ := h.next
    rw [hnext] at htoken hbeside
    rw [drainFrom_some (Prod.ext htoken rfl)]
    apply ih hbeside
    -- The new steps agree because both scanners stand behind the same line breaks.
    have hlines : s'.next.2.lines = t.lines := by rw [lines, hbeside.cursor, lines]
    simp [hsteps, step, hlines]

theorem Beside.drain (h : Beside n s s') :
    s'.drain.1.toList.map (fun x => (x.token, x.lines)) =
        s.drain.1.toList.map (fun x => (x.token.clipped n, x.lines)) ∧
      Beside n s.drain.2 s'.drain.2 :=
  h.drainFrom _ _ rfl

end Scanner

/-- A limit never makes a scan lose its place. -/
theorem lockstep_scan (source : String) (options : Options) (n : Nat) :
    Lockstep source options n where
  tokens := by
    obtain ⟨hsteps, -⟩ := (Scanner.beside_ofSource n source options).drain
    have htokens := congrArg (List.map Prod.fst) hsteps
    rw [List.map_map, List.map_map] at htokens
    rw [Scanner.tokens, Scanner.tokens, List.map_map]
    exact htokens
  whole t ht := by
    rw [Scanner.tokens_eq_map_all, List.mem_map] at ht
    obtain ⟨s, -, rfl⟩ := ht
    have hform := Form.truncated_front s.first s.behind
    rw [← s.form_passage] at hform
    simp [Site.token, Passage.token, Options.withLimit, clip, Token.Flags.union, hform]
  lines := by
    obtain ⟨hsteps, -⟩ := (Scanner.beside_ofSource n source options).drain
    have hlines := congrArg (List.map Prod.snd) hsteps
    rw [List.map_map, List.map_map] at hlines
    exact hlines
  totalLines := by
    obtain ⟨-, hbeside⟩ := (Scanner.beside_ofSource n source options).drain
    have hnewlines := congrArg (fun c => c.position.newlines) hbeside.cursor
    exact hnewlines
  declared := by rw [declaredIn_eq, declaredIn_eq]
  told := by
    rw [Pull.occurrencesFrom_some, List.filterMap_map, List.map_filterMap]
    apply List.filterMap_congr
    intro o _
    cases o <;> rfl

end UsageScan
