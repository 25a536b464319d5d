import UsageScan.Proofs.Reached
import UsageScan.Proofs.Recorded
/-!
# Progress

A request for a token is answered only by reading on, so requests run out of text after as many
tokens as there are characters at most. Then the end is told, once, which ends the last line, and
from there on a scanner stays as it is. It makes no difference how many tokens are asked for one by
one before the rest of the source is read at a stretch.

## Main definitions

* `Scanner.after` — a scanner behind some requests for a token
* `Scanner.taken`, `Scanner.takenIn` — what a scanner takes in at one request, and at several
* `Progress` — how the requests of a scan go on and come to an end

## Main results

* `Scanner.next_of_next_eq_none` — a request that is not answered leaves nothing to change
* `Scanner.exists_after_drainFrom` — reading to the end is a number of requests
* `Scanner.exists_takenIn_eq` — the end is told once, behind all else
* `progress_scan` — how the requests of any scan go on and come to an end
-/

set_option autoImplicit false

namespace UsageScan

open Text

namespace Scanner

/-- The scanner behind a number of requests for a token, whether these are answered or not. -/
def after (s : Scanner) : Nat → Scanner
  | 0 => s
  | k + 1 => s.next.2.after k

/-- What a scanner takes in at a request for a token. -/
def taken (s : Scanner) : List Occurrence :=
  if s.finished then []
  else
    lineBreaks s.cursor s.cursor.skipBlanks ++
      match Pull.read? s.limit s.cursor.skipBlanks with
      | none => [.endOfText]
      | some p => p.occurrences

/-- What a scanner takes in at a number of requests. -/
def takenIn (s : Scanner) : Nat → List Occurrence
  | 0 => []
  | k + 1 => s.taken ++ s.next.2.takenIn k

end Scanner

/-- How the requests of a scan go on and come to an end. -/
structure Progress (source : String) (options : Options) : Prop where
  /-- A request that is answered by a token reads some text. -/
  forward : ∀ s, Scanner.Reached source options s → ∀ t s', s.next = (some t, s') →
    ∃ read, read ≠ [] ∧ s.cursor.rest = read ++ s'.cursor.rest ∧
      s'.cursor.position = s.cursor.position.afterAll read
  /-- There are no more tokens than characters. -/
  tokens : (Scanner.ofSource source options).tokens.length ≤ source.length
  /-- Reading to the end is a number of requests that are answered and one that is not. There are no
  more of them than characters in front of the scanner, and the one. -/
  ends : ∀ s, Scanner.Reached source options s → ∃ k ≤ s.cursor.rest.length,
    (∀ j < k, (s.after j).next.1.isSome = true) ∧ (s.after k).next.1 = none ∧
      s.finish = (s.after (k + 1)).result
  /-- Behind a request that is not answered, no request is answered, and the scanner stays as it
  is. -/
  fused : ∀ s, Scanner.Reached source options s → ∀ s', s.next = (none, s') →
    ∀ k, (s'.after k).next = (none, s')
  /-- What remains of the scan does not depend on how many tokens are asked for, also if there are
  not so many. -/
  finish : ∀ k, ((Scanner.ofSource source options).pull k).2.finish =
      (Scanner.ofSource source options).finish ∧
    ((Scanner.ofSource source options).after k).finish = (Scanner.ofSource source options).finish
  /-- However many requests come before the reading to the end, what has been found comes of what
  all of them take in, and the end is among that once. It comes last, and so it ends the last line:
  if a semicolon may be missing there, that is warned about behind all that was warned about
  before. -/
  once : ∀ k, ∃ n before, k ≤ n ∧ ((Scanner.ofSource source options).after k).finish =
      ((Scanner.ofSource source options).after n).result ∧
    ((Scanner.ofSource source options).after n).findings =
      (Findings.start options.checkSemicolons).observeAll
        ((Scanner.ofSource source options).takenIn n) ∧
    ((Scanner.ofSource source options).takenIn n).count .endOfText = 1 ∧
    (Scanner.ofSource source options).takenIn n = before ++ [.endOfText] ∧
    ((Scanner.ofSource source options).after k).finish.log.toList =
      ((Findings.start options.checkSemicolons).observeAll before).log.toList ++
        ((Findings.start options.checkSemicolons).observeAll before).unended?.toList

namespace Scanner

variable {s s' : Scanner}

/-! ### One request -/

/-- A request that is answered by a token reads some text. -/
theorem exists_read_of_next {t : Token} (h : s.next = (some t, s')) :
    ∃ read, read ≠ [] ∧ s.cursor.rest = read ++ s'.cursor.rest ∧
      s'.cursor.position = s.cursor.position.afterAll read := by
  have hlt := length_next_lt h
  cases hf : s.finished with
  | true =>
    rw [next_of_finished hf] at h
    cases h
  | false =>
    cases hread : Pull.read? s.limit s.cursor.skipBlanks with
    | none =>
      rw [next_of_none hf hread] at h
      cases h
    | some p =>
      rw [next_of_some hf hread] at h
      cases h
      -- Blanks are read first, and then what the pull reads.
      obtain ⟨blanks, hblanks, hstart⟩ := s.cursor.exists_skipBlanks
      obtain ⟨word, hword, hstop⟩ := Pull.exists_stop_of_read? hread
      have hrest : s.cursor.rest = blanks ++ word ++ p.stop.rest := by
        rw [hblanks, hword, List.append_assoc]
      refine ⟨blanks ++ word, ?_, hrest, ?_⟩
      · intro hnil
        rw [hrest, hnil] at hlt
        exact Nat.lt_irrefl _ hlt
      · rw [hstop, hstart, Position.afterAll_append]

/-- A request that is not answered has seen the end. -/
theorem finished_of_next_eq_none (h : s.next.1 = none) : s.next.2.finished = true := by
  cases hf : s.finished with
  | true =>
    rw [next_of_finished hf]
    exact hf
  | false =>
    cases hread : Pull.read? s.limit s.cursor.skipBlanks with
    | none => rw [next_of_none hf hread]
    | some p =>
      rw [next_of_some hf hread] at h
      contradiction

/-- Behind a request that is not answered, no request is answered, and nothing changes. -/
theorem next_of_next_eq_none (h : s.next = (none, s')) : s'.next = (none, s') := by
  obtain rfl : s.next.2 = s' := congrArg Prod.snd h
  exact next_of_finished (finished_of_next_eq_none (congrArg Prod.fst h))

theorem taken_of_finished (hf : s.finished = true) : s.taken = [] :=
  if_pos hf

theorem taken_of_none (hf : s.finished = false)
    (h : Pull.read? s.limit s.cursor.skipBlanks = none) :
    s.taken = lineBreaks s.cursor s.cursor.skipBlanks ++ [.endOfText] := by
  simp [taken, hf, h]

theorem taken_of_some (hf : s.finished = false) {p : Pull}
    (h : Pull.read? s.limit s.cursor.skipBlanks = some p) :
    s.taken = lineBreaks s.cursor s.cursor.skipBlanks ++ p.occurrences := by
  simp [taken, hf, h]

/-- What has been found behind a request comes of what is taken in at it. -/
theorem findings_next (s : Scanner) : s.next.2.findings = s.findings.observeAll s.taken := by
  cases hf : s.finished with
  | true =>
    rw [next_of_finished hf, taken_of_finished hf]
    rfl
  | false =>
    cases hread : Pull.read? s.limit s.cursor.skipBlanks with
    | none =>
      rw [next_of_none hf hread, taken_of_none hf hread, Findings.observeAll_append]
      rfl
    | some p => rw [next_of_some hf hread, taken_of_some hf hread, Findings.observeAll_append]

end Scanner

/-! ### The end is told once -/

/-- In a passage, the end is not told. -/
theorem Passage.endOfText_notMem_occurrences (limit : Option Nat) (p : Position) (g : Passage) :
    .endOfText ∉ g.occurrences limit p := by
  intro hmem
  simp only [occurrences, lineBreaksIn, declaration, List.mem_cons, List.mem_append,
    List.mem_replicate, reduceCtorEq, and_false, false_or, or_false] at hmem
  split at hmem
  · contradiction
  · rw [List.mem_singleton] at hmem
    contradiction

/-- A pull tells the end exactly if it reaches the end, and then it tells it last. -/
theorem Pull.exists_occurrences_eq {limit : Option Nat} {c : Cursor} {p : Pull}
    (h : read? limit c = some p) : ∃ before, .endOfText ∉ before ∧
      p.occurrences = before ++ if p.stop.atEnd then [.endOfText] else [] := by
  obtain ⟨rest, q⟩ := c
  cases rest with
  | nil => contradiction
  | cons d ds =>
    rw [read?_cons] at h
    cases h
    exact ⟨_, Passage.endOfText_notMem_occurrences limit q _, rfl⟩

namespace Scanner

variable {s : Scanner}

/-- A scanner is told of the end at the request at which it sees the end, behind all else. -/
theorem exists_taken_eq (hf : s.finished = false) : ∃ before, .endOfText ∉ before ∧
    s.taken = before ++ if s.next.2.finished then [.endOfText] else [] := by
  have hbreaks : .endOfText ∉ lineBreaks s.cursor s.cursor.skipBlanks := by
    intro hmem
    cases List.eq_of_mem_replicate hmem
  cases hread : Pull.read? s.limit s.cursor.skipBlanks with
  | none =>
    rw [next_of_none hf hread, taken_of_none hf hread]
    exact ⟨_, hbreaks, rfl⟩
  | some p =>
    obtain ⟨before, hbefore, hoccurrences⟩ := Pull.exists_occurrences_eq hread
    refine ⟨lineBreaks s.cursor s.cursor.skipBlanks ++ before, ?_, ?_⟩
    · rw [List.mem_append, not_or]
      exact ⟨hbreaks, hbefore⟩
    · rw [next_of_some hf hread, taken_of_some hf hread, hoccurrences, List.append_assoc]

/-! ### Several requests -/

theorem after_add (s : Scanner) (j k : Nat) : s.after (j + k) = (s.after j).after k := by
  induction j generalizing s with
  | zero => rw [Nat.zero_add, after]
  | succ j ih =>
    rw [Nat.succ_add]
    exact ih s.next.2

theorem after_succ (s : Scanner) (k : Nat) : s.after (k + 1) = (s.after k).next.2 :=
  after_add s k 1

/-- A scanner that does not change at a request does not change at several. -/
theorem after_of_next (h : s.next = (none, s)) (k : Nat) : s.after k = s := by
  induction k with
  | zero => rfl
  | succ k ih => rw [after_succ, ih, h]

theorem findings_after (s : Scanner) (k : Nat) :
    (s.after k).findings = s.findings.observeAll (s.takenIn k) := by
  induction k generalizing s with
  | zero => rfl
  | succ k ih => rw [after, ih, findings_next, takenIn, Findings.observeAll_append]

/-- A scanner that has seen the end takes in nothing more. -/
theorem takenIn_of_finished (hf : s.finished = true) (k : Nat) : s.takenIn k = [] := by
  induction k with
  | zero => rfl
  | succ k ih => rw [takenIn, taken_of_finished hf, next_of_finished hf, ih, List.append_nil]

/-- However many requests there are, the end is told once if it is seen, behind all else, and else
not at all. -/
theorem exists_takenIn_eq (hf : s.finished = false) (k : Nat) : ∃ before, .endOfText ∉ before ∧
    s.takenIn k = before ++ if (s.after k).finished then [.endOfText] else [] := by
  induction k generalizing s with
  | zero => exact ⟨[], List.not_mem_nil, by rw [after, hf]; rfl⟩
  | succ k ih =>
    obtain ⟨first, hfirst, htaken⟩ := exists_taken_eq hf
    cases hnext : s.next.2.finished with
    | true =>
      -- The end is seen at the first request, and nothing comes behind it.
      have hstays := after_of_next (next_of_finished hnext) k
      refine ⟨first, hfirst, ?_⟩
      rw [takenIn, takenIn_of_finished hnext, List.append_nil, htaken, after, hstays]
    | false =>
      obtain ⟨behind, hbehind, htakenIn⟩ := ih hnext
      rw [hnext, if_neg Bool.false_ne_true, List.append_nil] at htaken
      refine ⟨first ++ behind, ?_, ?_⟩
      · rw [List.mem_append, not_or]
        exact ⟨hfirst, hbehind⟩
      · rw [takenIn, htaken, htakenIn, after, List.append_assoc]

/-- Handing out at most so many tokens is as many requests: behind the first one that is not
answered, all others change nothing. -/
theorem pullFrom_snd (count told : Nat) (s : Scanner) (steps : Array ScanStep) :
    (s.pullFrom count told steps).2 = s.after count := by
  induction count generalizing s told steps with
  | zero => rfl
  | succ count ih =>
    rw [pullFrom, after]
    cases hnext : s.next with
    | mk token s' =>
      cases token with
      | none => exact (after_of_next (next_of_next_eq_none hnext) count).symm
      | some token => exact ih ..

/-! ### Reading to the end -/

/-- Reading to the end is a number of requests that are answered, each by one token, and one that is
not. -/
theorem exists_after_drainFrom (told : Nat) (s : Scanner) (steps : Array ScanStep) :
    ∃ k ≤ s.cursor.rest.length, (∀ j < k, (s.after j).next.1.isSome = true) ∧
      (s.after k).next.1 = none ∧ (s.drainFrom told steps).2 = s.after (k + 1) ∧
      (s.drainFrom told steps).1.size = steps.size + k := by
  fun_induction drainFrom told s steps with
  | case1 told s steps s' hnext =>
    have hs' : s' = s.after 1 := by rw [after, hnext, after]
    refine ⟨0, Nat.zero_le _, ?_, congrArg Prod.fst hnext, hs', rfl⟩
    intro j hj
    contradiction
  | case2 told s steps token s' hnext ih =>
    obtain ⟨k, hle, hsome, hnone, hlast, hsize⟩ := ih
    have hlt := length_next_lt hnext
    -- The requests of the scanner behind this one come one later.
    have hafter (j : Nat) : s.after (j + 1) = s'.after j := by rw [after, hnext]
    refine ⟨k + 1, by omega, ?_, ?_, ?_, ?_⟩
    · intro j hj
      cases j with
      | zero =>
        rw [after, hnext]
        rfl
      | succ j =>
        rw [hafter]
        exact hsome j (by omega)
    · rw [hafter]
      exact hnone
    · rw [hafter]
      exact hlast
    · rw [hsize, Array.size_push]
      omega

/-- Where reading to the end leads does not depend on what has been handed out before. -/
theorem snd_drainFrom_congr (told told' : Nat) (s : Scanner) (steps steps' : Array ScanStep) :
    (s.drainFrom told steps).2 = (s.drainFrom told' steps').2 := by
  fun_induction drainFrom told s steps generalizing told' steps' with
  | case1 told s steps s' hnext => rw [drainFrom_none hnext]
  | case2 told s steps token s' hnext ih =>
    rw [drainFrom_some hnext]
    exact ih ..

/-- One request more before reading to the end makes no difference. -/
theorem finish_next (s : Scanner) : s.next.2.finish = s.finish := by
  cases hnext : s.next with
  | mk token s' =>
    cases token with
    | none => rw [finish, finish, drain, drain, drainFrom_none hnext,
        drainFrom_none (next_of_next_eq_none hnext)]
    | some token =>
      rw [finish, finish, drain, drain, drainFrom_some hnext]
      exact congrArg result (snd_drainFrom_congr ..)

theorem finish_after (s : Scanner) (k : Nat) : (s.after k).finish = s.finish := by
  induction k generalizing s with
  | zero => rfl
  | succ k ih => rw [after, ih, finish_next]

/-- Reading to the end behind some requests is some requests more, and the last of all that is taken
in at them is the end. -/
theorem exists_finish_eq (hf : s.finished = false) (k : Nat) : ∃ n before, k ≤ n ∧
    (s.after k).finish = (s.after n).result ∧ .endOfText ∉ before ∧
      s.takenIn n = before ++ [.endOfText] := by
  obtain ⟨m, -, -, hnone, hlast, -⟩ :=
    (s.after k).exists_after_drainFrom (s.after k).findings.log.size #[]
  have hfinish : (s.after k).finish = (s.after (k + (m + 1))).result := by
    rw [after_add]
    exact congrArg result hlast
  have hend : (s.after (k + (m + 1))).finished = true := by
    rw [after_add, after_succ]
    exact finished_of_next_eq_none hnone
  obtain ⟨before, hbefore, htaken⟩ := exists_takenIn_eq hf (k + (m + 1))
  rw [hend, if_pos rfl] at htaken
  exact ⟨k + (m + 1), before, Nat.le_add_right .., hfinish, hbefore, htaken⟩

end Scanner

/-- How the requests of any scan go on and come to an end. -/
theorem progress_scan (source : String) (options : Options) : Progress source options where
  forward s _ t s' h := Scanner.exists_read_of_next h
  tokens := by
    obtain ⟨k, hle, -, -, -, hsize⟩ :=
      Scanner.exists_after_drainFrom _ (Scanner.ofSource source options) #[]
    have hlength : (Scanner.ofSource source options).tokens.length = k := by
      rw [Scanner.tokens, List.length_map, Array.length_toList]
      exact hsize.trans (Nat.zero_add k)
    rw [hlength, ← String.length_toList]
    exact hle
  ends s _ := by
    obtain ⟨k, hle, hsome, hnone, hlast, -⟩ :=
      Scanner.exists_after_drainFrom s.findings.log.size s #[]
    exact ⟨k, hle, hsome, hnone, congrArg Scanner.result hlast⟩
  fused s _ s' h k := by
    have hfused := Scanner.next_of_next_eq_none h
    rw [Scanner.after_of_next hfused, hfused]
  finish k := by
    rw [Scanner.pull, Scanner.pullFrom_snd]
    exact ⟨Scanner.finish_after _ k, Scanner.finish_after _ k⟩
  once k := by
    obtain ⟨n, before, hle, hfinish, hbefore, htaken⟩ :=
      Scanner.exists_finish_eq (s := .ofSource source options) rfl k
    have hfindings := Scanner.findings_after (.ofSource source options) n
    refine ⟨n, before, hle, hfinish, hfindings, ?_, htaken, ?_⟩
    · rw [htaken, List.count_append, List.count_eq_zero.mpr hbefore]
      rfl
    · rw [hfinish, Scanner.result, hfindings, htaken, Findings.observeAll_append]
      exact Findings.log_endLine _

end UsageScan
