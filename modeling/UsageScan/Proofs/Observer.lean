import UsageScan.Proofs.Reached
import UsageScan.Proofs.Telling
import UsageScan.Proofs.Semicolon
/-!
# The semicolon check only looks on

A scan that checks semicolons is, but for the check and for its warnings, the scan that does not. So
there is a way to forget the check, and it does not matter whether the check is forgotten before a
request for a token or behind it. That carries over to whole runs: without the warnings about
semicolons, a run with the check tells what the run without it tells.

## Main definitions

* `WarningLog.unchecked`, `Findings.unchecked`, `Scanner.unchecked` — without the check and its
  warnings
* `Observer` — what a run with the check has in common with the run without it

## Main results

* `Findings.observe_unchecked`, `Scanner.next_unchecked` — one occurrence, and one request
* `Scanner.Reads.unchecked` — the readings of a scanner
* `observer_run` — the check changes nothing but its own warnings
-/

set_option autoImplicit false

namespace UsageScan

/-- The same settings with the semicolon check or without it. -/
def Options.withCheck (o : Options) (check : Bool) : Options :=
  { o with checkSemicolons := check }

/-- Whether an event tells of a missing semicolon. -/
def Event.isSemicolon : Event → Bool
  | token _ => false
  | warning w => w.isSemicolon

/-- What a run with the semicolon check has in common with the run without it. -/
structure Observer (source : String) (options : Options) : Prop where
  /-- But for the warnings about semicolons, the same is told in the same order. -/
  events : (Run.ofSource source (options.withCheck true)).events.filter (!·.isSemicolon) =
    (Run.ofSource source (options.withCheck false)).events
  /-- The same tokens are handed out. -/
  tokens : (Scanner.ofSource source (options.withCheck true)).tokens =
    (Scanner.ofSource source (options.withCheck false)).tokens
  /-- The same names are declared and used. -/
  table : (Run.ofSource source (options.withCheck true)).result.table =
    (Run.ofSource source (options.withCheck false)).result.table
  /-- The same lines are read. -/
  totalLines : (Run.ofSource source (options.withCheck true)).result.totalLines =
    (Run.ofSource source (options.withCheck false)).result.totalLines
  /-- But for the warnings about semicolons, the same warnings remain in the same order. -/
  log : (Run.ofSource source (options.withCheck true)).result.log.toList.filter (!·.isSemicolon) =
    (Run.ofSource source (options.withCheck false)).result.log.toList

/-! ### Forgetting the check -/

/-- The warnings that are not about semicolons. -/
def WarningLog.unchecked (log : WarningLog) : WarningLog :=
  ⟨log.entries.filter (!·.isSemicolon)⟩

/-- What has been found by a scan that does not check semicolons. -/
def Findings.unchecked (f : Findings) : Findings :=
  ⟨⟨f.binder.table, f.log.unchecked⟩, none⟩

/-- A scanner at the same place that does not check semicolons. -/
def Scanner.unchecked (s : Scanner) : Scanner :=
  { s with findings := s.findings.unchecked }

/-- A reading by a scanner that does not check semicolons. -/
def Reading.unchecked (r : Reading) : Reading :=
  ⟨r.token, r.recorded.filter (!·.isSemicolon)⟩

namespace WarningLog

theorem toList_unchecked (log : WarningLog) :
    log.unchecked.toList = log.toList.filter (!·.isSemicolon) :=
  Array.toList_filter

/-- A warning about something else is recorded in both logs. -/
theorem add_unchecked (log : WarningLog) {w : Warning} (hw : w.isSemicolon = false) :
    (log.add w).unchecked = log.unchecked.add w := by
  simp [unchecked, add, hw]

/-- A warning about a semicolon is forgotten. -/
theorem unchecked_add (log : WarningLog) {w : Warning} (hw : w.isSemicolon = true) :
    (log.add w).unchecked = log.unchecked := by
  simp [unchecked, add, hw]

end WarningLog

namespace Findings

variable (f : Findings)

/-- For a scan that does not check semicolons, the end of a line means nothing. -/
theorem endLine_unchecked : f.endLine.unchecked = f.unchecked.endLine := by
  obtain ⟨b, lint⟩ := f
  cases lint with
  | none => rfl
  | some lint =>
    obtain ⟨pending, headerKeyword, headerDepth, depth⟩ := lint
    cases pending with
    | none => rfl
    | some place =>
      have hlog : (b.log.add (.missingSemicolon place)).unchecked = b.log.unchecked :=
        b.log.unchecked_add rfl
      simp only [endLine, SemicolonLint.endLine, Option.map_some, unchecked, log, Binder.report,
        hlog]

/-- A token is a use of a name in both scans, or in neither. -/
theorem follow_unchecked (t : Token) (lint : Option SemicolonLint) :
    (⟨f.binder.follow t, lint⟩ : Findings).unchecked = ⟨f.unchecked.binder.follow t, none⟩ := by
  by_cases ht : t.kind = .identifier
  · simp only [Binder.follow, if_pos ht, Binder.markUsed, unchecked]
    cases hmarked : f.binder.table.markUsed t.text with
    | mk declared table =>
      cases declared with
      | true => rfl
      | false =>
        have hlog := f.log.add_unchecked (w := .undeclared t.text) rfl
        exact congrArg (fun log => (⟨⟨f.binder.table, log⟩, none⟩ : Findings)) hlog
  · simp only [Binder.follow, if_neg ht]
    rfl

/-- It does not matter whether the check is forgotten before an occurrence or behind it. -/
theorem observe_unchecked (o : Occurrence) : (f.observe o).unchecked = f.unchecked.observe o := by
  cases o with
  | token t stop => exact f.follow_unchecked t _
  | declaration name line offset stop => rfl
  | lineBreak => exact f.endLine_unchecked
  | endOfText => exact f.endLine_unchecked

theorem observeAll_unchecked (seen : List Occurrence) :
    (f.observeAll seen).unchecked = f.unchecked.observeAll seen := by
  induction seen generalizing f with
  | nil => rfl
  | cons o seen ih => rw [observeAll_cons, ih, observe_unchecked, observeAll_cons]

end Findings

namespace Scanner

/-- It does not matter whether the check is forgotten before a request or behind it. -/
theorem next_unchecked (s : Scanner) : s.unchecked.next = (s.next.1, s.next.2.unchecked) := by
  -- Both scanners stand at the same place, so they go on in the same one of the three ways.
  cases hf : s.finished with
  | true => rw [next_of_finished hf, next_of_finished (s := s.unchecked) hf]
  | false =>
    cases hread : Pull.read? s.limit s.cursor.skipBlanks with
    | none =>
      rw [next_of_none hf hread, next_of_none (s := s.unchecked) hf hread]
      simp only [unchecked, Findings.observe_unchecked, Findings.observeAll_unchecked]
    | some p =>
      rw [next_of_some hf hread, next_of_some (s := s.unchecked) hf hread]
      simp only [unchecked, Findings.observeAll_unchecked]

theorem ofSource_unchecked (source : String) (options : Options) :
    (ofSource source (options.withCheck true)).unchecked =
      ofSource source (options.withCheck false) :=
  rfl

/-- Without the check, a scanner reads the same tokens, and what is recorded is the same but for the
warnings about semicolons. -/
theorem Reads.unchecked {s e : Scanner} {rs : List Reading} (h : Reads s rs e) :
    Reads s.unchecked (rs.map Reading.unchecked) e.unchecked := by
  have hlog (s : Scanner) : s.unchecked.findings.log.toList =
      s.findings.log.toList.filter (!·.isSemicolon) := s.findings.log.toList_unchecked
  induction h with
  | @none s s' hnext hsame =>
    refine .none ?_ ?_
    · rw [next_unchecked, hnext]
    · rw [hlog, hlog, hsame]
  | @some s s' e token ws rs hnext hws _ ih =>
    refine .some ?_ ?_ ih
    · rw [next_unchecked, hnext]
    · rw [hlog, hlog, hws, List.filter_append]

end Scanner

/-! ### What is told and what remains -/

/-- Of a reading, all is told but the warnings about semicolons. -/
theorem Reading.filter_events (r : Reading) :
    r.events.filter (!·.isSemicolon) = r.unchecked.events := by
  rw [events, List.filter_cons, List.filter_map]
  rfl

/-- The warnings about names that are not used are not about semicolons. -/
theorem SymbolTable.filter_not_isSemicolon_unusedWarnings (t : SymbolTable) :
    t.unusedWarnings.filter (!·.isSemicolon) = t.unusedWarnings := by
  rw [List.filter_eq_self]
  intro w hw
  simp [Warning.isSemicolon, kind_of_mem_unusedWarnings hw]

section Run

variable (source : String) (options : Options)

/-- In the end, the scan without the check is the scan with it, but for the check. -/
theorem Scanner.drain_unchecked : (ofSource source (options.withCheck true)).drain.2.unchecked =
    (ofSource source (options.withCheck false)).drain.2 := by
  obtain ⟨rs, e, hreads, -⟩ := exists_reads_ofSource source (options.withCheck true)
  have hchecked := (hreads.drainFrom 0 #[]).2
  have hunchecked := (hreads.unchecked.drainFrom 0 #[]).2
  rw [ofSource_unchecked] at hunchecked
  exact (congrArg unchecked hchecked).trans hunchecked.symm

theorem table_result_withCheck : (Run.ofSource source (options.withCheck true)).result.table =
    (Run.ofSource source (options.withCheck false)).result.table := by
  have htable := congrArg (fun s => s.findings.binder.table)
    (Scanner.drain_unchecked source options)
  rw [table_result_ofSource, table_result_ofSource]
  exact htable

/-- The check changes nothing but its own warnings. -/
theorem observer_run : Observer source options where
  events := by
    obtain ⟨rs, e, hreads, -⟩ := Scanner.exists_reads_ofSource source (options.withCheck true)
    have hunchecked := hreads.unchecked
    rw [Scanner.ofSource_unchecked] at hunchecked
    have hunused := SymbolTable.filter_not_isSemicolon_unusedWarnings
      (Run.ofSource source (options.withCheck false)).result.table
    rw [hreads.events_ofSource, hunchecked.events_ofSource, table_result_withCheck,
      List.filter_append, List.filter_flatMap, funext Reading.filter_events, List.flatMap_map,
      List.filter_map]
    exact congrArg (fun ws => _ ++ ws.map Event.warning) hunused
  tokens := by
    rw [Scanner.tokens_eq_map_all, Scanner.tokens_eq_map_all]
    rfl
  table := table_result_withCheck source options
  totalLines := by
    have hlines := congrArg Scanner.lines (Scanner.drain_unchecked source options)
    rw [Run.result_ofSource, Run.result_ofSource]
    exact hlines
  log := by
    have hlog := congrArg (fun s => s.findings.log.toList)
      (Scanner.drain_unchecked source options)
    have hscan : (Scanner.ofSource source (options.withCheck true)).finish.log.toList.filter
        (!·.isSemicolon) = (Scanner.ofSource source (options.withCheck false)).finish.log.toList :=
      (WarningLog.toList_unchecked _).symm.trans hlog
    rw [log_result_ofSource, log_result_ofSource, List.filter_append, hscan,
      SymbolTable.filter_not_isSemicolon_unusedWarnings, ← table_result_ofSource,
      ← table_result_ofSource, table_result_withCheck]

end Run

end UsageScan
