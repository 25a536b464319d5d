import UsageScan.Run
import UsageScan.Proofs.Recorded
/-!
# Readings

A reading is a token with the warnings that were recorded while it was pulled: what the log has
behind the pull and had not before. How the warnings are told in a run is another matter, because a
run only counts them. Since the log only grows at its end, the count always tells what is new.

## Main definitions

* `Reading` — a token with the warnings recorded while it was pulled
* `Scanner.Reads` — the readings of a scanner that is asked for tokens until none is left

## Main results

* `Scanner.Reads.tellFrom` — telling by counts tells the readings
* `Scanner.exists_reads_ofSource` — the readings of a whole source
-/

set_option autoImplicit false

namespace UsageScan

open Text

/-- A token with the warnings that were recorded while it was pulled. -/
structure Reading where
  token : Token
  recorded : List Warning
deriving DecidableEq, Repr

/-- What a step reads. -/
def ScanStep.reading (x : ScanStep) : Reading :=
  ⟨x.token, x.warnings⟩

/-- A reading as it is to be told: the token, then its warnings. -/
def Reading.events (r : Reading) : List Event :=
  .token r.token :: r.recorded.map .warning

namespace Run

theorem tellFrom_none {s s' : Scanner} {told : Nat} {events : Array Event}
    (h : s.next = (none, s')) : tellFrom told s events = (events, told, s') := by
  rw [tellFrom]
  split <;> simp_all

theorem tellFrom_some {s s' : Scanner} {told : Nat} {events : Array Event} {token : Token}
    (h : s.next = (some token, s')) : tellFrom told s events =
      tellFrom s'.findings.log.size s' (events ++ (s'.step told token).events) := by
  rw [tellFrom]
  split <;> simp_all

end Run

namespace Scanner

/-- The readings of the steps that a scanner makes until no token is left. -/
def readings (s : Scanner) : List Reading :=
  s.drain.1.toList.map ScanStep.reading

/-- The readings of a scanner that is asked for tokens until none is left, and the scanner then. The
request that is not answered by a token records nothing. -/
inductive Reads : Scanner → List Reading → Scanner → Prop where
  | none {s s' : Scanner} : s.next = (.none, s') →
      s'.findings.log.toList = s.findings.log.toList → Reads s [] s'
  | some {s s' e : Scanner} {token : Token} {ws : List Warning} {rs : List Reading} :
      s.next = (.some token, s') → s'.findings.log.toList = s.findings.log.toList ++ ws →
      Reads s' rs e → Reads s (⟨token, ws⟩ :: rs) e

variable {s s' e : Scanner} {rs : List Reading}

/-! ### What readings tell -/

/-- The log grows by what is recorded, reading by reading. -/
theorem Reads.log (h : Reads s rs e) :
    e.findings.log.toList = s.findings.log.toList ++ rs.flatMap Reading.recorded := by
  induction h with
  | none _ hlog => simpa using hlog
  | some _ hlog _ ih => rw [ih, hlog, List.flatMap_cons, List.append_assoc]

/-- Handing out all tokens hands out those of the readings. -/
theorem Reads.drainFrom (h : Reads s rs e) (told : Nat) (steps : Array ScanStep) :
    (s.drainFrom told steps).1.toList.map ScanStep.token =
        steps.toList.map ScanStep.token ++ rs.map Reading.token ∧
      (s.drainFrom told steps).2 = e := by
  induction h generalizing told steps with
  | none hnext _ =>
    rw [drainFrom_none hnext]
    exact ⟨(List.append_nil _).symm, rfl⟩
  | some hnext _ _ ih =>
    rw [drainFrom_some hnext]
    obtain ⟨htokens, hlast⟩ := ih _ _
    refine ⟨?_, hlast⟩
    rw [htokens]
    simp [step]

/-- A step comes with the warnings recorded while its token was pulled, if all before it have been
told. -/
theorem reading_step {t : Token} {ws : List Warning}
    (hlog : s'.findings.log.toList = s.findings.log.toList ++ ws) :
    (s'.step s.findings.log.size t).reading = ⟨t, ws⟩ := by
  rw [ScanStep.reading, step, WarningLog.since_eq_drop_toList, hlog,
    WarningLog.size_eq_length_toList, List.drop_left]

theorem Reads.map_reading_drainFrom (h : Reads s rs e) (steps : Array ScanStep) :
    (s.drainFrom s.findings.log.size steps).1.toList.map ScanStep.reading =
      steps.toList.map ScanStep.reading ++ rs := by
  induction h generalizing steps with
  | none hnext _ =>
    rw [drainFrom_none hnext]
    exact (List.append_nil _).symm
  | some hnext hlog _ ih => rw [drainFrom_some hnext, ih, Array.toList_push, List.map_append,
      List.map_singleton, reading_step hlog, List.append_assoc, List.singleton_append]

/-- The readings of a scanner are those of its steps. -/
theorem Reads.readings_eq (h : Reads s rs e) : s.readings = rs :=
  h.map_reading_drainFrom #[]

/-- A token handed out is told with the warnings recorded while it was pulled. -/
theorem events_step {t : Token} {ws : List Warning}
    (hlog : s'.findings.log.toList = s.findings.log.toList ++ ws) :
    (s'.step s.findings.log.size t).events = (⟨t, ws⟩ : Reading).events :=
  congrArg Reading.events (reading_step hlog)

/-- Telling by counts tells the readings, and in the end all warnings in the log have been told. -/
theorem Reads.tellFrom (h : Reads s rs e) (events : Array Event) :
    (Run.tellFrom s.findings.log.size s events).1.toList =
        events.toList ++ rs.flatMap Reading.events ∧
      (Run.tellFrom s.findings.log.size s events).2 = (e.findings.log.size, e) := by
  induction h generalizing events with
  | none hnext hlog =>
    rw [Run.tellFrom_none hnext]
    refine ⟨by simp, ?_⟩
    rw [WarningLog.size_eq_length_toList, WarningLog.size_eq_length_toList, hlog]
  | some hnext hlog _ ih =>
    rw [Run.tellFrom_some hnext, events_step hlog]
    obtain ⟨hevents, hlast⟩ := ih _
    refine ⟨?_, hlast⟩
    rw [hevents]
    simp

/-- Readings are decided by what a scanner does next. -/
theorem Reads.congr (h : Reads s' rs e) (hnext : s.next = s'.next)
    (hlog : s.findings.log.toList = s'.findings.log.toList) : Reads s rs e := by
  cases h with
  | none hnone hsame => exact .none (hnext.trans hnone) (hsame.trans hlog.symm)
  | some hsome hws hrest => exact .some (hnext.trans hsome) (by rw [hws, hlog]) hrest

/-! ### The readings of a source -/

/-- A scanner reads the passages in front of it. -/
theorem exists_reads_behind (limit : Option Nat) (p : Position) (f : Findings) (cs : List Char)
    (hcs : ∀ c ∈ cs.head?, isBlank c = false) :
    ∃ rs e, Reads (behind limit cs p f) rs e ∧ ∀ r ∈ rs, r.token.Brings r.recorded := by
  induction cs using Passage.all.induct generalizing p f with
  | case1 =>
    refine ⟨[], _, .none (next_behind_nil limit p f) rfl, ?_⟩
    intro r hr
    exact (List.not_mem_nil hr).elim
  | case2 c cs ih =>
    have hc : isBlank c = false := hcs c (by simp)
    have hrest : ∀ d ∈ (Passage.front c cs).2.head?, isBlank d = false :=
      fun d => Passage.isBlank_of_mem_head?_front c cs
    obtain ⟨ws, hlog, hbrings, -⟩ := exists_recorded limit p c cs f
    obtain ⟨rs, e, hreads, hall⟩ := ih _ _ hrest
    refine ⟨_ :: rs, e, .some (next_behind_cons limit p f cs hc) hlog hreads, ?_⟩
    intro r hr
    rcases List.mem_cons.mp hr with rfl | hr
    · exact hbrings
    · exact hall r hr

/-- The blanks at the start of a source bring about nothing: the readings of the source are those
behind its blanks. -/
theorem Reads.of_behind {source : String} {options : Options}
    (h : Reads (behind options.maxTokenLength (source.toList.dropWhile isBlank)
      (Position.start.afterAll (source.toList.takeWhile isBlank))
      ((Findings.start options.checkSemicolons).observeAll
        (Passage.lineBreaksIn (source.toList.takeWhile isBlank)))) rs e) :
    Reads (ofSource source options) rs e := by
  have hstart : (Findings.start options.checkSemicolons).unended? = Option.none := by
    cases hcheck : options.checkSemicolons <;>
      simp [Findings.start, Findings.unended?, SemicolonLint.start]
  obtain ⟨hlog, hquiet⟩ := Findings.observeAll_of_unended?
    (fun o (ho : o ∈ Passage.lineBreaksIn (source.toList.takeWhile isBlank)) =>
      Passage.endsLine_of_mem_lineBreaksIn ho) hstart
  refine h.congr (next_mk options.maxTokenLength .start _ source.toList) ?_
  -- If the source is blank, the end of it has been seen as well.
  rw [behind]
  split
  · have hend := Findings.log_endLine ((Findings.start options.checkSemicolons).observeAll
      (Passage.lineBreaksIn (source.toList.takeWhile isBlank)))
    rw [hlog, hquiet] at hend
    exact (hend.trans (List.append_nil _)).symm
  · exact hlog.symm

/-- A scanner reads its source. -/
theorem exists_reads_ofSource (source : String) (options : Options) :
    ∃ rs e, Reads (ofSource source options) rs e ∧ ∀ r ∈ rs, r.token.Brings r.recorded := by
  obtain ⟨rs, e, hreads, hall⟩ := exists_reads_behind options.maxTokenLength _ _
    (source.toList.dropWhile isBlank) fun _ => Passage.isBlank_of_mem_head?_dropWhile
  exact ⟨rs, e, .of_behind hreads, hall⟩

end Scanner

end UsageScan
