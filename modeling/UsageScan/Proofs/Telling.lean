import UsageScan.Proofs.Usage
/-!
# What a run tells

A run tells its source in groups: a token, then the warnings that were recorded while the token was
pulled. Behind the last group come the warnings about names that are not used, which the scan itself
has not recorded. So every token and every warning is told once, and a warning stands right behind
the token that brought it about.

## Main definitions

* `Telling` — what a run tells, in order

## Main results

* `Scanner.Reads.events_ofSource` — the events of a run, group by group
* `telling_run` — what any run tells
-/

set_option autoImplicit false

namespace UsageScan

/-- What a run tells, in order. -/
structure Telling (source : String) (options : Options) : Prop where
  /-- Each token is followed by what its pull recorded, and after the last group come the warnings
  about names that are not used. -/
  groups : ∃ rs e, Scanner.Reads (.ofSource source options) rs e ∧
    (∀ r ∈ rs, r.token.Brings r.recorded) ∧
    (Run.ofSource source options).events = rs.flatMap Reading.events ++
      (Run.ofSource source options).result.table.unusedWarnings.map .warning
  /-- The warnings behind the last group are all about names that are not used. -/
  last : ∀ w ∈ (Run.ofSource source options).result.table.unusedWarnings, w.kind = .unusedVariable
  /-- The tokens told are those of the scanner. -/
  tokens : (Run.ofSource source options).events.filterMap Event.token? =
    (Scanner.ofSource source options).tokens
  /-- The warnings told are those of the result. -/
  warnings : (Run.ofSource source options).events.filterMap Event.warning? =
    (Run.ofSource source options).result.log.toList

/-! ### Tokens and warnings among events -/

section FilterMap

variable (ws : List Warning) (rs : List Reading)

theorem filterMap_token?_warnings : (ws.map Event.warning).filterMap Event.token? = [] := by
  rw [List.filterMap_map, List.filterMap_eq_nil_iff]
  intro w _
  rfl

theorem filterMap_warning?_warnings : (ws.map Event.warning).filterMap Event.warning? = ws := by
  rw [List.filterMap_map]
  exact List.filterMap_some

/-- The tokens among the events of readings are those of the readings. -/
theorem filterMap_token?_readings :
    (rs.flatMap Reading.events).filterMap Event.token? = rs.map Reading.token := by
  have hone (r : Reading) : r.events.filterMap Event.token? = [r.token] := by
    have htoken : (Event.token r.token).token? = some r.token := rfl
    rw [Reading.events, List.filterMap_cons_some htoken, filterMap_token?_warnings]
  rw [List.filterMap_flatMap, funext hone, ← List.map_eq_flatMap]

/-- The warnings among the events of readings are those recorded. -/
theorem filterMap_warning?_readings :
    (rs.flatMap Reading.events).filterMap Event.warning? = rs.flatMap Reading.recorded := by
  have hone (r : Reading) : r.events.filterMap Event.warning? = r.recorded := by
    have htoken : (Event.token r.token).warning? = none := rfl
    rw [Reading.events, List.filterMap_cons_none htoken, filterMap_warning?_warnings]
  rw [List.filterMap_flatMap, funext hone]

end FilterMap

/-! ### The events of a run -/

variable (source : String) (options : Options)

theorem table_result_ofSource : (Run.ofSource source options).result.table =
    (Scanner.ofSource source options).finish.table := by
  rw [Run.result_ofSource]
  rfl

/-- A run tells the readings of its source, and then the warnings about names that are not used. -/
theorem Scanner.Reads.events_ofSource {rs : List Reading} {e : Scanner}
    (h : Reads (.ofSource source options) rs e) : (Run.ofSource source options).events =
      rs.flatMap Reading.events ++
        (Run.ofSource source options).result.table.unusedWarnings.map .warning := by
  obtain rfl : (Scanner.ofSource source options).drain.2 = e := (h.drainFrom 0 #[]).2
  obtain ⟨hevents, hlast⟩ := h.tellFrom #[]
  have hresult := log_result_ofSource source options
  -- All that the scan recorded has been told, so what is untold are the warnings added to it.
  have huntold : (Run.ofSource source options).result.log.since
      (Scanner.ofSource source options).drain.2.findings.log.size =
        (Run.ofSource source options).result.table.unusedWarnings := by
    rw [WarningLog.since_eq_drop_toList, hresult, table_result_ofSource]
    exact List.drop_left
  have hofSource : (Run.ofSource source options).events =
      (Run.tellFrom 0 (Scanner.ofSource source options) #[]).1.toList ++
        ((Run.ofSource source options).result.log.since
          (Run.tellFrom 0 (Scanner.ofSource source options) #[]).2.1).map .warning := rfl
  have htold : (Run.tellFrom 0 (Scanner.ofSource source options) #[]).2.1 =
      (Scanner.ofSource source options).drain.2.findings.log.size := congrArg Prod.fst hlast
  rw [hofSource, htold, huntold]
  exact congrArg (· ++ _) hevents

theorem Run.exists_events_ofSource :
    ∃ rs, Scanner.Reads (.ofSource source options) rs (Scanner.ofSource source options).drain.2 ∧
      (∀ r ∈ rs, r.token.Brings r.recorded) ∧
      (ofSource source options).events = rs.flatMap Reading.events ++
        (ofSource source options).result.table.unusedWarnings.map .warning := by
  obtain ⟨rs, e, hreads, hbrings⟩ := Scanner.exists_reads_ofSource source options
  obtain rfl : (Scanner.ofSource source options).drain.2 = e := (hreads.drainFrom 0 #[]).2
  exact ⟨rs, hreads, hbrings, hreads.events_ofSource⟩

/-- The warnings among the events of a run are those of its result, in order. -/
theorem Run.filterMap_warning?_events :
    (ofSource source options).events.filterMap Event.warning? =
      (ofSource source options).result.log.toList := by
  obtain ⟨rs, hreads, -, hevents⟩ := exists_events_ofSource source options
  have hlog := hreads.log
  rw [hevents, List.filterMap_append, filterMap_warning?_readings, filterMap_warning?_warnings,
    log_result_ofSource, table_result_ofSource]
  exact congrArg (· ++ _) hlog.symm

/-- No name that is declared and not used is warned about for another reason. -/
theorem SymbolTable.kind_of_mem_unusedWarnings {t : SymbolTable} {w : Warning}
    (h : w ∈ t.unusedWarnings) : w.kind = .unusedVariable := by
  obtain ⟨s, -, rfl⟩ := List.mem_map.mp h
  rfl

/-- What any run tells. -/
theorem telling_run : Telling source options where
  groups := by
    obtain ⟨rs, hreads, hbrings, hevents⟩ := Run.exists_events_ofSource source options
    exact ⟨rs, _, hreads, hbrings, hevents⟩
  last w hw := SymbolTable.kind_of_mem_unusedWarnings hw
  tokens := by
    obtain ⟨rs, hreads, -, hevents⟩ := Run.exists_events_ofSource source options
    have htokens := (hreads.drainFrom 0 #[]).1
    rw [hevents, List.filterMap_append, filterMap_token?_readings, filterMap_token?_warnings,
      List.append_nil]
    exact htokens.symm
  warnings := Run.filterMap_warning?_events source options

end UsageScan
