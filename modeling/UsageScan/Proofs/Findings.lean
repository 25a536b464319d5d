import UsageScan.Findings
import UsageScan.Proofs.History
import Mathlib.Data.List.Basic
/-!
# What is found in occurrences

What a scan comes across asks the binder for some operations, each at the byte offset where it
stands in the source. The semicolon check only adds reports between them. So the symbols and the
warnings about names are told by the history of these operations alone.

## Main definitions

* `Occurrence.timed?` — the operation that an occurrence asks for
* `Findings.Hold` — what findings hold of some operations

## Main results

* `Findings.exists_history` — a history that leads to what is found
* `Findings.hold_observeAll_start` — the symbols found, and the warnings about names
-/

set_option autoImplicit false

namespace UsageScan

/-- The operation on a name that an occurrence asks for, at the offset where it stands. -/
def Occurrence.timed? : Occurrence → Option Binder.Timed
  | token t _ => if t.kind = .identifier then some ⟨t.span.start, .markUsed t.text⟩ else none
  | declaration name line offset _ => some ⟨offset, .declare name line offset⟩
  | lineBreak => none
  | endOfText => none

namespace Binder

/-- Reports can be left out where nothing is made of them. -/
theorem filterMap_filter_isNamed {α : Type} (g : Timed → Option α)
    (hg : ∀ time w, g ⟨time, .report w⟩ = none) (h : List Timed) :
    (h.filter Timed.isNamed).filterMap g = h.filterMap g := by
  rw [List.filterMap_filter]
  apply List.filterMap_congr
  intro e _
  obtain ⟨time, op⟩ := e
  cases op with
  | declare name line offset => rfl
  | markUsed name => rfl
  | report w => exact (hg time w).symm

theorem declarations_filter_isNamed (h : List Timed) :
    declarations (h.filter Timed.isNamed) = declarations h :=
  filterMap_filter_isNamed _ (fun _ _ => rfl) h

theorem uses_filter_isNamed (h : List Timed) : uses (h.filter Timed.isNamed) = uses h :=
  filterMap_filter_isNamed _ (fun _ _ => rfl) h

theorem ordered_iff_filter_isNamed {h : List Timed} :
    Ordered h ↔ (h.filter Timed.isNamed).Pairwise fun d e => d.time < e.time :=
  List.pairwise_filter.symm

/-- Whether all reports of a history are about semicolons. -/
def OnlySemicolons (h : List Timed) : Prop :=
  ∀ e ∈ h, ∀ w, e.operation = .report w → w.kind = .missingSemicolon

theorem onlySemicolons_nil : OnlySemicolons [] := by
  intro e he
  contradiction

/-- Of the warnings of an operation, those about undeclared names. -/
theorem filter_warnings (ds : List Declaration) {e : Timed}
    (he : ∀ w, e.operation = .report w → w.kind = .missingSemicolon) :
    (e.warnings ds).filter (·.kind = .undeclaredVariable) =
      (e.use?.toList.filter fun u => !u.isDeclared ds).map fun u => .undeclared u.name := by
  obtain ⟨time, op⟩ := e
  cases op with
  | declare name line offset => rfl
  | markUsed name =>
    simp only [Timed.warnings, Timed.use?, Option.toList_some]
    cases hdeclared : Use.isDeclared ds ⟨time, name⟩ with
    | true => simp [hdeclared]
    | false => simp [hdeclared, Warning.undeclared, Warning.ofWording, Warning.Kind.wording]
  | report w =>
    have hkind := he w rfl
    simp [Timed.warnings, Timed.use?, hkind]

/-- Of the warnings of a history, those about undeclared names. -/
theorem filter_logOf {h : List Timed} (hreports : OnlySemicolons h) :
    (logOf h).filter (·.kind = .undeclaredVariable) =
      ((uses h).filter fun u => !u.isDeclared (declarations h)).map fun u =>
        .undeclared u.name := by
  rw [logOf, List.filter_flatMap,
    List.flatMap_congr fun e he => filter_warnings (declarations h) (hreports e he), uses,
    List.filterMap_eq_flatMap_toList Timed.use?, List.filter_flatMap, List.map_flatMap]

/-- No operation leads to a warning about an unused name. -/
theorem kind_ne_of_mem_logOf {h : List Timed} (hreports : OnlySemicolons h) {w : Warning}
    (hw : w ∈ logOf h) : w.kind ≠ .unusedVariable := by
  obtain ⟨⟨time, op⟩, he, hw⟩ := List.mem_flatMap.mp hw
  cases op with
  | declare name line offset => contradiction
  | markUsed name =>
    simp only [Timed.warnings] at hw
    split at hw
    · contradiction
    · rw [List.mem_singleton.mp hw]
      simp [Warning.undeclared, Warning.ofWording, Warning.Kind.wording]
  | report w' =>
    rw [List.mem_singleton.mp hw, hreports _ he w' rfl]
    simp

end Binder

namespace Findings

/-- The end of a line may bring a report about a semicolon. -/
theorem exists_history_endLine (f : Findings) :
    ∃ h : List Binder.Timed,
      f.endLine.binder = f.binder.performAll (h.map Binder.Timed.operation) ∧
        h.filter Binder.Timed.isNamed = [] ∧ Binder.OnlySemicolons h := by
  obtain ⟨b, lint⟩ := f
  cases lint with
  | none => exact ⟨[], rfl, rfl, Binder.onlySemicolons_nil⟩
  | some lint =>
    obtain ⟨pending, headerKeyword, headerDepth, depth⟩ := lint
    cases pending with
    | none => exact ⟨[], rfl, rfl, Binder.onlySemicolons_nil⟩
    | some place =>
      -- The time of a report does not count, so any will do.
      refine ⟨[⟨0, .report (.missingSemicolon place)⟩], rfl, rfl, ?_⟩
      simp [Binder.OnlySemicolons, Warning.missingSemicolon, Warning.ofWording,
        Warning.Kind.wording]

/-- One occurrence asks for its operation on a name, or it may bring a report about a semicolon. -/
theorem exists_history_observe (f : Findings) (o : Occurrence) :
    ∃ h : List Binder.Timed,
      (f.observe o).binder = f.binder.performAll (h.map Binder.Timed.operation) ∧
        h.filter Binder.Timed.isNamed = o.timed?.toList ∧ Binder.OnlySemicolons h := by
  cases o with
  | token t stop =>
    by_cases ht : t.kind = .identifier
    · refine ⟨[⟨t.span.start, .markUsed t.text⟩], ?_, ?_, by simp [Binder.OnlySemicolons]⟩
      · simp [observe, Binder.follow, ht, Binder.performAll, Binder.perform]
      · simp [Occurrence.timed?, ht, Binder.Timed.isNamed]
    · refine ⟨[], ?_, ?_, Binder.onlySemicolons_nil⟩
      · simp [observe, Binder.follow, ht, Binder.performAll]
      · simp [Occurrence.timed?, ht]
  | declaration name line offset stop =>
    exact ⟨[⟨offset, .declare name line offset⟩], rfl, rfl, by simp [Binder.OnlySemicolons]⟩
  | lineBreak => exact f.exists_history_endLine
  | endOfText => exact f.exists_history_endLine

/-- What the occurrences ask for, with reports about semicolons between. -/
theorem exists_history (f : Findings) (seen : List Occurrence) :
    ∃ h : List Binder.Timed,
      (f.observeAll seen).binder = f.binder.performAll (h.map Binder.Timed.operation) ∧
        h.filter Binder.Timed.isNamed = seen.filterMap Occurrence.timed? ∧
        Binder.OnlySemicolons h := by
  induction seen generalizing f with
  | nil => exact ⟨[], rfl, rfl, Binder.onlySemicolons_nil⟩
  | cons o seen ih =>
    obtain ⟨h, hbinder, hnamed, hreports⟩ := f.exists_history_observe o
    obtain ⟨h', hbinder', hnamed', hreports'⟩ := ih (f.observe o)
    refine ⟨h ++ h', ?_, ?_, ?_⟩
    · rw [List.map_append, Binder.performAll_append, ← hbinder]
      exact hbinder'
    · rw [List.filter_append, hnamed, hnamed', List.filterMap_eq_flatMap_toList,
        List.filterMap_eq_flatMap_toList, List.flatMap_cons]
    · intro e he
      rcases List.mem_append.mp he with he | he
      · exact hreports e he
      · exact hreports' e he

/-- What findings hold if their occurrences ask for some operations on names. -/
structure Hold (f : Findings) (h : List Binder.Timed) : Prop where
  /-- The symbols are those that the operations lead to. -/
  symbols : f.binder.table.symbols = Binder.symbolsOf h
  /-- Each use that is not declared is warned about, and nothing else is called undeclared. -/
  undeclared : f.log.toList.filter (·.kind = .undeclaredVariable) =
    ((Binder.uses h).filter fun u => !u.isDeclared (Binder.declarations h)).map fun u =>
      .undeclared u.name
  /-- Nothing is called unused. -/
  unused : ∀ w ∈ f.log.toList, w.kind ≠ .unusedVariable

/-- Findings hold what their occurrences ask for, if these come one after another. -/
theorem hold_observeAll_start (checkSemicolons : Bool) (seen : List Occurrence)
    (hseen : (seen.filterMap Occurrence.timed?).Pairwise fun d e => d.time < e.time) :
    ((start checkSemicolons).observeAll seen).Hold (seen.filterMap Occurrence.timed?) := by
  obtain ⟨h, hbinder, hnamed, hreports⟩ := (start checkSemicolons).exists_history seen
  -- Reports count neither for the order of the history nor for the names in it.
  rw [← hnamed] at hseen ⊢
  have hf := Binder.follows_performAll h (Binder.ordered_iff_filter_isNamed.mpr hseen)
  rw [show Binder.empty = (start checkSemicolons).binder from rfl, ← hbinder] at hf
  constructor
  · rw [hf.symbols, Binder.symbolsOf, Binder.symbolsOf, Binder.declarations_filter_isNamed,
      Binder.uses_filter_isNamed]
  · rw [log, hf.log, Binder.filter_logOf hreports, Binder.declarations_filter_isNamed,
      Binder.uses_filter_isNamed]
  · rw [log, hf.log]
    intro w hw
    exact Binder.kind_ne_of_mem_logOf hreports hw

end Findings

end UsageScan
