import UsageScan.Proofs.Observer
import UsageScan.Proofs.Usage
/-!
# Names wherever they stand

Where a name stands is kept in the table, but nothing depends on it: which names are new, which ones
are used and which uses are warned about follows from the order of declarations and uses alone. So
the byte offsets of declarations can be forgotten before an operation or behind it. Two sources that
ask for the same operations, wherever they ask for them, end up with the same names and messages.

## Main definitions

* `Binder.unplaced`, `Binder.Operation.unplaced` — without the byte offsets of declarations
* `nameOperations` — what a source asks of the binder, without byte offsets
* `SameNames` — two sources whose scans find the same names and warn alike about them

## Main results

* `Binder.perform_unplaced`, `Binder.performAll_unplaced` — one operation, and several
* `sameNames_of_nameOperations_eq` — only the operations matter
-/

set_option autoImplicit false

namespace UsageScan

/-- A symbol without the byte offset of its declaration. -/
def Symbol.unplaced (s : Symbol) : Symbol :=
  { s with offset := 0 }

/-- A table without the byte offsets of declarations. -/
def SymbolTable.unplaced (t : SymbolTable) : SymbolTable :=
  ⟨t.symbols.map Symbol.unplaced⟩

/-- A binder without the byte offsets of declarations. -/
def Binder.unplaced (b : Binder) : Binder :=
  { b with table := b.table.unplaced }

/-- An operation without the byte offset of the declaration that it is. -/
def Binder.Operation.unplaced : Operation → Operation
  | declare name line _ => declare name line 0
  | markUsed name => markUsed name
  | report w => report w

/-- What a source asks of the binder, without byte offsets. -/
def nameOperations (limit : Option Nat) (source : List Char) : List Binder.Operation :=
  (Site.history limit source).map fun e => e.operation.unplaced

/-- The names that remain of a run, with the lines of their declarations and whether they are
used. -/
def declaredNamesOf (source : String) (options : Options) : List (String × Nat × Bool) :=
  (Run.ofSource source options).result.table.symbols.map fun s => (s.name, s.line, s.used)

/-- The messages about variables that remain of a run, each with its kind. -/
def variableMessages (source : String) (options : Options) : List (Warning.Kind × String) :=
  ((Run.ofSource source options).result.log.toList.filter (!·.isSemicolon)).map
    fun w => (w.kind, w.message)

/-- The scans of two sources find the same names and warn alike about them. -/
structure SameNames (s t : String) (options : Options) : Prop where
  names : declaredNamesOf s options = declaredNamesOf t options
  messages : variableMessages s options = variableMessages t options

/-! ### Forgetting byte offsets -/

namespace SymbolTable

variable (t : SymbolTable) (name : String)

theorem contains_unplaced : t.unplaced.contains name = t.contains name := by
  rw [contains, contains, unplaced, List.any_map]
  rfl

theorem unplaced_declare (line offset : Nat) :
    (t.declare name line offset).2.unplaced = (t.unplaced.declare name line 0).2 := by
  rw [declare, declare, contains_unplaced]
  split
  · rfl
  · simp only [unplaced, List.map_append]
    rfl

theorem unplaced_markUsed :
    t.unplaced.markUsed name = ((t.markUsed name).1, (t.markUsed name).2.unplaced) := by
  rw [markUsed, markUsed, contains_unplaced]
  split
  · simp only [unplaced, List.map_map, Prod.mk.injEq, true_and, mk.injEq]
    apply List.map_congr_left
    intro s _
    rw [Function.comp_apply, Function.comp_apply, apply_ite Symbol.unplaced]
    rfl
  · rfl

/-- What a table warns about in words does not depend on byte offsets. -/
theorem map_unusedWarnings_unplaced :
    t.unplaced.unusedWarnings.map (fun w => (w.kind, w.message)) =
      t.unusedWarnings.map fun w => (w.kind, w.message) := by
  simp only [unusedWarnings, unused, unplaced, List.filter_map, List.map_map]
  rfl

end SymbolTable

namespace Binder

variable (b : Binder)

/-- It does not matter whether byte offsets are forgotten before an operation or behind it. -/
theorem perform_unplaced (op : Operation) :
    (b.perform op).unplaced = b.unplaced.perform op.unplaced := by
  cases op with
  | declare name line offset =>
    exact congrArg (Binder.mk · b.log) (b.table.unplaced_declare name line offset)
  | markUsed name =>
    have hmarked := b.table.unplaced_markUsed name
    simp only [Operation.unplaced, perform, markUsed, unplaced, hmarked]
    cases b.table.markUsed name with
    | mk declared table => cases declared <;> rfl
  | report w => rfl

theorem performAll_unplaced (ops : List Operation) :
    (b.performAll ops).unplaced = b.unplaced.performAll (ops.map Operation.unplaced) := by
  induction ops generalizing b with
  | nil => rfl
  | cons op ops ih =>
    rw [List.map_cons, performAll, List.foldl_cons, performAll, List.foldl_cons,
      ← perform_unplaced]
    exact ih (b.perform op)

end Binder

/-! ### Only the operations matter -/

namespace Findings

/-- Without a semicolon check, the binder just performs what the occurrences ask for. -/
theorem binder_observe_of_lint {f : Findings} (h : f.lint = none) (o : Occurrence) :
    (f.observe o).lint = none ∧ (f.observe o).binder =
      f.binder.performAll (o.timed?.toList.map Binder.Timed.operation) := by
  obtain ⟨b, lint⟩ := f
  obtain rfl : lint = none := h
  cases o with
  | token t stop =>
    refine ⟨rfl, ?_⟩
    by_cases hkind : t.kind = .identifier
    · simp [observe, Binder.follow, Occurrence.timed?, hkind, Binder.performAll, Binder.perform]
    · simp [observe, Binder.follow, Occurrence.timed?, hkind, Binder.performAll]
  | declaration name line offset stop => exact ⟨rfl, rfl⟩
  | lineBreak => exact ⟨rfl, rfl⟩
  | endOfText => exact ⟨rfl, rfl⟩

theorem binder_observeAll_of_lint {f : Findings} (h : f.lint = none) (seen : List Occurrence) :
    (f.observeAll seen).binder =
      f.binder.performAll ((seen.filterMap Occurrence.timed?).map Binder.Timed.operation) := by
  induction seen generalizing f with
  | nil => rfl
  | cons o seen ih =>
    obtain ⟨hlint, hbinder⟩ := binder_observe_of_lint h o
    rw [observeAll_cons, ih hlint, hbinder, ← Binder.performAll_append, ← List.map_append,
      List.filterMap_eq_flatMap_toList Occurrence.timed? (o :: seen), List.flatMap_cons,
      ← List.filterMap_eq_flatMap_toList]

end Findings

section Scan

variable {source : String} {options : Options} {b : Binder}

/-- But for byte offsets and warnings about semicolons, a scan has found in the end what the
operations on names lead to. -/
theorem Scanner.unplaced_drain_ofSource (source : String) (options : Options) :
    (ofSource source options).drain.2.findings.unchecked.binder.unplaced =
      Binder.empty.performAll (nameOperations options.maxTokenLength source.toList) := by
  -- What is left without the warnings about semicolons is what a scan without a check finds.
  have hstart : (Findings.start options.checkSemicolons).unchecked = ⟨.empty, none⟩ := rfl
  rw [findings_drain_ofSource, Findings.observeAll_unchecked, hstart,
    Findings.binder_observeAll_of_lint rfl, filterMap_timed?_occurrencesFrom,
    Binder.performAll_unplaced, List.map_map]
  rfl

theorem declaredNamesOf_eq
    (h : Binder.empty.performAll (nameOperations options.maxTokenLength source.toList) = b) :
    declaredNamesOf source options = b.table.symbols.map fun s => (s.name, s.line, s.used) := by
  rw [← h, ← Scanner.unplaced_drain_ofSource, declaredNamesOf, table_result_ofSource]
  simp only [Binder.unplaced, SymbolTable.unplaced, List.map_map]
  rfl

theorem variableMessages_eq
    (h : Binder.empty.performAll (nameOperations options.maxTokenLength source.toList) = b) :
    variableMessages source options =
      (b.log.toList ++ b.table.unusedWarnings).map fun w => (w.kind, w.message) := by
  rw [← Scanner.unplaced_drain_ofSource] at h
  have hlog : b.log.toList =
      (Scanner.ofSource source options).finish.log.toList.filter (!·.isSemicolon) := by
    rw [← h]
    exact WarningLog.toList_unchecked _
  have htable : b.table = (Scanner.ofSource source options).finish.table.unplaced := by
    rw [← h]
    rfl
  rw [variableMessages, log_result_ofSource, List.filter_append,
    SymbolTable.filter_not_isSemicolon_unusedWarnings, ← hlog, List.map_append, List.map_append,
    htable, SymbolTable.map_unusedWarnings_unplaced]

end Scan

/-- Sources that ask for the same operations on names lead to the same names and messages. -/
theorem sameNames_of_nameOperations_eq {s t : String} {options : Options}
    (h : nameOperations options.maxTokenLength s.toList =
      nameOperations options.maxTokenLength t.toList) : SameNames s t options := by
  have hperformed := congrArg Binder.empty.performAll h
  exact ⟨(declaredNamesOf_eq hperformed).trans (declaredNamesOf_eq rfl).symm,
    (variableMessages_eq hperformed).trans (variableMessages_eq rfl).symm⟩

end UsageScan
