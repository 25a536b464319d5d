import UsageScan.Report
import UsageScan.Proofs.Reading
import UsageScan.Proofs.SourceHistory
/-!
# The use of variables

What a run reports of variables is decided by two lists that can be read off the tokens of the
source: the names they declare and the identifiers among them. Where one stands in the source before
the other is all that matters, so no order of declarations, further declarations and uses needs a
rule of its own.

## Main definitions

* `DeclaredName.isUsed` — whether a name is used behind its declaration
* `Token.isDeclared` — whether an identifier stands behind a declaration of its name
* `Usage` — what a run reports of variables

## Main results

* `Run.result_ofSource` — what remains of a run
* `usage_run` — what any run reports of variables
-/

set_option autoImplicit false

namespace UsageScan

/-- Whether one of some identifiers is the shown name and stands behind the declaration. -/
def DeclaredName.isUsed (limit : Option Nat) (identifiers : List Token) (d : DeclaredName) : Bool :=
  identifiers.any fun t => t.text = d.shown limit ∧ d.offset < t.span.start

/-- Whether one of some declared names is shown like the identifier and stands before it. -/
def Token.isDeclared (limit : Option Nat) (ds : List DeclaredName) (t : Token) : Bool :=
  ds.any fun d => d.shown limit = t.text ∧ d.offset < t.span.start

/-- The identifiers among the tokens of a scan, in order. -/
def identifiersIn (source : String) (options : Options) : List Token :=
  (Scanner.ofSource source options).tokens.filter Token.isIdentifier

/-- The first declarations of all names, as they are shown. -/
def firstDeclaredIn (source : String) (options : Options) : List DeclaredName :=
  firstsBy (DeclaredName.shown options.maxTokenLength) (declaredIn source options)

/-- What a run reports of variables. -/
structure Usage (source : String) (options : Options) : Prop where
  /-- Each name that is declared is listed once, in the order of first declarations. -/
  names : (Report.ofResult (Run.ofSource source options).result).declared.map (·.name) =
    ((declaredIn source options).map (DeclaredName.shown options.maxTokenLength)).eraseDups
  /-- A name is listed as used if it is used behind its first declaration. -/
  declared : (Report.ofResult (Run.ofSource source options).result).declared =
    (firstDeclaredIn source options).map fun d => ⟨d.shown options.maxTokenLength,
      d.isUsed options.maxTokenLength (identifiersIn source options)⟩
  /-- There is one warning for each identifier that stands before all declarations of its name. -/
  undeclared : (Run.ofSource source options).result.log.toList.filter
      (·.kind = .undeclaredVariable) =
    ((identifiersIn source options).filter
      fun t => !t.isDeclared options.maxTokenLength (declaredIn source options)).map
        fun t => .undeclared t.text
  /-- Behind all warnings of the scan there is one for each name that is not used, at its first
  declaration. -/
  unused : (Run.ofSource source options).result.log.toList =
    (Scanner.ofSource source options).finish.log.toList ++
      ((firstDeclaredIn source options).filter
        fun d => !d.isUsed options.maxTokenLength (identifiersIn source options)).map
          fun d => .unused (d.shown options.maxTokenLength) ⟨d.line, d.offset⟩
  /-- The scan itself does not warn about names that are not used. -/
  scanned : ∀ w ∈ (Scanner.ofSource source options).finish.log.toList,
    w.kind ≠ .unusedVariable

/-! ### From the history of a source to its tokens -/

section History

variable (source : String) (options : Options)

theorem declarations_history_eq : Binder.declarations (Site.history options.maxTokenLength
    source.toList) = (declaredIn source options).map
      (DeclaredName.declaration options.maxTokenLength) := by
  rw [Site.declarations_history, declaredIn_eq]

theorem uses_history_eq : Binder.uses (Site.history options.maxTokenLength source.toList) =
    (identifiersIn source options).map Token.use := by
  rw [Site.uses_history, identifiersIn, Scanner.tokens_eq_map_all]

/-- The symbols of a source are its first declarations. -/
theorem symbolsOf_history : Binder.symbolsOf (Site.history options.maxTokenLength source.toList) =
    (firstDeclaredIn source options).map fun d => ⟨d.shown options.maxTokenLength, d.line, d.offset,
      d.isUsed options.maxTokenLength (identifiersIn source options)⟩ := by
  rw [Binder.symbolsOf, declarations_history_eq, uses_history_eq, firstsBy_map, List.map_map,
    firstDeclaredIn]
  apply List.map_congr_left
  intro d _
  rw [Function.comp_apply, Binder.Declaration.symbol, List.any_map]
  rfl

theorem isDeclared_history (t : Token) : t.use.isDeclared (Binder.declarations
    (Site.history options.maxTokenLength source.toList)) =
      t.isDeclared options.maxTokenLength (declaredIn source options) := by
  rw [declarations_history_eq, Binder.Use.isDeclared, List.any_map]
  rfl

end History

/-! ### Runs -/

/-- A scanner that has handed out all tokens has nothing left to hand out. -/
theorem Scanner.drain_drain (source : String) (options : Options) :
    (ofSource source options).drain.2.drain.2 = (ofSource source options).drain.2 := by
  rw [drain_ofSource, drain, drainFrom_none (next_behind_nil ..)]

/-- What remains of a run is what remains of its scan, with the warnings about unused names. -/
theorem Run.result_ofSource (source : String) (options : Options) :
    (ofSource source options).result = (Scanner.ofSource source options).finish.withUnused := by
  obtain ⟨rs, e, hreads, -⟩ := Scanner.exists_reads_ofSource source options
  -- Telling all tokens and handing them out end with the same scanner.
  have htold := congrArg Prod.snd (hreads.tellFrom #[]).2
  have hdrained := (hreads.drainFrom 0 #[]).2
  change (tellFrom 0 _ _).2.2.finish.withUnused = _
  rw [show (tellFrom 0 _ #[]).2.2 = e from htold, ← hdrained]
  exact congrArg ScanResult.withUnused (congrArg Scanner.result (Scanner.drain_drain source options))

section Result

variable (source : String) (options : Options)

/-- The symbols that remain of a scan are the first declarations of its source. -/
theorem symbols_finish_ofSource : (Scanner.ofSource source options).finish.table.symbols =
    (firstDeclaredIn source options).map fun d => ⟨d.shown options.maxTokenLength, d.line, d.offset,
      d.isUsed options.maxTokenLength (identifiersIn source options)⟩ :=
  (Scanner.hold_drain_ofSource source options).symbols.trans (symbolsOf_history source options)

theorem unusedWarnings_finish_ofSource :
    (Scanner.ofSource source options).finish.table.unusedWarnings =
      ((firstDeclaredIn source options).filter
        fun d => !d.isUsed options.maxTokenLength (identifiersIn source options)).map
          fun d => .unused (d.shown options.maxTokenLength) ⟨d.line, d.offset⟩ := by
  rw [SymbolTable.unusedWarnings, SymbolTable.unused, symbols_finish_ofSource, List.filter_map,
    List.map_map]
  rfl

theorem log_result_ofSource : (Run.ofSource source options).result.log.toList =
    (Scanner.ofSource source options).finish.log.toList ++
      (Scanner.ofSource source options).finish.table.unusedWarnings := by
  rw [Run.result_ofSource]
  exact WarningLog.toList_addAll ..

theorem declared_ofResult : (Report.ofResult (Run.ofSource source options).result).declared =
    (firstDeclaredIn source options).map fun d => ⟨d.shown options.maxTokenLength,
      d.isUsed options.maxTokenLength (identifiersIn source options)⟩ := by
  rw [Run.result_ofSource, Report.ofResult, ScanResult.withUnused, symbols_finish_ofSource,
    List.map_map]
  rfl

end Result

/-- No warning about an unused name is one about an undeclared name. -/
theorem SymbolTable.filter_unusedWarnings (t : SymbolTable) :
    t.unusedWarnings.filter (·.kind = .undeclaredVariable) = [] := by
  rw [List.filter_eq_nil_iff]
  intro w hw
  obtain ⟨s, -, rfl⟩ := List.mem_map.mp hw
  simp [Warning.unused, Warning.ofWording, Warning.Kind.wording]

/-- What any run reports of variables. -/
theorem usage_run (source : String) (options : Options) : Usage source options where
  names := by
    rw [declared_ofResult, List.map_map, firstDeclaredIn, ← map_firstsBy]
    rfl
  declared := declared_ofResult source options
  undeclared := by
    have hundeclared := (Scanner.hold_drain_ofSource source options).undeclared
    -- The uses of the history are the identifiers, and for both the same declarations count.
    have hidentifiers : (fun u : Binder.Use => !u.isDeclared (Binder.declarations
        (Site.history options.maxTokenLength source.toList))) ∘ Token.use =
          fun t => !t.isDeclared options.maxTokenLength (declaredIn source options) := by
      funext t
      rw [Function.comp_apply, isDeclared_history]
    rw [uses_history_eq, List.filter_map, List.map_map, hidentifiers] at hundeclared
    rw [log_result_ofSource, List.filter_append, SymbolTable.filter_unusedWarnings,
      List.append_nil]
    exact hundeclared
  unused := by
    rw [log_result_ofSource, unusedWarnings_finish_ofSource]
  scanned := (Scanner.hold_drain_ofSource source options).unused

end UsageScan
