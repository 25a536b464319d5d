import UsageScan.Proofs.History
/-!
# Binding over any history

A binder may be asked for declarations, uses and reports in any order. What it holds then is told
from the operations alone, by what comes before what: no times are needed, and no operation is told
apart by the state it meets. What is in the table stays there, and whatever comes later can only add
symbols behind the others and mark symbols as used.

## Main definitions

* `Binder.declaredNames`, `Binder.IsUsed` — the names that operations declare, and those they use
  behind a declaration
* `Binder.warningsOf` — the warnings that operations bring about
* `SymbolTable.Grows` — whether one table may be a later state of another
* `Binder.Holds`, `Binding` — what a binder holds that started from nothing, and how it answers

## Main results

* `Binder.holds_perform`, `Binder.grows_perform` — one more operation
* `Binder.holds_performAll`, `Binder.grows_performAll` — any operations
* `binding_performAll` — what a binder holds after any operations
-/

set_option autoImplicit false

namespace UsageScan

/-! ### What operations say by themselves -/

namespace Binder

/-- The name that an operation declares. -/
def Operation.declaredName? : Operation → Option String
  | declare name _ _ => some name
  | markUsed _ => none
  | report _ => none

/-- The names that operations declare, in order. -/
def declaredNames (ops : List Operation) : List String :=
  ops.filterMap Operation.declaredName?

/-- Whether operations use a name behind a declaration of it. -/
def IsUsed (ops : List Operation) (name : String) : Prop :=
  ∃ before after, ops = before ++ .markUsed name :: after ∧ name ∈ declaredNames before

/-- The warnings that an operation brings about behind some others. -/
def Operation.warnings (before : List Operation) : Operation → List Warning
  | declare _ _ _ => []
  | markUsed name => if name ∈ declaredNames before then [] else [.undeclared name]
  | report w => [w]

/-- The warnings that operations bring about behind some others, in order. -/
def warningsBehind (before : List Operation) : List Operation → List Warning
  | [] => []
  | op :: ops => op.warnings before ++ warningsBehind (before ++ [op]) ops

/-- The warnings that operations bring about, in order. -/
def warningsOf (ops : List Operation) : List Warning :=
  warningsBehind [] ops

end Binder

/-- A symbol and the same symbol at a later time. -/
structure Symbol.Becomes (s s' : Symbol) : Prop where
  name : s'.name = s.name
  line : s'.line = s.line
  offset : s'.offset = s.offset
  used : s.used = true → s'.used = true

/-- Whether a table may become another one: each of its symbols keeps its position. -/
def SymbolTable.Grows (t t' : SymbolTable) : Prop :=
  ∀ (i : Nat) (s : Symbol), t.symbols[i]? = some s → ∃ s', t'.symbols[i]? = some s' ∧ s.Becomes s'

/-- What a binder holds after some operations if it held nothing before them. -/
structure Binder.Holds (ops : List Operation) (b : Binder) : Prop where
  /-- Each declared name is held once, in the order of first declarations. -/
  names : b.table.symbols.map Symbol.name = (declaredNames ops).eraseDups
  /-- A symbol stands where its name was declared first. -/
  place : ∀ s ∈ b.table.symbols, ops.find? (·.declaredName? = some s.name) =
    some (.declare s.name s.line s.offset)
  /-- A symbol is used exactly if a use of its name comes behind a declaration of it. -/
  used : ∀ s ∈ b.table.symbols, s.used = true ↔ IsUsed ops s.name
  /-- A use is warned about exactly if no earlier operation declares its name, and what is reported
  is recorded in its place among these warnings. -/
  log : b.log.toList = warningsOf ops

/-- What a binder holds after some operations, how it answers, and how its table came about. -/
structure Binding (ops : List Binder.Operation) (b : Binder) : Prop extends Binder.Holds ops b where
  /-- Among the symbols, the unused ones stand in the same order. -/
  unused : b.table.unused.Sublist b.table.symbols ∧
    ∀ s, s ∈ b.table.unused ↔ s ∈ b.table.symbols ∧ s.used = false
  /-- A name leads to its symbol. -/
  find : ∀ name s, b.table.find? name = some s ↔ s ∈ b.table.symbols ∧ s.name = name
  contains : ∀ name, b.table.contains name = true ↔ name ∈ Binder.declaredNames ops
  size : b.table.size = (Binder.declaredNames ops).eraseDups.length
  isEmpty : b.table.isEmpty = true ↔ Binder.declaredNames ops = []
  /-- At no later step a symbol was taken away, moved or taken for unused again. -/
  grows : ∀ before after, ops = before ++ after →
    (Binder.empty.performAll before).table.Grows b.table

namespace Binder

/-! ### Operations in a row -/

section Concat

variable (ops : List Operation) (op : Operation)

theorem declaredNames_concat :
    declaredNames (ops ++ [op]) = declaredNames ops ++ op.declaredName?.toList := by
  rw [declaredNames, List.filterMap_append]
  cases op <;> rfl

theorem warningsBehind_append (before more : List Operation) : warningsBehind before (ops ++ more) =
    warningsBehind before ops ++ warningsBehind (before ++ ops) more := by
  induction ops generalizing before with
  | nil => simp [warningsBehind]
  | cons op ops ih => simp [warningsBehind, ih]

theorem warningsOf_concat : warningsOf (ops ++ [op]) = warningsOf ops ++ op.warnings ops := by
  simp [warningsOf, warningsBehind_append, warningsBehind]

/-- One more operation uses a name if it is a use of it and the name is declared. -/
theorem isUsed_concat (name : String) : IsUsed (ops ++ [op]) name ↔
    IsUsed ops name ∨ op = .markUsed name ∧ name ∈ declaredNames ops := by
  constructor
  · rintro ⟨before, after, hops, hname⟩
    -- The use is the last operation, or one of those before it.
    rcases List.eq_nil_or_concat after with rfl | ⟨after, last, rfl⟩
    · obtain ⟨rfl, hop⟩ := List.append_inj' hops rfl
      exact Or.inr ⟨List.singleton_inj.mp hop, hname⟩
    · rw [List.concat_eq_append, ← List.cons_append, ← List.append_assoc] at hops
      exact Or.inl ⟨before, after, (List.append_inj' hops rfl).1, hname⟩
  · rintro (⟨before, after, rfl, hname⟩ | ⟨rfl, hname⟩)
    · exact ⟨before, after ++ [op], by simp, hname⟩
    · exact ⟨ops, [], rfl, hname⟩

/-- A name that is used is declared. -/
theorem mem_declaredNames_of_isUsed {ops : List Operation} {name : String} (h : IsUsed ops name) :
    name ∈ declaredNames ops := by
  obtain ⟨before, after, rfl, hname⟩ := h
  rw [declaredNames, List.filterMap_append]
  exact List.mem_append_left _ hname

end Concat

/-! ### One more operation -/

section Step

variable {ops : List Operation} {b : Binder}

theorem contains_iff_of_holds (h : Holds ops b) (name : String) :
    b.table.contains name = true ↔ name ∈ declaredNames ops := by
  rw [SymbolTable.contains_iff, h.names, List.mem_eraseDups]

/-- The first declaration of a name stays the first one. -/
theorem find?_concat_of_some {name : String} {first : Operation}
    (h : ops.find? (·.declaredName? = some name) = some first) (op : Operation) :
    (ops ++ [op]).find? (·.declaredName? = some name) = some first := by
  rw [List.find?_append, h]
  rfl

/-- A declaration of a name that is not declared yet is the first one. -/
theorem find?_concat_declare {name : String} (h : name ∉ declaredNames ops) (line offset : Nat) :
    (ops ++ [Operation.declare name line offset]).find? (·.declaredName? = some name) =
      some (.declare name line offset) := by
  have hnone : ops.find? (·.declaredName? = some name) = none := by
    rw [List.find?_eq_none]
    intro op hop hname
    rw [decide_eq_true_iff] at hname
    exact h (List.mem_filterMap.mpr ⟨op, hop, hname⟩)
  rw [List.find?_append, hnone]
  simp [Operation.declaredName?]

theorem holds_declare (h : Holds ops b) (name : String) (line offset : Nat) :
    Holds (ops ++ [.declare name line offset]) (b.declare name line offset) := by
  have hnames : declaredNames (ops ++ [.declare name line offset]) = declaredNames ops ++ [name] :=
    declaredNames_concat ..
  have hused (s : Symbol) : IsUsed (ops ++ [.declare name line offset]) s.name ↔
      IsUsed ops s.name := by
    simp [isUsed_concat]
  have hlog : (b.declare name line offset).log.toList =
      warningsOf (ops ++ [.declare name line offset]) := by
    rw [warningsOf_concat, ← h.log]
    exact (List.append_nil _).symm
  have hsymbols : (b.declare name line offset).table.symbols =
      if b.table.contains name then b.table.symbols
      else b.table.symbols ++ [⟨name, line, offset, false⟩] := b.table.symbols_declare ..
  by_cases hknown : b.table.contains name = true
  · -- A name that is declared once more keeps the symbol it has.
    have hmem := (contains_iff_of_holds h name).mp hknown
    rw [if_pos hknown] at hsymbols
    refine ⟨?_, ?_, ?_, hlog⟩
    · rw [hsymbols, hnames, eraseDups_concat, if_pos hmem, h.names]
    · rw [hsymbols]
      exact fun s hs => find?_concat_of_some (h.place s hs) _
    · rw [hsymbols]
      exact fun s hs => (h.used s hs).trans (hused s).symm
  · have hmem := (contains_iff_of_holds h name).not.mp hknown
    rw [if_neg hknown] at hsymbols
    refine ⟨?_, ?_, ?_, hlog⟩
    · rw [hsymbols, hnames, eraseDups_concat, if_neg hmem, List.map_append, h.names]
      rfl
    · rw [hsymbols]
      intro s hs
      rcases List.mem_append.mp hs with hs | hs
      · exact find?_concat_of_some (h.place s hs) _
      · rw [List.mem_singleton.mp hs]
        exact find?_concat_declare hmem line offset
    · rw [hsymbols]
      intro s hs
      rcases List.mem_append.mp hs with hs | hs
      · exact (h.used s hs).trans (hused s).symm
      · rw [hused, List.mem_singleton.mp hs]
        exact iff_of_false Bool.false_ne_true fun hname => hmem (mem_declaredNames_of_isUsed hname)

theorem holds_markUsed (h : Holds ops b) (name : String) :
    Holds (ops ++ [.markUsed name]) (b.markUsed name) := by
  have hnames : declaredNames (ops ++ [.markUsed name]) = declaredNames ops :=
    (declaredNames_concat ..).trans (List.append_nil _)
  have hsymbols : (b.markUsed name).table.symbols =
      b.table.symbols.map fun s => if s.name = name then { s with used := true } else s := by
    rw [table_markUsed, SymbolTable.symbols_markUsed]
  constructor
  · rw [hsymbols, hnames, ← h.names, List.map_map]
    apply List.map_congr_left
    intro s _
    rw [Function.comp_apply]
    split <;> rfl
  · rw [hsymbols]
    intro s hs
    obtain ⟨s, hmem, rfl⟩ := List.mem_map.mp hs
    have hplace := find?_concat_of_some (h.place s hmem) (.markUsed name)
    split
    · exact hplace
    · exact hplace
  · rw [hsymbols]
    intro s hs
    obtain ⟨s, hmem, rfl⟩ := List.mem_map.mp hs
    have hdeclared : s.name ∈ declaredNames ops := by
      rw [← List.mem_eraseDups, ← h.names]
      exact List.mem_map_of_mem hmem
    -- The symbol of the name is used from now on, and no other one is touched.
    split
    · next hname =>
      exact iff_of_true rfl ((isUsed_concat ..).mpr (Or.inr ⟨by rw [hname], hdeclared⟩))
    · next hname =>
      rw [h.used s hmem, isUsed_concat]
      simp [Ne.symm hname]
  · rw [log_markUsed, warningsOf_concat, h.log, Operation.warnings]
    simp only [contains_iff_of_holds h]

theorem holds_report (h : Holds ops b) (w : Warning) :
    Holds (ops ++ [.report w]) (b.report w) := by
  have hnames : declaredNames (ops ++ [.report w]) = declaredNames ops :=
    (declaredNames_concat ..).trans (List.append_nil _)
  constructor
  · rw [hnames]
    exact h.names
  · exact fun s hs => find?_concat_of_some (h.place s hs) _
  · intro s hs
    rw [isUsed_concat]
    simpa using h.used s hs
  · rw [warningsOf_concat, ← h.log]
    exact WarningLog.toList_add b.log w

/-- One more operation. -/
theorem holds_perform (h : Holds ops b) (op : Operation) : Holds (ops ++ [op]) (b.perform op) := by
  cases op with
  | declare name line offset => exact holds_declare h name line offset
  | markUsed name => exact holds_markUsed h name
  | report w => exact holds_report h w

end Step

/-- Any operations. -/
theorem holds_performAll (ops : List Operation) : Holds ops (empty.performAll ops) := by
  induction ops using List.reverseRecOn with
  | nil => exact ⟨rfl, nofun, nofun, rfl⟩
  | append_singleton ops op ih =>
    rw [performAll_append]
    exact holds_perform ih op

end Binder

/-! ### A table at a later time -/

theorem Symbol.Becomes.refl (s : Symbol) : s.Becomes s :=
  ⟨rfl, rfl, rfl, id⟩

theorem Symbol.Becomes.trans {s t u : Symbol} (h : s.Becomes t) (h' : t.Becomes u) :
    s.Becomes u :=
  ⟨h'.name.trans h.name, h'.line.trans h.line, h'.offset.trans h.offset, h'.used ∘ h.used⟩

namespace SymbolTable

variable {t u v : SymbolTable}

theorem Grows.refl (t : SymbolTable) : t.Grows t :=
  fun _ s hs => ⟨s, hs, .refl s⟩

theorem Grows.trans (h : t.Grows u) (h' : u.Grows v) : t.Grows v := by
  intro i s hs
  obtain ⟨s', hs', hbecomes⟩ := h i s hs
  obtain ⟨s'', hs'', hbecomes'⟩ := h' i s' hs'
  exact ⟨s'', hs'', hbecomes.trans hbecomes'⟩

theorem grows_declare (t : SymbolTable) (name : String) (line offset : Nat) :
    t.Grows (t.declare name line offset).2 := by
  intro i s hs
  refine ⟨s, ?_, .refl s⟩
  rw [symbols_declare]
  split
  · exact hs
  · rw [List.getElem?_append_left (List.getElem?_eq_some_iff.mp hs).1, hs]

theorem grows_markUsed (t : SymbolTable) (name : String) : t.Grows (t.markUsed name).2 := by
  intro i s hs
  rw [symbols_markUsed, List.getElem?_map, hs]
  refine ⟨if s.name = name then { s with used := true } else s, rfl, ?_⟩
  split
  · exact ⟨rfl, rfl, rfl, fun _ => rfl⟩
  · exact .refl s

/-- A table that holds each name once leads from a name to its symbol. -/
theorem find?_eq_some_iff (h : (t.symbols.map Symbol.name).Nodup) (name : String) (s : Symbol) :
    t.find? name = some s ↔ s ∈ t.symbols ∧ s.name = name := by
  constructor
  · intro hs
    exact ⟨List.mem_of_find?_eq_some hs, by simpa using List.find?_some hs⟩
  · rintro ⟨hs, rfl⟩
    cases hfound : t.find? s.name with
    | none =>
      rw [find?, List.find?_eq_none] at hfound
      exact (hfound s hs (beq_self_eq_true _)).elim
    | some s' =>
      have hname : s'.name = s.name := by simpa using List.find?_some hfound
      rw [List.inj_on_of_nodup_map h (List.mem_of_find?_eq_some hfound) hs hname]

end SymbolTable

namespace Binder

/-- No operation takes a symbol away or moves it, whatever the binder holds. -/
theorem grows_perform (b : Binder) (op : Operation) : b.table.Grows (b.perform op).table := by
  cases op with
  | declare name line offset => exact b.table.grows_declare name line offset
  | markUsed name =>
    rw [perform, table_markUsed]
    exact b.table.grows_markUsed name
  | report w => exact .refl b.table

theorem grows_performAll (b : Binder) (ops : List Operation) :
    b.table.Grows (b.performAll ops).table := by
  induction ops generalizing b with
  | nil => exact .refl b.table
  | cons op ops ih => exact (b.grows_perform op).trans (ih (b.perform op))

end Binder

/-- What a binder holds after any operations. -/
theorem binding_performAll (ops : List Binder.Operation) :
    Binding ops (Binder.empty.performAll ops) := by
  have h := Binder.holds_performAll ops
  have hnodup : ((Binder.empty.performAll ops).table.symbols.map Symbol.name).Nodup := by
    rw [h.names]
    exact nodup_eraseDups _
  refine ⟨h, ⟨List.filter_sublist, ?_⟩, SymbolTable.find?_eq_some_iff hnodup,
    Binder.contains_iff_of_holds h, ?_, ?_, ?_⟩
  · intro s
    rw [SymbolTable.unused, List.mem_filter, Bool.not_eq_true']
  · rw [← h.names, List.length_map]
    rfl
  · rw [SymbolTable.isEmpty, List.isEmpty_iff, ← List.map_eq_nil_iff (f := Symbol.name), h.names,
      List.eq_nil_iff_forall_not_mem, List.eq_nil_iff_forall_not_mem]
    simp only [List.mem_eraseDups]
  · rintro before after rfl
    rw [Binder.performAll_append]
    exact Binder.grows_performAll _ after

end UsageScan
