import UsageScan.Proofs.SymbolTable
import Mathlib.Data.List.Induction
import Mathlib.Data.List.Nodup
/-!
# Histories of a binder

A binder that performs some operations one after another ends up with a table and a log that can be
told from the operations at once. For that each operation comes with a time. A name is a symbol if
it was declared, at the place of its first declaration, and used if it was used later than that.
A use is warned about if no declaration of its name is earlier.

## Main definitions

* `firstsBy` — the first one with each key
* `Binder.Operation`, `Binder.performAll` — what a binder can be asked to do
* `Binder.Timed` — an operation at a time; a list of them is a history
* `Binder.symbolsOf`, `Binder.logOf` — the symbols and the warnings that a history leads to

## Main results

* `Binder.follows_perform` — one more operation
* `Binder.follows_performAll` — a whole history
-/

set_option autoImplicit false

namespace UsageScan

/-! ### First ones -/

section FirstsBy

variable {α β : Type} [DecidableEq β] (key : α → β)

/-- The elements of a list that are the first ones with their key. -/
def firstsBy : List α → List α
  | [] => []
  | a :: as => a :: (firstsBy as).filter (key · ≠ key a)

/-- A further element is a first one unless its key has come before. -/
theorem firstsBy_concat (as : List α) (a : α) : firstsBy key (as ++ [a]) =
    if key a ∈ as.map key then firstsBy key as else firstsBy key as ++ [a] := by
  induction as with
  | nil => simp [firstsBy]
  | cons b as ih =>
    rw [List.cons_append, firstsBy, ih, firstsBy, List.map_cons]
    -- The head takes away every later element with its key, the new one included.
    by_cases hb : key a = key b
    · rw [hb, if_pos List.mem_cons_self]
      split
      · rfl
      · simp [hb]
    · by_cases has : key a ∈ as.map key
      · rw [if_pos has, if_pos (List.mem_cons_of_mem _ has)]
      · rw [if_neg has, if_neg (by simp_all), List.filter_append]
        simp [hb]

/-- A further element is kept unless it has come before. -/
theorem eraseDups_concat (bs : List β) (b : β) : (bs ++ [b]).eraseDups =
    if b ∈ bs then bs.eraseDups else bs.eraseDups ++ [b] := by
  rw [List.eraseDups_append, List.cons_removeAll]
  by_cases hb : b ∈ bs
  · rw [if_pos hb, if_neg (by simpa using hb)]
    exact List.append_nil _
  · rw [if_neg hb, if_pos (by simpa using hb)]
    rfl

theorem nodup_eraseDups (bs : List β) : bs.eraseDups.Nodup := by
  induction bs using List.reverseRecOn with
  | nil => exact .nil
  | append_singleton bs b ih =>
    rw [eraseDups_concat]
    split
    · exact ih
    · next hb =>
      rw [← List.concat_eq_append]
      exact ih.concat (by rwa [List.mem_eraseDups])

/-- Each key is kept once, in the order of first occurrences. -/
theorem map_firstsBy (as : List α) : (firstsBy key as).map key = (as.map key).eraseDups := by
  induction as using List.reverseRecOn with
  | nil => rfl
  | append_singleton as a ih =>
    rw [firstsBy_concat, List.map_append, List.map_singleton, eraseDups_concat, ← ih]
    split
    · rfl
    · exact List.map_append

/-- An element is kept exactly if it is the first one with its key. -/
theorem mem_firstsBy_iff {as : List α} {a : α} :
    a ∈ firstsBy key as ↔ as.find? (key · = key a) = some a := by
  induction as with
  | nil => simp [firstsBy]
  | cons b as ih =>
    by_cases hb : key b = key a
    · rw [List.find?_cons_of_pos (by simpa using hb), Option.some.injEq, firstsBy, List.mem_cons,
        List.mem_filter]
      simp [hb, eq_comm]
    · have hne : a ≠ b := fun h => hb (congrArg key h.symm)
      rw [List.find?_cons_of_neg (by simpa using hb), ← ih, firstsBy, List.mem_cons,
        List.mem_filter]
      simp [hne, Ne.symm hb]

theorem firstsBy_map {γ : Type} (f : γ → α) (cs : List γ) :
    firstsBy key (cs.map f) = (firstsBy (key ∘ f) cs).map f := by
  induction cs with
  | nil => rfl
  | cons c cs ih => simp [firstsBy, ih, List.filter_map, Function.comp_def]

end FirstsBy

/-! ### Operations and histories -/

namespace Binder

/-- Something a binder can be asked to do. -/
inductive Operation where
  | declare (name : String) (line offset : Nat)
  | markUsed (name : String)
  | report (w : Warning)
deriving DecidableEq, Repr

/-- Performs an operation. -/
def perform (b : Binder) : Operation → Binder
  | .declare name line offset => b.declare name line offset
  | .markUsed name => b.markUsed name
  | .report w => b.report w

/-- Performs several operations in order. -/
def performAll (b : Binder) (ops : List Operation) : Binder :=
  ops.foldl perform b

/-- A declaration at a time. -/
structure Declaration where
  time : Nat
  name : String
  line : Nat
  offset : Nat
deriving DecidableEq, Repr

/-- A use of a name at a time. -/
structure Use where
  time : Nat
  name : String
deriving DecidableEq, Repr

/-- An operation at a time. -/
structure Timed where
  time : Nat
  operation : Operation
deriving DecidableEq, Repr

namespace Timed

/-- The declaration that an operation is. -/
def declaration? (e : Timed) : Option Declaration :=
  match e.operation with
  | .declare name line offset => some ⟨e.time, name, line, offset⟩
  | _ => none

/-- The use that an operation is. -/
def use? (e : Timed) : Option Use :=
  match e.operation with
  | .markUsed name => some ⟨e.time, name⟩
  | _ => none

/-- Whether an operation is concerned with a name. -/
def isNamed (e : Timed) : Bool :=
  match e.operation with
  | .report _ => false
  | _ => true

theorem of_declaration? {e : Timed} {d : Declaration} (h : e.declaration? = some d) :
    e.isNamed = true ∧ d.time = e.time := by
  obtain ⟨time, op⟩ := e
  cases op with
  | declare name line offset =>
    cases h
    exact ⟨rfl, rfl⟩
  | markUsed name => contradiction
  | report w => contradiction

theorem of_use? {e : Timed} {u : Use} (h : e.use? = some u) :
    e.isNamed = true ∧ u.time = e.time := by
  obtain ⟨time, op⟩ := e
  cases op with
  | declare name line offset => contradiction
  | markUsed name =>
    cases h
    exact ⟨rfl, rfl⟩
  | report w => contradiction

end Timed

/-- Whether operations on names come one after another. When a warning is reported does not
matter. -/
def Ordered (h : List Timed) : Prop :=
  h.Pairwise fun d e => d.isNamed = true → e.isNamed = true → d.time < e.time

/-- The declarations of a history. -/
def declarations (h : List Timed) : List Declaration :=
  h.filterMap Timed.declaration?

/-- The uses of a history. -/
def uses (h : List Timed) : List Use :=
  h.filterMap Timed.use?

/-- The symbol that a first declaration makes. -/
def Declaration.symbol (later : List Use) (d : Declaration) : Symbol :=
  ⟨d.name, d.line, d.offset, later.any fun u => u.name = d.name ∧ d.time < u.time⟩

/-- Whether a use comes behind a declaration of its name. -/
def Use.isDeclared (ds : List Declaration) (u : Use) : Bool :=
  ds.any fun d => d.name = u.name ∧ d.time < u.time

/-- The symbols that a history leads to. -/
def symbolsOf (h : List Timed) : List Symbol :=
  (firstsBy Declaration.name (declarations h)).map (Declaration.symbol (uses h))

/-- The warnings that an operation leads to when some declarations are made. -/
def Timed.warnings (ds : List Declaration) (e : Timed) : List Warning :=
  match e.operation with
  | .declare .. => []
  | .markUsed name => if Use.isDeclared ds ⟨e.time, name⟩ then [] else [.undeclared name]
  | .report w => [w]

/-- The warnings that a history leads to. -/
def logOf (h : List Timed) : List Warning :=
  h.flatMap (Timed.warnings (declarations h))

/-- A binder that is where a history leads to. -/
structure Follows (b : Binder) (h : List Timed) : Prop where
  symbols : b.table.symbols = symbolsOf h
  log : b.log.toList = logOf h

/-! ### One more operation -/

section Step

variable {h : List Timed} {e : Timed}

theorem filterMap_concat {α : Type} (g : Timed → Option α) (h : List Timed) (e : Timed) :
    (h ++ [e]).filterMap g = h.filterMap g ++ (g e).toList := by
  rw [List.filterMap_append]
  cases he : g e <;> simp [he]

theorem declarations_concat (h : List Timed) (e : Timed) :
    declarations (h ++ [e]) = declarations h ++ e.declaration?.toList :=
  filterMap_concat ..

theorem uses_concat (h : List Timed) (e : Timed) :
    uses (h ++ [e]) = uses h ++ e.use?.toList :=
  filterMap_concat ..

/-- What is concerned with a name is later than what was before. -/
theorem time_lt_of_ordered (ho : Ordered (h ++ [e])) (he : e.isNamed = true) {d : Timed}
    (hd : d ∈ h) (hnamed : d.isNamed = true) : d.time < e.time :=
  (List.pairwise_append.mp ho).2.2 d hd e List.mem_cons_self hnamed he

theorem declaration_time_lt (ho : Ordered (h ++ [e])) (he : e.isNamed = true) {d : Declaration}
    (hd : d ∈ declarations h) : d.time < e.time := by
  obtain ⟨d', hmem, hd'⟩ := List.mem_filterMap.mp hd
  obtain ⟨hnamed, htime⟩ := Timed.of_declaration? hd'
  rw [htime]
  exact time_lt_of_ordered ho he hmem hnamed

theorem use_time_lt (ho : Ordered (h ++ [e])) (he : e.isNamed = true) {u : Use}
    (hu : u ∈ uses h) : u.time < e.time := by
  obtain ⟨u', hmem, hu'⟩ := List.mem_filterMap.mp hu
  obtain ⟨hnamed, htime⟩ := Timed.of_use? hu'
  rw [htime]
  exact time_lt_of_ordered ho he hmem hnamed

/-- The names of the symbols are the names declared. -/
theorem contains_iff_of_follows {b : Binder} (hf : Follows b h) (name : String) :
    b.table.contains name = true ↔ name ∈ (declarations h).map Declaration.name := by
  rw [← List.mem_eraseDups, ← map_firstsBy, SymbolTable.contains, hf.symbols, symbolsOf]
  simp [Declaration.symbol]

/-- A declaration does not count for what is not later. -/
theorem warnings_append_declaration? {d : Timed} (ds : List Declaration)
    (hle : d.isNamed = true → e.isNamed = true → d.time ≤ e.time) :
    d.warnings (ds ++ e.declaration?.toList) = d.warnings ds := by
  obtain ⟨time, op⟩ := d
  cases op with
  | declare name line offset => rfl
  | report w => rfl
  | markUsed name =>
    have hsame : Use.isDeclared (ds ++ e.declaration?.toList) ⟨time, name⟩ =
        Use.isDeclared ds ⟨time, name⟩ := by
      obtain ⟨time', op'⟩ := e
      cases op' with
      | declare name' line offset =>
        have hlt : ¬ time' < time := Nat.not_lt.mpr (hle rfl rfl)
        simp [Use.isDeclared, Timed.declaration?, hlt]
      | markUsed name' => simp [Timed.declaration?]
      | report w => simp [Timed.declaration?]
    simp only [Timed.warnings, hsame]

theorem logOf_concat (ho : Ordered (h ++ [e])) :
    logOf (h ++ [e]) = logOf h ++ e.warnings (declarations h) := by
  -- What is declared last comes too late for the uses before it.
  have hold : h.flatMap (Timed.warnings (declarations (h ++ [e]))) = logOf h := by
    rw [logOf, declarations_concat, List.flatMap_def, List.flatMap_def]
    refine congrArg _ (List.map_congr_left ?_)
    intro d hd
    apply warnings_append_declaration?
    intro hnamed he
    exact Nat.le_of_lt (time_lt_of_ordered ho he hd hnamed)
  rw [logOf, List.flatMap_append, hold, List.flatMap_singleton, declarations_concat,
    warnings_append_declaration? _ fun _ _ => Nat.le_refl _]

theorem symbolsOf_declare {time : Nat} {name : String} {line offset : Nat}
    (ho : Ordered (h ++ [⟨time, .declare name line offset⟩])) :
    symbolsOf (h ++ [⟨time, .declare name line offset⟩]) =
      if name ∈ (declarations h).map Declaration.name then symbolsOf h
      else symbolsOf h ++ [⟨name, line, offset, false⟩] := by
  -- No use so far is later than the declaration, so the new symbol is not used.
  have hunused : (uses h).any (fun u => u.name = name ∧ time < u.time) = false := by
    rw [List.any_eq_false]
    intro u hu
    have hlt : u.time < time := use_time_lt ho rfl hu
    simp only [decide_eq_true_eq]
    omega
  rw [symbolsOf, declarations_concat, uses_concat]
  simp only [Timed.declaration?, Timed.use?, Option.toList_some, Option.toList_none,
    List.append_nil, firstsBy_concat]
  split
  · rfl
  · rw [List.map_append, List.map_singleton, Declaration.symbol, hunused, symbolsOf]

theorem symbolsOf_markUsed {time : Nat} {name : String}
    (ho : Ordered (h ++ [⟨time, .markUsed name⟩])) :
    symbolsOf (h ++ [⟨time, .markUsed name⟩]) =
      (symbolsOf h).map fun s => if s.name = name then { s with used := true } else s := by
  rw [symbolsOf, declarations_concat, uses_concat, symbolsOf, List.map_map]
  simp only [Timed.declaration?, Timed.use?, Option.toList_some, Option.toList_none,
    List.append_nil]
  apply List.map_congr_left
  intro d hd
  -- Every declaration so far is earlier than the use, so the name alone decides.
  have hlt : d.time < time :=
    declaration_time_lt ho rfl (List.mem_of_find?_eq_some ((mem_firstsBy_iff _).mp hd))
  by_cases hname : d.name = name
  · simp [Declaration.symbol, hname, hlt]
  · simp [Declaration.symbol, hname, Ne.symm hname]

/-- A use is declared if its name was declared at all. -/
theorem isDeclared_eq {time : Nat} {name : String} (ho : Ordered (h ++ [⟨time, .markUsed name⟩])) :
    Use.isDeclared (declarations h) ⟨time, name⟩ =
      decide (name ∈ (declarations h).map Declaration.name) := by
  rw [Bool.eq_iff_iff, Use.isDeclared, List.any_eq_true, decide_eq_true_iff, List.mem_map]
  apply exists_congr
  intro d
  apply and_congr_right
  intro hd
  have hlt : d.time < time := declaration_time_lt ho rfl hd
  simp [hlt]

/-- One more operation leads where the longer history leads. -/
theorem follows_perform {b : Binder} (hf : Follows b h) (ho : Ordered (h ++ [e])) :
    Follows (b.perform e.operation) (h ++ [e]) := by
  obtain ⟨time, op⟩ := e
  cases op with
  | declare name line offset =>
    constructor
    · -- A name that is declared once more keeps the symbol it has.
      rw [symbolsOf_declare ho, ← hf.symbols]
      simp only [← contains_iff_of_follows hf]
      exact b.table.symbols_declare name line offset
    · rw [logOf_concat ho, ← hf.log]
      exact (List.append_nil _).symm
  | markUsed name =>
    constructor
    · rw [symbolsOf_markUsed ho, ← hf.symbols, ← b.table.symbols_markUsed]
      exact congrArg SymbolTable.symbols (b.table_markUsed name)
    · -- The use is warned about if the table does not have its name.
      have hwarnings : Timed.warnings (declarations h) ⟨time, .markUsed name⟩ =
          if b.table.contains name then [] else [.undeclared name] := by
        simp only [Timed.warnings, isDeclared_eq ho, decide_eq_true_eq, contains_iff_of_follows hf]
      rw [logOf_concat ho, hwarnings, ← hf.log]
      exact b.log_markUsed name
  | report w =>
    constructor
    · have hsame : symbolsOf (h ++ [⟨time, .report w⟩]) = symbolsOf h := by
        simp [symbolsOf, declarations_concat, uses_concat, Timed.declaration?, Timed.use?]
      rw [hsame]
      exact hf.symbols
    · rw [logOf_concat ho, ← hf.log]
      exact WarningLog.toList_add b.log w

end Step

/-! ### A whole history -/

theorem performAll_append (b : Binder) (ops more : List Operation) :
    b.performAll (ops ++ more) = (b.performAll ops).performAll more :=
  List.foldl_append

/-- A binder is where its history leads to. -/
theorem follows_performAll (h : List Timed) (ho : Ordered h) :
    Follows (empty.performAll (h.map Timed.operation)) h := by
  -- The history grows at its end, where each operation is later than all before.
  induction h using List.reverseRecOn with
  | nil => exact ⟨rfl, rfl⟩
  | append_singleton h e ih =>
    rw [List.map_append, performAll_append]
    exact follows_perform (ih (List.pairwise_append.mp ho).1) ho

end Binder

end UsageScan
