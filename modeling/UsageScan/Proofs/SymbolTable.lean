import UsageScan.Binder
import Mathlib.Data.List.Basic
/-!
# What changes a table of symbols

A declaration enters its name behind all others or changes nothing, and a use marks the symbols of
its name or is warned about. Both are stated here by the names and the symbols of a table, so that
nobody looks again at how the table is searched.

## Main results

* `SymbolTable.symbols_declare`, `SymbolTable.symbols_markUsed` — the symbols behind a declaration
  and behind a use
* `Binder.log_markUsed` — the warnings behind a use
-/

set_option autoImplicit false

namespace UsageScan

namespace SymbolTable

variable (t : SymbolTable) (name : String)

theorem contains_iff : t.contains name = true ↔ name ∈ t.symbols.map Symbol.name := by
  simp [contains]

theorem contains_declare (new : String) (line offset : Nat) :
    (t.declare new line offset).2.contains name = (t.contains name || new == name) := by
  rw [declare]
  by_cases hnew : t.contains new = true
  · rw [if_pos hnew]
    by_cases hname : new = name
    · simp [← hname, hnew]
    · simp [hname]
  · rw [if_neg hnew]
    simp [contains]

/-- Noting a use enters no name. -/
theorem contains_markUsed (used : String) :
    (t.markUsed used).2.contains name = t.contains name := by
  rw [markUsed]
  split
  · simp only [contains, List.any_map]
    congr 1
    funext s
    rw [Function.comp_apply]
    split <;> rfl
  · rfl

theorem symbols_declare (line offset : Nat) : (t.declare name line offset).2.symbols =
    if t.contains name then t.symbols else t.symbols ++ [⟨name, line, offset, false⟩] := by
  rw [declare]
  split <;> rfl

/-- Noting the use of a name that is not in the table changes no symbol. -/
theorem map_used_of_not_contains {t : SymbolTable} {name : String}
    (ht : ¬ t.contains name = true) :
    (t.symbols.map fun s => if s.name = name then { s with used := true } else s) = t.symbols := by
  rw [contains_iff] at ht
  refine (List.map_congr_left ?_).trans (List.map_id _)
  intro s hs
  apply if_neg
  rintro rfl
  exact ht (List.mem_map_of_mem hs)

theorem symbols_markUsed : (t.markUsed name).2.symbols =
    t.symbols.map fun s => if s.name = name then { s with used := true } else s := by
  rw [markUsed]
  split
  · rfl
  · next h => exact (map_used_of_not_contains h).symm

end SymbolTable

namespace Binder

variable (b : Binder) (name : String)

theorem table_markUsed : (b.markUsed name).table = (b.table.markUsed name).2 := by
  rw [markUsed, SymbolTable.markUsed]
  by_cases h : b.table.contains name = true
  · rw [if_pos h]
  · rw [if_neg h]

/-- Only the use of a name that is not in the table is warned about. -/
theorem log_markUsed : (b.markUsed name).log.toList =
    b.log.toList ++ if b.table.contains name then [] else [.undeclared name] := by
  rw [markUsed, SymbolTable.markUsed]
  by_cases h : b.table.contains name = true
  · rw [if_pos h, if_pos h, List.append_nil]
  · rw [if_neg h, if_neg h, WarningLog.toList_add]

end Binder

end UsageScan
