import UsageScan.Warning
/-!
# Symbols

A symbol is a declared name with the place of its first declaration. The table keeps each name once,
in the order of first declarations, and never forgets one.

## Main definitions

* `Symbol`, `SymbolTable`
* `SymbolTable.declare`, `SymbolTable.markUsed` — the two ways a table changes
* `SymbolTable.unused` — the symbols that were declared but never used
* `SymbolTable.unusedWarnings` — one warning for each of them
-/

set_option autoImplicit false

namespace UsageScan

/-- A declared name. -/
structure Symbol where
  name : String
  /-- The line of the first declaration. -/
  line : Nat
  /-- The byte offset of the name in its first declaration. It serves as the column. -/
  offset : Nat
  /-- Whether the name was used after its first declaration. -/
  used : Bool
deriving DecidableEq, Repr

/-- Where warnings about a symbol point to. -/
def Symbol.location (s : Symbol) : Location :=
  ⟨s.line, s.offset⟩

/-- The declared names, in the order of their first declarations. -/
structure SymbolTable where
  symbols : List Symbol
deriving DecidableEq, Repr

namespace SymbolTable

/-- The table without a name. -/
def empty : SymbolTable :=
  ⟨[]⟩

/-- The number of names. -/
def size (t : SymbolTable) : Nat :=
  t.symbols.length

/-- Whether there is no name. -/
def isEmpty (t : SymbolTable) : Bool :=
  t.symbols.isEmpty

/-- The symbol of a name. -/
def find? (t : SymbolTable) (name : String) : Option Symbol :=
  t.symbols.find? (·.name == name)

/-- Whether a name is declared. -/
def contains (t : SymbolTable) (name : String) : Bool :=
  t.symbols.any (·.name == name)

/-- Enters a name, not yet used, behind all others, and says whether it was new. A name that is
declared already keeps its symbol as it is. -/
def declare (t : SymbolTable) (name : String) (line offset : Nat) : Bool × SymbolTable :=
  if t.contains name then (false, t) else (true, ⟨t.symbols ++ [⟨name, line, offset, false⟩]⟩)

/-- Notes that a name was used, and says whether it is declared. -/
def markUsed (t : SymbolTable) (name : String) : Bool × SymbolTable :=
  if t.contains name then
    (true, ⟨t.symbols.map fun s => if s.name = name then { s with used := true } else s⟩)
  else (false, t)

/-- The symbols that were never used. -/
def unused (t : SymbolTable) : List Symbol :=
  t.symbols.filter (!·.used)

/-- One warning for each symbol that was never used, at its declaration. -/
def unusedWarnings (t : SymbolTable) : List Warning :=
  t.unused.map fun s => .unused s.name s.location

end SymbolTable

end UsageScan
