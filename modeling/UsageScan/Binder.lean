import UsageScan.Symbol
import UsageScan.Token
/-!
# Binding names

A binder follows the declarations and uses of one source. It fills the symbol table and records a
warning for each use of a name that has not been declared before. Warnings found elsewhere are
reported to it as well, so that all are in one order.
-/

set_option autoImplicit false

namespace UsageScan

/-- The names declared so far and the warnings recorded so far. -/
structure Binder where
  table : SymbolTable
  log : WarningLog
deriving DecidableEq, Repr

namespace Binder

/-- The binder that has seen nothing. -/
def empty : Binder :=
  ⟨.empty, .empty⟩

/-- Follows a declaration. A further declaration of a name changes nothing. -/
def declare (b : Binder) (name : String) (line offset : Nat) : Binder :=
  { b with table := (b.table.declare name line offset).2 }

/-- Follows a use. A name that is not declared is warned about and not entered. -/
def markUsed (b : Binder) (name : String) : Binder :=
  match b.table.markUsed name with
  | (true, table) => { b with table }
  | (false, _) => { b with log := b.log.add (.undeclared name) }

/-- Follows a token. An identifier is a use of its name, and no other token uses one. -/
def follow (b : Binder) (token : Token) : Binder :=
  if token.kind = .identifier then b.markUsed token.text else b

/-- Records a warning found elsewhere. -/
def report (b : Binder) (w : Warning) : Binder :=
  { b with log := b.log.add w }

end Binder

end UsageScan
