import RownumSql.Binding
import RownumSql.Dialect
import RownumSql.SqlError

/-!
# The state of a compilation

SQL is emitted clause by clause.  What one clause leaves to the next is the table of aliases, the
bindings, and the number of union branches that have a page.
-/

namespace RownumSql

/-- What a compilation carries from clause to clause. -/
structure Progress where
  aliases : AliasTable
  bindings : Bindings := {}
  pagedBranches : Nat := 0
deriving DecidableEq

/-- A step of a compilation. -/
abbrev Emit := StateM Progress

namespace Emit

def quote (d : Dialect) (name : String) : Emit String := fun p =>
  let r := (d.quote name).run p.aliases
  (r.1, { p with aliases := r.2 })

def quoteAll (d : Dialect) : List String → Emit (List String)
  | [] => pure []
  | name :: rest => do
    let first ← quote d name
    let others ← quoteAll d rest
    pure (first :: others)

/-- Runs a step on the bindings alone. -/
def onBindings {α : Type} (step : StateM Bindings α) : Emit α := fun p =>
  let r := step.run p.bindings
  (r.1, { p with bindings := r.2 })

/-- Binds a value under a new placeholder. -/
def place (v : Value) : Emit String := onBindings (Bindings.place v)

def bind (name : String) (v : Value) : Emit Unit := onBindings fun b => ((), b.bind name v)

/-- Counts one more branch with a page, and gives its number. -/
def nextBranch : Emit Nat := fun p =>
  (p.pagedBranches + 1, { p with pagedBranches := p.pagedBranches + 1 })

end Emit

end RownumSql
