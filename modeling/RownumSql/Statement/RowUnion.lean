import RownumSql.Binding
import RownumSql.Query
import RownumSql.SqlError

/-!
# Inserting several rows

A server without lists of rows is given a union of selections from `DUAL`, one for each row.
-/

namespace RownumSql.Insertion

/-- What is selected for a cell: null where the row is short or holds null, the placeholder of any
other scalar, and all else as it is. -/
def cell : Option Expr → StateM Bindings Expr
  | none => pure (.raw "NULL")
  | some (.value .null) => pure (.raw "NULL")
  | some (.value v) => do
    let placeholder ← Bindings.place v
    pure (.raw placeholder)
  | some e => pure e

/-- The items of a row, each under its column. -/
def rowItems : List String → List Expr → StateM Bindings (List SelectItem)
  | [], _ => pure []
  | column :: columns, row => do
    let first ← cell row.head?
    let others ← rowItems columns row.tail
    pure (⟨first, some column⟩ :: others)

/-- The selection of each row, up to the first that is longer than the column list; `index` is the
number of the first row. -/
def rowSelections (columns : List String) :
    Nat → List (List Expr) → StateM Bindings (Except SqlError (List Query))
  | _, [] => pure (.ok [])
  | index, row :: rows => do
    if columns.length < row.length then
      pure (.error (.shapeMismatch index columns.length row.length))
    else do
      let items ← rowItems columns row
      let others ← rowSelections columns (index + 1) rows
      pure (others.map ({ select := items, tables := [⟨"DUAL", none⟩] } :: ·))

/-- The union that stands in for several rows.  There is none for a single row, and none for an
insertion that has a source query. -/
def rowUnion (i : Insertion Query) : StateM Bindings (Except SqlError (Option Query)) :=
  if i.rows.length ≤ 1 || i.source.isSome then pure (.ok none)
  else do
    let selections ← rowSelections i.columns 0 i.rows
    pure (selections.map fun
      | [] => none
      | first :: others => some { first with branches := others.map fun q => ⟨true, q⟩ })

end RownumSql.Insertion
