import RownumSql.Statement.Clause
import RownumSql.Statement.Page

/-!
# SQL of selections

A selection is its clauses, the branches of its union and its epilog, inside a row window if it has
a page.  The query is handed back with the closing texts of the windows that were opened, also if
the compilation stops on the way.
-/

namespace RownumSql.Emit

/-! ## Branches of a union -/

/-- The name under which an item can be selected again, if it has one: the last part of a
column. -/
def itemName? (item : SelectItem) : Option String :=
  match item.label, item.expr with
  | some label, _ => some label
  | none, .column name =>
    let last := (Dialect.parts name).getLastD ""
    if !last.toList.isEmpty && last.toList.all fun c => AliasTable.isAlphanumeric c || c = '_'
    then some last else none
  | none, _ => none

/-- The quoted names of selected items, up to the first that has none. -/
def itemNames (d : Dialect) : List SelectItem → Emit (Except SqlError (List String))
  | [] => pure (.ok [])
  | item :: rest =>
    match itemName? item with
    | none => pure (.error .unnamedBranch)
    | some name => do
      let first ← quote d name
      let others ← itemNames d rest
      pure (others.map (first :: ·))

/-- The select list that drops the row numbers of a branch. -/
def projection (d : Dialect) (items : List SelectItem) : Emit (Except SqlError String) :=
  if items.isEmpty then pure (.error .unnamedBranch)
  else do
    let names ← itemNames d items
    pure (names.map (", ".intercalate ·))

/-- The names of a branch's window, and the select list around it if it skips rows. -/
def enterBranch (d : Dialect) (q : Query) : Emit (Except SqlError (PageNames × Option String)) :=
  if q.limitValue < 1 && q.offsetValue < 1 then pure (.ok (.outer, none))
  else do
    let n ← nextBranch
    if 0 < q.offsetValue then do
      let names ← projection d q.select
      pure (names.map fun names => (.branch n, some names))
    else pure (.ok (.branch n, none))

/-- A branch inside the select list that drops its row numbers. -/
def project (names : Option String) (sql : String) : String :=
  match names with
  | some names => "SELECT " ++ names ++ " FROM (" ++ sql ++ ")"
  | none => sql

/-- The word between two branches. -/
def unionWord (all : Bool) : String := if all then " UNION ALL " else " UNION "

/-! ## Selections -/

mutual
/-- The SQL of a selection whose window binds the given names. -/
def select (d : Dialect) (names : PageNames) : Query → Emit (Except SqlError String × Query)
  | q@{ branches, .. } => do
    Page.bindBounds names q.limitValue q.offsetValue
    let head ← body d q
    let (unions, branches) ← selectBranches d branches
    let closing := Page.closing names q.limitValue q.offsetValue
    let left := { q with branches, closing }
    match unions with
    | .error e => pure (.error e, left)
    | .ok unions => do
      let epilog ← epilogClause d q.epilog
      let sql := Page.opening q.limitValue q.offsetValue ++ head ++ unions ++ epilog
        ++ closing.text q.limitValue q.offsetValue
      pure (.ok sql, left)

def selectBranches (d : Dialect) :
    List (Branch Query) → Emit (Except SqlError String × List (Branch Query))
  | [] => pure (.ok "", [])
  | ⟨all, q⟩ :: rest => do
    let entered ← enterBranch d q
    match entered with
    | .error e => pure (.error e, ⟨all, q⟩ :: rest)
    | .ok (names, around) => do
      let (sql, q) ← select d names q
      match sql with
      | .error e => pure (.error e, ⟨all, q⟩ :: rest)
      | .ok sql => do
        let (others, rest) ← selectBranches d rest
        pure (others.map (unionWord all ++ project around sql ++ ·), ⟨all, q⟩ :: rest)
end

end RownumSql.Emit
