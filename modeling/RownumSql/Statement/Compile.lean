import RownumSql.Statement.RowUnion
import RownumSql.Statement.Select
import RownumSql.Query.Document

/-!
# Compiling queries

A query of any kind becomes SQL with its bindings.  Compiling also leaves behind the query with the
closing texts of its windows, and the table of aliases with those that were needed.
-/

namespace RownumSql

namespace Emit

/-! ## The other kinds of statement -/

def insert (d : Dialect) (q : Query) : Emit (Except SqlError String × Query) :=
  match q.insertion with
  | none => pure (.error .insertWithoutValues, q)
  | some i =>
    if i.table = "" then pure (.error .insertWithoutTable, q)
    else do
      let columns ← quoteAll d i.columns
      let table ← quote d i.table
      let head := "INSERT INTO " ++ table ++ " (" ++ ", ".intercalate columns ++ ")"
      let union ← onBindings i.rowUnion
      match union, i.source, i.rows with
      | .error e, _, _ => pure (.error e, q)
      | .ok (some source), _, _ => do
        let (sql, _) ← select d .outer source
        pure (sql.map (head ++ " " ++ ·), q)
      | .ok none, some source, _ => do
        let (sql, source) ← select d .outer source
        pure (sql.map (head ++ " " ++ ·), { q with insertion := some { i with source } })
      | .ok none, none, [row] =>
        if i.columns.length < row.length then
          pure (.error (.shapeMismatch 0 i.columns.length row.length), q)
        else do
          let texts ← exprs d row
          let items := texts ++ List.replicate (i.columns.length - texts.length) "NULL"
          pure (.ok (head ++ " VALUES (" ++ ", ".intercalate items ++ ")"), q)
      | .ok none, none, _ => pure (.error .insertWithoutRows, q)

def assignments (d : Dialect) : List Assignment → Emit (List String)
  | [] => pure []
  | a :: rest => do
    let column ← quote d a.column
    let text ← expr d a.value
    let others ← assignments d rest
    pure ((column ++ " = " ++ text) :: others)

def update (d : Dialect) (q : Query) : Emit (Except SqlError String) :=
  match q.update with
  | none => pure (.error .updateWithoutTable)
  | some u =>
    if u.assignments.isEmpty then pure (.error .updateWithoutAssignments)
    else do
      let texts ← assignments d u.assignments
      let table ← quote d u.table
      let conds ← conditions d " WHERE" q.conditions
      pure (.ok ("UPDATE " ++ table ++ " SET " ++ ", ".intercalate texts ++ conds))

def delete (d : Dialect) (q : Query) : Emit (Except SqlError String) :=
  match q.tables with
  | [] => pure (.error .deleteWithoutTable)
  | t :: _ => do
    let name ← table d t
    let conds ← conditions d " WHERE" q.conditions
    pure (.ok ("DELETE FROM " ++ name ++ conds))

def query (d : Dialect) (q : Query) : Emit (Except SqlError String × Query) :=
  match q.kind with
  | .select => select d .outer q
  | .insert => insert d q
  | .update => do
    let sql ← update d q
    pure (sql, q)
  | .delete => do
    let sql ← delete d q
    pure (sql, q)

end Emit

/-! ## Compilations -/

/-- A query in SQL. -/
structure CompiledQuery where
  sql : String
  bindings : List Binding
  kind : QueryKind
  /-- Whether the last column of the rows is their number. -/
  rowNumberColumn : Bool
  /-- Whether the rows may be held in memory at once. -/
  buffered : Bool
deriving DecidableEq

def CompiledQuery.toDocument (c : CompiledQuery) : Document :=
  .table
    [("sql", .text c.sql),
     ("bindings", Bindings.toDocument c.bindings),
     ("kind", .text c.kind.name),
     ("row_number_column", .bool c.rowNumberColumn),
     ("buffered", .bool c.buffered)]

/-- What compiling a query comes to. -/
structure Compilation where
  result : Except SqlError CompiledQuery
  /-- The query with the closing texts of its windows. -/
  query : Query
  aliases : AliasTable

/-- Compiles a query, given the aliases that are there. -/
def Dialect.compile (d : Dialect) (aliases : AliasTable) (q : Query) : Compilation :=
  let run := (Emit.query d q).run { aliases }
  let sql := run.1.1
  let progress := run.2
  { result := sql.map fun sql =>
      { sql
        bindings := progress.bindings.entries
        kind := q.kind
        rowNumberColumn := q.kind = .select && 0 < q.offsetValue
        buffered := q.buffered && q.kind = .select }
    query := run.1.2
    aliases := progress.aliases }

end RownumSql
