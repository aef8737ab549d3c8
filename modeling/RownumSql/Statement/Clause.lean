import RownumSql.Query
import RownumSql.Statement.Progress

/-!
# SQL of the clauses

Scalars become placeholders, but null stays a literal; names are quoted in the order in which they
are written.
-/

namespace RownumSql.Emit

/-! ## Expressions -/

mutual
def expr (d : Dialect) : Expr → Emit String
  | .column name => quote d name
  | .value .null => pure "NULL"
  | .value v => place v
  | .raw sql => pure sql
  | .compare left op right => do
    let l ← expr d left
    if op.isUnary then pure (l ++ " " ++ op.sql)
    else do
      let r ← expr d right
      pure (l ++ " " ++ op.sql ++ " " ++ r)
  | .function name args => do
    let texts ← exprs d args
    pure (name ++ "(" ++ ", ".intercalate texts ++ ")")

def exprs (d : Dialect) : List Expr → Emit (List String)
  | [] => pure []
  | e :: es => do
    let first ← expr d e
    let others ← exprs d es
    pure (first :: others)
end

/-! ## Clauses -/

/-- A keyword and expressions; nothing if there are none. -/
def clause (d : Dialect) (keyword separator : String) (es : List Expr) : Emit String :=
  if es.isEmpty then pure ""
  else do
    let texts ← exprs d es
    pure (keyword ++ " " ++ separator.intercalate texts)

/-- A keyword and conditions that all have to hold. -/
def conditions (d : Dialect) (keyword : String) (es : List Expr) : Emit String :=
  clause d keyword " AND " es

def selectItem (d : Dialect) (item : SelectItem) : Emit String := do
  let text ← expr d item.expr
  match item.label with
  | some label => do
    let name ← quote d label
    pure (text ++ " AS " ++ name)
  | none => pure text

def selectItems (d : Dialect) : List SelectItem → Emit (List String)
  | [] => pure []
  | item :: rest => do
    let first ← selectItem d item
    let others ← selectItems d rest
    pure (first :: others)

/-- The select list; a star if it is empty. -/
def selectClause (d : Dialect) (distinct : Bool) (items : List SelectItem) : Emit String := do
  let head := if distinct then "SELECT DISTINCT " else "SELECT "
  if items.isEmpty then pure (head ++ "*")
  else do
    let texts ← selectItems d items
    pure (head ++ ", ".intercalate texts)

/-- A table and its alias, without a word between them. -/
def table (d : Dialect) (t : TableRef) : Emit String := do
  let name ← quote d t.name
  match t.label with
  | some label => do
    let short ← quote d label
    pure (name ++ " " ++ short)
  | none => pure name

def tables (d : Dialect) : List TableRef → Emit (List String)
  | [] => pure []
  | t :: rest => do
    let first ← table d t
    let others ← tables d rest
    pure (first :: others)

/-- The tables that are read; nothing if there are none. -/
def fromClause (d : Dialect) (ts : List TableRef) : Emit String :=
  if ts.isEmpty then pure ""
  else do
    let texts ← tables d ts
    pure (" FROM " ++ ", ".intercalate texts)

def joinClauses (d : Dialect) : List Join → Emit String
  | [] => pure ""
  | j :: rest => do
    let name ← table d j.table
    let on ← conditions d " ON" j.on
    let others ← joinClauses d rest
    pure (" " ++ j.kind.sql ++ " " ++ name ++ on ++ others)

def sortKeys (d : Dialect) : List SortKey → Emit (List String)
  | [] => pure []
  | k :: rest => do
    let text ← expr d k.expr
    let others ← sortKeys d rest
    pure ((text ++ " " ++ k.order.sql) :: others)

/-- The order; nothing if there are no keys. -/
def orderClause (d : Dialect) (ks : List SortKey) : Emit String :=
  if ks.isEmpty then pure ""
  else do
    let texts ← sortKeys d ks
    pure (" ORDER BY " ++ ", ".intercalate texts)

/-- The text at the end of a query. -/
def epilogClause (d : Dialect) : Option Epilog → Emit String
  | none => pure ""
  | some (.sql text) => pure (" " ++ text)
  | some (.expr e) => do
    let text ← expr d e
    pure (" " ++ text)

/-- The clauses from the select list to the order. -/
def body (d : Dialect) (q : Query) : Emit String := do
  let select ← selectClause d q.distinct q.select
  let tables ← fromClause d q.tables
  let joins ← joinClauses d q.joins
  let conds ← conditions d " WHERE" q.conditions
  let groups ← clause d " GROUP BY" ", " q.groups
  let having ← conditions d " HAVING" q.having
  let order ← orderClause d q.order
  pure (select ++ tables ++ joins ++ conds ++ groups ++ having ++ order)

end RownumSql.Emit
