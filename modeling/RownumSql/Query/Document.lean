import RownumSql.Expr.Document
import RownumSql.Query

/-!
# Documents of queries

Every clause is written, also those at their defaults; the closing texts of the row window are not.
A clause that is not there is read as its default.
-/

namespace RownumSql

/-- A natural number of 64 bits, or null. -/
def countDocument : Option UInt64 → Document
  | some n => .int n.toNat
  | none => .null

def Update.toDocument (u : Update) : Document :=
  .table [("table", .text u.table), ("set", .list (u.assignments.map Assignment.toDocument))]

def Update.ofDocument? (f : Document.Format) (d : Document) : Option Update := do
  let fields ← d.fields? f ["table", "set"]
  pure ⟨← Document.required? fields "table" Document.text?,
    ← Document.defaulted? fields "set" (Document.list? (Assignment.ofDocument? f)) []⟩

namespace Query

/-! ## Writing -/

mutual
/-- The document of a query. -/
def toDocument : Query → Document
  | q@{ branches, insertion, .. } =>
    .table
      [("kind", .text q.kind.name),
       ("distinct", .bool q.distinct),
       ("select", .list (q.select.map SelectItem.toDocument)),
       ("from", .list (q.tables.map TableRef.toDocument)),
       ("join", .list (q.joins.map Join.toDocument)),
       ("where", exprsDocument q.conditions),
       ("group", exprsDocument q.groups),
       ("having", exprsDocument q.having),
       ("order", .list (q.order.map SortKey.toDocument)),
       ("limit", countDocument q.limit),
       ("offset", countDocument q.offset),
       ("union", .list (branchDocuments branches)),
       ("epilog", (q.epilog.map Epilog.toDocument).getD .null),
       ("values", insertionDocument insertion),
       ("update", (q.update.map Update.toDocument).getD .null),
       ("buffered", .bool q.buffered)]

def branchDocuments : List (Branch Query) → List Document
  | [] => []
  | ⟨all, q⟩ :: rest =>
    .table [("all", .bool all), ("query", toDocument q)] :: branchDocuments rest

/-- The document of an insertion, or null. -/
def insertionDocument : Option (Insertion Query) → Document
  | none => .null
  | some ⟨table, columns, rows, source⟩ =>
    .table
      [("table", .text table),
       ("columns", .ofTexts columns),
       ("rows", .list (rows.map exprsDocument)),
       ("query", sourceDocument source)]

def sourceDocument : Option Query → Document
  | none => .null
  | some q => toDocument q
end

/-! ## Reading -/

/-- The branch of a document, its query read by `read`. -/
def branchOfDocument? (f : Document.Format) (read : Document → Option Query) (d : Document) :
    Option (Branch Query) := do
  let fields ← d.fields? f ["all", "query"]
  pure ⟨← Document.defaulted? fields "all" Document.bool? false,
    ← Document.required? fields "query" read⟩

/-- The insertion of a document, its source read by `read`. -/
def insertionOfDocument? (f : Document.Format) (read : Document → Option Query)
    (d : Document) : Option (Insertion Query) := do
  let fields ← d.fields? f ["table", "columns", "rows", "query"]
  pure ⟨← Document.required? fields "table" Document.text?,
    ← Document.required? fields "columns" (Document.list? Document.text?),
    ← Document.defaulted? fields "rows" (Document.list? (Document.list? (Expr.ofDocument? f))) [],
    ← Document.optional? fields "query" read⟩

/-- The names of the clauses in documents. -/
def clauseNames : List String :=
  ["kind", "distinct", "select", "from", "join", "where", "group", "having", "order", "limit",
   "offset", "union", "epilog", "values", "update", "buffered"]

/-- The query of a document of at most the given depth. -/
def ofDepth? (f : Document.Format) : Nat → Document → Option Query
  | 0, _ => none
  | n + 1, d => do
    let fields ← d.fields? f clauseNames
    let exprs := Document.list? (Expr.ofDocument? f)
    let kind ← Document.defaulted? fields "kind" (Document.oneOf? f QueryKind.names) .select
    let distinct ← Document.defaulted? fields "distinct" Document.bool? false
    let select ← Document.defaulted? fields "select" (Document.list? (SelectItem.ofDocument? f)) []
    let tables ← Document.defaulted? fields "from" (Document.list? (TableRef.ofDocument? f)) []
    let joins ← Document.defaulted? fields "join" (Document.list? (Join.ofDocument? f)) []
    let conditions ← Document.defaulted? fields "where" exprs []
    let groups ← Document.defaulted? fields "group" exprs []
    let having ← Document.defaulted? fields "having" exprs []
    let order ← Document.defaulted? fields "order" (Document.list? (SortKey.ofDocument? f)) []
    let limit ← Document.optional? fields "limit" Document.uint64?
    let offset ← Document.optional? fields "offset" Document.uint64?
    let branches ←
      Document.defaulted? fields "union" (Document.list? (branchOfDocument? f (ofDepth? f n))) []
    let epilog ← Document.optional? fields "epilog" (Epilog.ofDocument? f)
    let insertion ← Document.optional? fields "values" (insertionOfDocument? f (ofDepth? f n))
    let update ← Document.optional? fields "update" (Update.ofDocument? f)
    let buffered ← Document.defaulted? fields "buffered" Document.bool? true
    pure { kind, distinct, select, tables, joins, conditions, groups, having, order, limit, offset,
           branches, epilog, insertion, update, buffered }

def ofDocument? (f : Document.Format) (d : Document) : Option Query := ofDepth? f d.depth d

end Query

end RownumSql
