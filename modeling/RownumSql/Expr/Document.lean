import RownumSql.Expr

/-!
# Documents of expressions and clause items

An expression is a table with one key that tells its kind.  What is written is read back, save that
a text that reads as a date becomes one.
-/

namespace RownumSql

namespace Expr

/-! ## Expressions -/

mutual
/-- The document of an expression. -/
def toDocument : Expr → Document
  | column name => .table [("column", .text name)]
  | value v => .table [("value", v.toDocument)]
  | raw sql => .table [("raw", .text sql)]
  | compare l op r =>
    .table [("compare",
      .table [("left", l.toDocument), ("op", .text op.name), ("right", r.toDocument)])]
  | function name args =>
    .table [("function", .table [("name", .text name), ("args", .list (listDocuments args))])]

def listDocuments : List Expr → List Document
  | [] => []
  | e :: es => e.toDocument :: listDocuments es
end

/-- The expression of a document of at most the given depth. -/
def ofDepth? (f : Document.Format) : Nat → Document → Option Expr
  | 0, _ => none
  | n + 1, d =>
    match d with
    | .table [("column", .text name)] => some (column name)
    | .table [("value", v)] => (Value.ofDocument? v).map value
    | .table [("raw", .text sql)] => some (raw sql)
    | .table [("compare", d)] => do
      let fields ← d.variantFields? f ["left", "op", "right"]
      let left ← Document.required? fields "left" (ofDepth? f n)
      let op ← Document.required? fields "op" (Document.oneOf? f Operator.names)
      let right ← Document.required? fields "right" (ofDepth? f n)
      pure (compare left op right)
    | .table [("function", d)] => do
      let fields ← d.variantFields? f ["name", "args"]
      let name ← Document.required? fields "name" Document.text?
      let args ← Document.required? fields "args" (Document.list? (ofDepth? f n))
      pure (function name args)
    | _ => none

def ofDocument? (f : Document.Format) (d : Document) : Option Expr := ofDepth? f d.depth d

end Expr

/-! ## Clause items -/

def exprsDocument (es : List Expr) : Document := .list (Expr.listDocuments es)

def SelectItem.toDocument (i : SelectItem) : Document :=
  .table [("expr", i.expr.toDocument), ("alias", .ofText? i.label)]

def SelectItem.ofDocument? (f : Document.Format) (d : Document) : Option SelectItem := do
  let fields ← d.fields? f ["expr", "alias"]
  pure ⟨← Document.required? fields "expr" (Expr.ofDocument? f),
    ← Document.optional? fields "alias" Document.text?⟩

def TableRef.toDocument (t : TableRef) : Document :=
  .table [("name", .text t.name), ("alias", .ofText? t.label)]

def TableRef.ofDocument? (f : Document.Format) (d : Document) : Option TableRef := do
  let fields ← d.fields? f ["name", "alias"]
  pure ⟨← Document.required? fields "name" Document.text?,
    ← Document.optional? fields "alias" Document.text?⟩

def Join.toDocument (j : Join) : Document :=
  .table [("kind", .text j.kind.name), ("table", j.table.toDocument), ("on", exprsDocument j.on)]

def Join.ofDocument? (f : Document.Format) (d : Document) : Option Join := do
  let fields ← d.fields? f ["kind", "table", "on"]
  pure ⟨← Document.defaulted? fields "kind" (Document.oneOf? f JoinKind.names) .inner,
    ← Document.required? fields "table" (TableRef.ofDocument? f),
    ← Document.defaulted? fields "on" (Document.list? (Expr.ofDocument? f)) []⟩

def SortKey.toDocument (k : SortKey) : Document :=
  .table [("expr", k.expr.toDocument), ("order", .text k.order.name)]

def SortKey.ofDocument? (f : Document.Format) (d : Document) : Option SortKey := do
  let fields ← d.fields? f ["expr", "order"]
  pure ⟨← Document.required? fields "expr" (Expr.ofDocument? f),
    ← Document.defaulted? fields "order" (Document.oneOf? f SortOrder.names) .asc⟩

def Epilog.toDocument : Epilog → Document
  | sql text => .table [("sql", .text text)]
  | expr e => .table [("expr", e.toDocument)]

def Epilog.ofDocument? (f : Document.Format) : Document → Option Epilog
  | .table [("sql", .text text)] => some (sql text)
  | .table [("expr", d)] => (Expr.ofDocument? f d).map expr
  | _ => none

def Assignment.toDocument (a : Assignment) : Document :=
  .table [("column", .text a.column), ("value", a.value.toDocument)]

def Assignment.ofDocument? (f : Document.Format) (d : Document) : Option Assignment := do
  let fields ← d.fields? f ["column", "value"]
  pure ⟨← Document.required? fields "column" Document.text?,
    ← Document.required? fields "value" (Expr.ofDocument? f)⟩

end RownumSql
