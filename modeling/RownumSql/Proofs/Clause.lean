import RownumSql.Proofs.Nesting
import RownumSql.Proofs.Template

/-!
# Templates of the clauses

Each clause has a template that does not depend on what was written before, and writing the clause
is writing its template (`body_eq_fill` for the clauses from the select list to the order).
-/

namespace RownumSql

/-! ## Expressions -/

namespace Expr

mutual
def template : Expr → Template
  | column name => [.identifier name]
  | value v => if v.isNull then [.sql "NULL"] else [.scalar v]
  | raw sql => [.sql sql]
  | compare left op right =>
    template left ++ if op.isUnary then [.sql (" " ++ op.sql)]
      else .sql (" " ++ op.sql ++ " ") :: template right
  | function name args => .sql (name ++ "(") :: Template.joined ", " (templates args) ++ [.sql ")"]

def templates : List Expr → List Template
  | [] => []
  | e :: es => template e :: templates es
end

theorem templates_eq_map (es : List Expr) : templates es = es.map template := by
  induction es with
  | nil => rfl
  | cons e es ih => rw [templates, ih, List.map_cons]

end Expr

namespace Emit

theorem exprs_eq_fills_of_forall (d : Dialect) (es : List Expr)
    (h : ∀ e ∈ es, expr d e = fill d e.template) : exprs d es = fills d (es.map Expr.template) := by
  induction es with
  | nil => rfl
  | cons e es ih =>
    obtain ⟨he, hes⟩ := List.forall_mem_cons.mp h
    rw [exprs, he, ih hes, List.map_cons, fills]

theorem expr_eq_fill (d : Dialect) (e : Expr) : expr d e = fill d e.template := by
  induction e using Expr.induction with
  | column name => rw [expr, Expr.template, fill_identifier]
  | value v =>
    cases v with
    | null => simp [expr, Expr.template, Value.isNull]
    | _ => simp [expr, Expr.template, Value.isNull]
  | raw sql => simp [expr, Expr.template]
  | compare left op right hl hr =>
    rw [expr, Expr.template, fill_append, hl]
    cases op.isUnary with
    | true => simp [String.append_assoc]
    | false => simp [String.append_assoc, hr]
  | function name args ih =>
    rw [expr, Expr.template, Expr.templates_eq_map, exprs_eq_fills_of_forall d args ih]
    simp [fill_append, Template.fill_joined, String.append_assoc]

theorem exprs_eq_fills (d : Dialect) (es : List Expr) :
    exprs d es = fills d (es.map Expr.template) :=
  exprs_eq_fills_of_forall d es fun e _ => expr_eq_fill d e

end Emit

/-! ## Clauses -/

def SelectItem.template (item : SelectItem) : Template :=
  item.expr.template ++ match item.label with
    | some label => [.sql " AS ", .identifier label]
    | none => []

def TableRef.template (t : TableRef) : Template :=
  .identifier t.name :: match t.label with
    | some label => [.sql " ", .identifier label]
    | none => []

def SortKey.template (k : SortKey) : Template :=
  k.expr.template ++ [.sql (" " ++ k.order.sql)]

namespace Template

/-- A keyword and templates; nothing if there are none. -/
def clause (keyword separator : String) (ss : List Template) : Template :=
  if ss.isEmpty then [] else .sql (keyword ++ " ") :: joined separator ss

/-- The select list; a star if it is empty. -/
def selectList (distinct : Bool) (items : List SelectItem) : Template :=
  .sql (if distinct then "SELECT DISTINCT " else "SELECT ") ::
    if items.isEmpty then [.sql "*"] else joined ", " (items.map SelectItem.template)

def joins : List Join → Template
  | [] => []
  | j :: rest =>
    .sql (" " ++ j.kind.sql ++ " ") :: j.table.template
      ++ clause " ON" " AND " (j.on.map Expr.template) ++ joins rest

/-- The text at the end of a query. -/
def epilog : Option Epilog → Template
  | none => []
  | some (.sql text) => [.sql (" " ++ text)]
  | some (.expr e) => .sql " " :: e.template

/-- The clauses after the select list, up to the order. -/
def clauses (q : Query) : Template :=
  clause " FROM" ", " (q.tables.map TableRef.template) ++ joins q.joins
    ++ clause " WHERE" " AND " (q.conditions.map Expr.template)
    ++ clause " GROUP BY" ", " (q.groups.map Expr.template)
    ++ clause " HAVING" " AND " (q.having.map Expr.template)
    ++ clause " ORDER BY" ", " (q.order.map SortKey.template)

end Template

namespace Emit
variable (d : Dialect)

theorem fill_clause (keyword separator : String) (ss : List Template) :
    fill d (Template.clause keyword separator ss) =
      if ss.isEmpty then pure ""
      else (do
        let texts ← fills d ss
        pure (keyword ++ " " ++ separator.intercalate texts)) := by
  unfold Template.clause
  split
  · rfl
  · simp [Template.fill_joined]

theorem clause_eq_fill (keyword separator : String) (es : List Expr) :
    clause d keyword separator es
      = fill d (Template.clause keyword separator (es.map Expr.template)) := by
  rw [fill_clause, clause, exprs_eq_fills, List.isEmpty_map]

theorem selectItem_eq_fill (item : SelectItem) : selectItem d item = fill d item.template := by
  unfold selectItem SelectItem.template
  rw [fill_append, expr_eq_fill]
  cases item.label with
  | none => simp
  | some label => simp [String.append_assoc]

theorem selectItems_eq_fills (items : List SelectItem) :
    selectItems d items = fills d (items.map SelectItem.template) := by
  induction items with
  | nil => rfl
  | cons item rest ih => rw [selectItems, selectItem_eq_fill, ih, List.map_cons, fills]

theorem selectClause_eq_fill (distinct : Bool) (items : List SelectItem) :
    selectClause d distinct items = fill d (Template.selectList distinct items) := by
  unfold selectClause Template.selectList
  rw [fill_sql_cons]
  cases items.isEmpty with
  | true => simp
  | false => simp [Template.fill_joined, selectItems_eq_fills]

theorem table_eq_fill (t : TableRef) : table d t = fill d t.template := by
  unfold table TableRef.template
  cases t.label with
  | none => simp [fill, piece]
  | some label => simp [fill, piece, String.append_assoc]

theorem tables_eq_fills (ts : List TableRef) :
    tables d ts = fills d (ts.map TableRef.template) := by
  induction ts with
  | nil => rfl
  | cons t rest ih => rw [tables, table_eq_fill, ih, List.map_cons, fills]

theorem fromClause_eq_fill (ts : List TableRef) :
    fromClause d ts = fill d (Template.clause " FROM" ", " (ts.map TableRef.template)) := by
  rw [fill_clause, fromClause, tables_eq_fills, List.isEmpty_map]
  rfl

theorem joinClauses_eq_fill (js : List Join) : joinClauses d js = fill d (Template.joins js) := by
  induction js with
  | nil => rfl
  | cons j rest ih =>
    rw [joinClauses, Template.joins, table_eq_fill, conditions, clause_eq_fill, ih]
    simp [fill_append, String.append_assoc]

theorem sortKeys_eq_fills (ks : List SortKey) :
    sortKeys d ks = fills d (ks.map SortKey.template) := by
  induction ks with
  | nil => rfl
  | cons k rest ih =>
    rw [sortKeys, expr_eq_fill, ih, List.map_cons, fills, SortKey.template]
    simp [fill_append, String.append_assoc]

theorem orderClause_eq_fill (ks : List SortKey) :
    orderClause d ks = fill d (Template.clause " ORDER BY" ", " (ks.map SortKey.template)) := by
  rw [fill_clause, orderClause, sortKeys_eq_fills, List.isEmpty_map]
  rfl

theorem epilogClause_eq_fill (e : Option Epilog) :
    epilogClause d e = fill d (Template.epilog e) := by
  match e with
  | none => rfl
  | some (.sql text) => simp [epilogClause, Template.epilog]
  | some (.expr e) => simp [epilogClause, Template.epilog, expr_eq_fill]

theorem body_eq_fill (q : Query) :
    body d q = fill d (Template.selectList q.distinct q.select ++ Template.clauses q) := by
  simp only [body, Template.clauses, conditions, selectClause_eq_fill, fromClause_eq_fill,
    joinClauses_eq_fill, clause_eq_fill, orderClause_eq_fill, fill_append, bind_assoc, pure_bind,
    String.append_assoc]

end Emit

end RownumSql
