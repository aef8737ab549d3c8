import RownumSql.Proofs.Clause

/-!
# The scalars of the clauses

Which scalars a clause binds, read off the query from left to right: null stays a literal, and the
right operand of a test for null is not visited.  The marks of a template are its pieces that bind
or count something; those of a clause are its scalars (`marks_clauses`).
-/

namespace RownumSql

/-! ## Scalars of expressions and clauses -/

namespace Expr

mutual
/-- The scalars that an expression binds. -/
def scalars : Expr → List Value
  | column _ => []
  | value v => if v.isNull then [] else [v]
  | raw _ => []
  | compare left op right => scalars left ++ if op.isUnary then [] else scalars right
  | function _ args => scalarsOf args

def scalarsOf : List Expr → List Value
  | [] => []
  | e :: es => scalars e ++ scalarsOf es
end

theorem scalarsOf_eq_flatMap (es : List Expr) : scalarsOf es = es.flatMap scalars := by
  induction es with
  | nil => rfl
  | cons e es ih => rw [scalarsOf, ih, List.flatMap_cons]

end Expr

/-- The scalars of the text at the end. -/
def Epilog.scalars : Option Epilog → List Value
  | some (.expr e) => e.scalars
  | _ => []

/-- The scalars of a selection's own clauses, from the select list to the order. -/
def Query.scalars (q : Query) : List Value :=
  q.select.flatMap (·.expr.scalars) ++ q.joins.flatMap (·.on.flatMap Expr.scalars)
    ++ q.conditions.flatMap Expr.scalars ++ q.groups.flatMap Expr.scalars
    ++ q.having.flatMap Expr.scalars ++ q.order.flatMap (·.expr.scalars)

/-! ## Marks -/

/-- Whether a piece binds or counts something. -/
def Piece.isMark : Piece → Bool
  | .sql _ => false
  | .identifier _ => false
  | .reference _ => false
  | _ => true

namespace Template

/-- The pieces that bind or count something. -/
def marks (s : Template) : Template := s.filter Piece.isMark

@[simp] theorem marks_nil : marks [] = [] := rfl

@[simp] theorem marks_append (s u : Template) : marks (s ++ u) = s.marks ++ marks u :=
  List.filter_append s u

@[simp] theorem marks_sql_cons (text : String) (s : Template) : marks (.sql text :: s) = s.marks :=
  rfl

@[simp] theorem marks_identifier_cons (name : String) (s : Template) :
    marks (.identifier name :: s) = s.marks := rfl

@[simp] theorem marks_reference_cons (name : String) (s : Template) :
    marks (.reference name :: s) = s.marks := rfl

@[simp] theorem marks_scalar_cons (v : Value) (s : Template) :
    marks (.scalar v :: s) = .scalar v :: s.marks := rfl

@[simp] theorem marks_bound_cons (name : String) (v : Value) (s : Template) :
    marks (.bound name v :: s) = .bound name v :: s.marks := rfl

@[simp] theorem marks_branch_cons (s : Template) : marks (.branch :: s) = .branch :: s.marks := rfl

theorem scalars_marks (s : Template) : s.marks.scalars = s.scalars := by
  induction s with
  | nil => rfl
  | cons x s ih => cases x <;> simp [scalars, Piece.scalars, ih]

theorem branches_marks (s : Template) : s.marks.branches = s.branches := by
  induction s with
  | nil => rfl
  | cons x s ih => cases x <;> simp [branches, Piece.branches, ih]

theorem bindings_marks (s : Template) (n : Nat) : s.marks.bindings n = s.bindings n := by
  induction s generalizing n with
  | nil => rfl
  | cons x s ih =>
    cases x <;> simp [bindings, Piece.bindings, Piece.scalars, ih]

theorem marks_joined (separator : String) (ss : List Template) :
    marks (joined separator ss) = ss.flatMap marks := by
  induction ss with
  | nil => rfl
  | cons s rest ih =>
    cases rest with
    | nil => simp [joined]
    | cons u rest => rw [joined, marks_append, marks_sql_cons, ih, List.flatMap_cons (x := s)]

theorem marks_clause (keyword separator : String) (ss : List Template) :
    marks (clause keyword separator ss) = ss.flatMap marks := by
  unfold clause
  split
  · next h => rw [List.isEmpty_iff.mp h]; rfl
  · rw [marks_sql_cons, marks_joined]

/-! ## Marks of the clauses -/

/-- A placeholder for each of the values. -/
def placeholders (vs : List Value) : Template := vs.map Piece.scalar

theorem scalars_of_marks {s : Template} {vs : List Value} (h : s.marks = placeholders vs) :
    s.scalars = vs.length := by
  rw [← scalars_marks, h]
  clear h
  induction vs with
  | nil => rfl
  | cons v vs ih =>
    show 1 + Template.scalars (placeholders vs) = _
    rw [ih, List.length_cons, Nat.add_comm]

theorem placeholders_append (vs ws : List Value) :
    placeholders (vs ++ ws) = placeholders vs ++ placeholders ws := List.map_append

theorem flatMap_marks {α : Type} (xs : List α) (f : α → Template) (g : α → List Value)
    (h : ∀ x ∈ xs, (f x).marks = placeholders (g x)) :
    (xs.map f).flatMap marks = placeholders (xs.flatMap g) := by
  induction xs with
  | nil => rfl
  | cons x xs ih =>
    obtain ⟨hx, hxs⟩ := List.forall_mem_cons.mp h
    rw [List.map_cons, List.flatMap_cons, List.flatMap_cons, placeholders_append, hx, ih hxs]

theorem marks_expr (e : Expr) : e.template.marks = placeholders e.scalars := by
  induction e using Expr.induction with
  | column name => rfl
  | value v => cases h : v.isNull <;> simp [Expr.template, Expr.scalars, h] <;> rfl
  | raw sql => rfl
  | compare left op right hl hr =>
    rw [Expr.template, Expr.scalars, marks_append, placeholders_append, hl]
    cases op.isUnary with
    | true => simp [placeholders]
    | false => simp [hr]
  | function name args ih =>
    rw [Expr.template, Expr.scalars, Expr.templates_eq_map, Expr.scalarsOf_eq_flatMap]
    simp [marks_joined, flatMap_marks args Expr.template Expr.scalars ih]

theorem marks_exprs (keyword separator : String) (es : List Expr) :
    marks (clause keyword separator (es.map Expr.template))
      = placeholders (es.flatMap Expr.scalars) := by
  rw [marks_clause, flatMap_marks es Expr.template Expr.scalars fun e _ => marks_expr e]

theorem marks_selectItem (item : SelectItem) :
    item.template.marks = placeholders item.expr.scalars := by
  unfold SelectItem.template
  rw [marks_append, marks_expr]
  cases item.label <;> simp

theorem marks_selectList (distinct : Bool) (items : List SelectItem) :
    marks (selectList distinct items) = placeholders (items.flatMap (·.expr.scalars)) := by
  unfold selectList
  rw [marks_sql_cons]
  split
  · next h => rw [List.isEmpty_iff.mp h]; rfl
  · rw [marks_joined, flatMap_marks items _ (·.expr.scalars) fun item _ => marks_selectItem item]

theorem marks_table (t : TableRef) : t.template.marks = [] := by
  unfold TableRef.template
  rw [marks_identifier_cons]
  cases t.label <;> rfl

theorem marks_tables (ts : List TableRef) :
    marks (clause " FROM" ", " (ts.map TableRef.template)) = [] := by
  rw [marks_clause, flatMap_marks ts TableRef.template (fun _ => []) fun t _ => marks_table t]
  simp [placeholders]

theorem marks_joins (js : List Join) :
    marks (joins js) = placeholders (js.flatMap (·.on.flatMap Expr.scalars)) := by
  induction js with
  | nil => rfl
  | cons j rest ih =>
    rw [joins, List.flatMap_cons, placeholders_append, ← ih, ← marks_exprs " ON" " AND "]
    simp [marks_table]

theorem marks_sortKeys (ks : List SortKey) :
    marks (clause " ORDER BY" ", " (ks.map SortKey.template))
      = placeholders (ks.flatMap (·.expr.scalars)) := by
  rw [marks_clause, flatMap_marks ks SortKey.template (·.expr.scalars)]
  intro k _
  unfold SortKey.template
  rw [marks_append, marks_expr, marks_sql_cons, marks_nil, List.append_nil]

theorem marks_epilog (e : Option Epilog) :
    marks (epilog e) = placeholders (Epilog.scalars e) := by
  match e with
  | none => rfl
  | some (.sql text) => rfl
  | some (.expr e) => exact marks_expr e

theorem marks_clauses (q : Query) :
    marks (selectList q.distinct q.select) ++ (clauses q).marks = placeholders q.scalars := by
  simp only [clauses, Query.scalars, marks_append, placeholders_append, marks_selectList,
    marks_tables, marks_joins, marks_exprs, marks_sortKeys, List.nil_append, List.append_assoc]

end Template

end RownumSql
