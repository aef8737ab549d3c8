import RownumSql.Proofs.Outline

/-!
# Masked scalars

Masking a query puts one and the same scalar in place of every scalar that is not null, and keeps
all else: two queries with the same mask differ at most in the contents of their scalars.  The
template of a masked clause is the masked template of the clause, and likewise for the outline of a
selection (`select_masked`).
-/

namespace RownumSql

/-! ## Masks -/

/-- The scalar without its content; null stays null. -/
def Value.masked : Value → Value
  | .null => .null
  | _ => .bool false

theorem Value.isNull_masked (v : Value) : v.masked.isNull = v.isNull := by
  cases v <;> rfl

namespace Expr

mutual
/-- The expression with its scalars masked. -/
def masked : Expr → Expr
  | column name => column name
  | value v => value v.masked
  | raw sql => raw sql
  | compare left op right => compare (masked left) op (masked right)
  | function name args => function name (maskedList args)

/-- The expressions with their scalars masked. -/
def maskedList : List Expr → List Expr
  | [] => []
  | e :: es => masked e :: maskedList es
end

theorem maskedList_eq_map (es : List Expr) : maskedList es = es.map masked := by
  induction es with
  | nil => rfl
  | cons e es ih => rw [maskedList, ih, List.map_cons]

end Expr

def SelectItem.masked (item : SelectItem) : SelectItem := { item with expr := item.expr.masked }

def Join.masked (j : Join) : Join := { j with on := j.on.map Expr.masked }

def SortKey.masked (k : SortKey) : SortKey := { k with expr := k.expr.masked }

/-- The text at the end with its scalars masked. -/
def Epilog.masked : Epilog → Epilog
  | .sql text => .sql text
  | .expr e => .expr e.masked

def Assignment.masked (a : Assignment) : Assignment := { a with value := a.value.masked }

def Update.masked (u : Update) : Update :=
  { u with assignments := u.assignments.map Assignment.masked }

namespace Query

mutual
/-- The query with its scalars masked, those of its branches and of its insertion too. -/
def masked : Query → Query
  | q@{ branches, insertion, .. } =>
    { q with
      select := q.select.map SelectItem.masked
      joins := q.joins.map Join.masked
      conditions := q.conditions.map Expr.masked
      groups := q.groups.map Expr.masked
      having := q.having.map Expr.masked
      order := q.order.map SortKey.masked
      branches := maskedBranches branches
      epilog := q.epilog.map Epilog.masked
      insertion := maskedInsertion insertion
      update := q.update.map Update.masked }

def maskedBranches : List (Branch Query) → List (Branch Query)
  | [] => []
  | ⟨all, q⟩ :: rest => ⟨all, masked q⟩ :: maskedBranches rest

def maskedInsertion : Option (Insertion Query) → Option (Insertion Query)
  | none => none
  | some ⟨table, columns, rows, source⟩ =>
    some ⟨table, columns, rows.map (·.map Expr.masked), maskedSource source⟩

def maskedSource : Option Query → Option Query
  | none => none
  | some q => some (masked q)
end

end Query

def Insertion.masked (i : Insertion Query) : Insertion Query :=
  { i with rows := i.rows.map (·.map Expr.masked), source := i.source.map Query.masked }

namespace Query

theorem maskedBranches_eq_map (bs : List (Branch Query)) :
    maskedBranches bs = bs.map fun b => ⟨b.all, b.query.masked⟩ := by
  induction bs with
  | nil => rfl
  | cons b rest ih => rw [maskedBranches, ih, List.map_cons]

theorem maskedInsertion_eq_map (i : Option (Insertion Query)) :
    maskedInsertion i = i.map Insertion.masked := by
  cases i with
  | none => rfl
  | some i =>
    obtain ⟨table, columns, rows, source⟩ := i
    cases source <;> rfl

theorem masked_eq (q : Query) :
    q.masked = { q with
      select := q.select.map SelectItem.masked
      joins := q.joins.map Join.masked
      conditions := q.conditions.map Expr.masked
      groups := q.groups.map Expr.masked
      having := q.having.map Expr.masked
      order := q.order.map SortKey.masked
      branches := q.branches.map fun b => ⟨b.all, b.query.masked⟩
      epilog := q.epilog.map Epilog.masked
      insertion := q.insertion.map Insertion.masked
      update := q.update.map Update.masked } := by
  rw [← maskedBranches_eq_map, ← maskedInsertion_eq_map]
  cases q
  rw [masked]

theorem kind_masked (q : Query) : q.masked.kind = q.kind := by rw [masked_eq]

theorem isPaged_masked (q : Query) : q.masked.isPaged = q.isPaged := by
  rw [masked_eq]
  rfl

theorem offsetValue_masked (q : Query) : q.masked.offsetValue = q.offsetValue := by
  rw [masked_eq]
  rfl

theorem select_masked (q : Query) : q.masked.select = q.select.map SelectItem.masked := by
  rw [masked_eq]

end Query

/-! ## Masked templates -/

/-- The piece with its scalar masked; the bounds of a window stay. -/
def Piece.masked : Piece → Piece
  | .scalar v => .scalar v.masked
  | x => x

namespace Template

def masked (s : Template) : Template := s.map Piece.masked

@[simp] theorem masked_nil : masked [] = [] := rfl

@[simp] theorem masked_append (s u : Template) : masked (s ++ u) = s.masked ++ masked u :=
  List.map_append

@[simp] theorem masked_sql_cons (text : String) (s : Template) :
    masked (.sql text :: s) = .sql text :: s.masked := rfl

@[simp] theorem masked_identifier_cons (name : String) (s : Template) :
    masked (.identifier name :: s) = .identifier name :: s.masked := rfl

theorem branches_masked (s : Template) : s.masked.branches = s.branches := by
  induction s with
  | nil => rfl
  | cons x s ih =>
    have hx : x.masked.branches = x.branches := by cases x <;> rfl
    show x.masked.branches + branches (masked s) = x.branches + branches s
    rw [hx, ih]

theorem masked_joined (separator : String) (ss : List Template) :
    (joined separator ss).masked = joined separator (ss.map masked) := by
  induction ss with
  | nil => rfl
  | cons s rest ih =>
    cases rest with
    | nil => rfl
    | cons u rest => rw [joined, masked_append, masked_sql_cons, ih]; rfl

theorem masked_clause (keyword separator : String) (ss : List Template) :
    (clause keyword separator ss).masked = clause keyword separator (ss.map masked) := by
  unfold clause
  rw [List.isEmpty_map]
  split
  · rfl
  · rw [masked_sql_cons, masked_joined]

/-- Members that commute with the mask make lists that do. -/
theorem map_template_masked {α : Type} (xs : List α) (f : α → Template) (g : α → α)
    (h : ∀ x ∈ xs, f (g x) = (f x).masked) : (xs.map g).map f = (xs.map f).map masked := by
  rw [List.map_map, List.map_map]
  exact List.map_congr_left h

theorem template_expr_masked (e : Expr) : e.masked.template = e.template.masked := by
  induction e using Expr.induction with
  | column name => rfl
  | value v =>
    rw [Expr.masked, Expr.template, Expr.template, Value.isNull_masked]
    split <;> rfl
  | raw sql => rfl
  | compare left op right hl hr =>
    rw [Expr.masked, Expr.template, Expr.template, hl, hr, masked_append]
    split <;> rfl
  | function name args ih =>
    rw [Expr.masked, Expr.template, Expr.template, Expr.maskedList_eq_map, Expr.templates_eq_map,
      Expr.templates_eq_map, map_template_masked args _ _ ih]
    simp [masked_joined]

theorem clause_exprs_masked (keyword separator : String) (es : List Expr) :
    clause keyword separator ((es.map Expr.masked).map Expr.template)
      = (clause keyword separator (es.map Expr.template)).masked := by
  rw [masked_clause, map_template_masked es _ _ fun e _ => template_expr_masked e]

theorem selectList_masked (distinct : Bool) (items : List SelectItem) :
    selectList distinct (items.map SelectItem.masked) = (selectList distinct items).masked := by
  have hitem (item : SelectItem) : item.masked.template = item.template.masked := by
    unfold SelectItem.template
    rw [SelectItem.masked, template_expr_masked, masked_append]
    cases item.label <;> rfl
  unfold selectList
  rw [masked_sql_cons, List.isEmpty_map]
  by_cases h : items.isEmpty
  · rw [if_pos h, if_pos h]
    rfl
  · rw [if_neg h, if_neg h, masked_joined, map_template_masked items _ _ fun item _ => hitem item]

theorem masked_table (t : TableRef) : t.template.masked = t.template := by
  unfold TableRef.template
  rw [masked_identifier_cons]
  cases t.label <;> rfl

theorem joins_masked (js : List Join) : joins (js.map Join.masked) = (joins js).masked := by
  induction js with
  | nil => rfl
  | cons j rest ih =>
    rw [List.map_cons, joins, joins, ih]
    simp [Join.masked, clause_exprs_masked, masked_table, -List.map_map]

theorem sortKeys_masked (ks : List SortKey) :
    (ks.map SortKey.masked).map SortKey.template = (ks.map SortKey.template).map masked := by
  apply map_template_masked
  intro k _
  unfold SortKey.template
  rw [SortKey.masked, template_expr_masked, masked_append]
  rfl

theorem epilog_masked (e : Option Epilog) : epilog (e.map Epilog.masked) = (epilog e).masked := by
  match e with
  | none => rfl
  | some (.sql text) => rfl
  | some (.expr e) => exact congrArg _ (template_expr_masked e)

theorem clauses_masked (q : Query) : clauses q.masked = (clauses q).masked := by
  have htables : (q.tables.map TableRef.template).map masked = q.tables.map TableRef.template := by
    rw [List.map_map]
    exact List.map_congr_left fun t _ => masked_table t
  rw [Query.masked_eq]
  simp only [clauses, masked_append, masked_clause _ _ (q.tables.map _), htables, joins_masked,
    clause_exprs_masked, masked_clause _ _ (q.order.map _), sortKeys_masked]

theorem masked_opening (names : PageNames) (limit offset : UInt64) :
    (opening names limit offset).masked = opening names limit offset := by
  by_cases hl : 0 < limit <;> by_cases ho : 0 < offset <;>
    simp [opening, skipOpening, countOpening, cap, masked, Piece.masked, hl, ho]

theorem masked_closing (names : PageNames) (limit offset : UInt64) :
    (closing names limit offset).masked = closing names limit offset := by
  by_cases hl : 0 < limit <;> by_cases ho : 0 < offset <;>
    simp [closing, skipClosing, countClosing, cap, masked, Piece.masked, hl, ho]

end Template

/-! ## Masked outlines -/

namespace Outline

def masked (o : Outline) : Outline := { o with template := o.template.masked }

theorem masked_append (a b : Outline) : (a ++ b).masked = a.masked ++ b.masked := by
  obtain ⟨s, error⟩ := a
  cases error with
  | some e => rfl
  | none =>
    show (⟨(s ++ b.template).masked, b.error⟩ : Outline) = ⟨s.masked ++ b.template.masked, b.error⟩
    rw [Template.masked_append]

theorem itemName?_masked (item : SelectItem) :
    Emit.itemName? item.masked = Emit.itemName? item := by
  obtain ⟨e, label⟩ := item
  cases label with
  | some label => rfl
  | none => cases e <;> rfl

theorem itemNames_masked (items : List SelectItem) :
    itemNames (items.map SelectItem.masked) = itemNames items := by
  induction items with
  | nil => rfl
  | cons item rest ih => rw [List.map_cons, itemNames, itemNames, itemName?_masked, ih]

theorem projection_masked (items : List SelectItem) :
    projection (items.map SelectItem.masked) = (projection items).masked := by
  have hcan : canProject (items.map SelectItem.masked) = canProject items := by
    unfold canProject
    rw [List.isEmpty_map, List.all_map]
    congr 2; funext item
    exact congrArg Option.isSome (itemName?_masked item)
  unfold projection masked
  rw [hcan, itemNames_masked, Template.masked_joined, List.map_map]
  rfl

theorem branch_masked (all : Bool) (q : Query) (inner : Outline) :
    branch all q.masked inner.masked = (branch all q inner).masked := by
  unfold branch
  rw [q.isPaged_masked, q.offsetValue_masked, q.select_masked, projection_masked]
  split
  · split
    · simp only [masked_append]; rfl
    · simp only [masked_append]; rfl
  · rw [masked_append]; rfl

theorem selectBranches_masked (n : Nat) (bs : List (Branch Query))
    (ih : ∀ b ∈ bs, ∀ names n, select names n b.query.masked = (select names n b.query).masked) :
    selectBranches n (bs.map fun b => ⟨b.all, b.query.masked⟩) = (selectBranches n bs).masked := by
  induction bs generalizing n with
  | nil => rfl
  | cons b rest ihr =>
    obtain ⟨all, q⟩ := b
    obtain ⟨hq, hrest⟩ := List.forall_mem_cons.mp ih
    have hnames : branchNames n q.masked = branchNames n q := by
      rw [branchNames, q.isPaged_masked]
      rfl
    rw [List.map_cons, selectBranches, selectBranches, masked_append, hnames, q.isPaged_masked, hq,
      branch_masked, ihr _ hrest]
    generalize branch all q _ = first
    rw [show first.masked.template.branches = first.template.branches from
      Template.branches_masked _]

theorem select_masked (names : PageNames) (n : Nat) (q : Query) :
    select names n q.masked = (select names n q).masked := by
  induction q using Query.induction generalizing names n with
  | node q ih =>
    rw [select_eq, select_eq, masked_append, masked_append, ← selectBranches_masked n q.branches ih]
    have hclauses := Template.clauses_masked q
    rw [Query.masked_eq] at hclauses ⊢
    simp only [masked, hclauses, Template.masked_append, Template.selectList_masked,
      Template.epilog_masked, Template.masked_opening, Template.masked_closing,
      Query.limitValue, Query.offsetValue]

end Outline

end RownumSql
