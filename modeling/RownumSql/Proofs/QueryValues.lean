import RownumSql.Proofs.Nesting

/-!
# The values of a query

All scalars that stand in a query, in whatever clause, branch, inserted row or source: also null and
the right operand of a test for null, which a statement does not bind.  Putting `g v` for every
scalar `v` gives the same query exactly if `g` keeps every scalar of it:

    q.mapValues g = q ↔ ∀ v ∈ q.values, g v = v          (Query.mapValues_eq_self_iff)
-/

namespace RownumSql

/-! ## Values of expressions -/

namespace Expr

mutual
/-- The scalars that stand in an expression. -/
def values : Expr → List Value
  | column _ => []
  | value v => [v]
  | raw _ => []
  | compare left _ right => values left ++ values right
  | function _ args => valuesOf args

def valuesOf : List Expr → List Value
  | [] => []
  | e :: es => values e ++ valuesOf es
end

variable (g : Value → Value)

mutual
/-- The expression with `g v` for every scalar `v`. -/
def mapValues : Expr → Expr
  | column name => column name
  | value v => value (g v)
  | raw sql => raw sql
  | compare left op right => compare (mapValues left) op (mapValues right)
  | function name args => function name (mapValuesOf args)

/-- The expressions with `g v` for every scalar `v`. -/
def mapValuesOf : List Expr → List Expr
  | [] => []
  | e :: es => mapValues e :: mapValuesOf es
end

theorem valuesOf_eq_flatMap (es : List Expr) : valuesOf es = es.flatMap values := by
  induction es with
  | nil => rfl
  | cons e es ih => rw [valuesOf, ih, List.flatMap_cons]

theorem mapValuesOf_eq_map (es : List Expr) : mapValuesOf g es = es.map (mapValues g) := by
  induction es with
  | nil => rfl
  | cons e es ih => rw [mapValuesOf, ih, List.map_cons]

end Expr

/-! ## Values of clause items -/

def SelectItem.values (i : SelectItem) : List Value := i.expr.values

def Join.values (j : Join) : List Value := j.on.flatMap Expr.values

def SortKey.values (k : SortKey) : List Value := k.expr.values

/-- The scalars of the text at the end. -/
def Epilog.values : Epilog → List Value
  | .sql _ => []
  | .expr e => e.values

def Assignment.values (a : Assignment) : List Value := a.value.values

def Update.values (u : Update) : List Value := u.assignments.flatMap Assignment.values

section Maps
variable (g : Value → Value)

/-- The selected item with `g v` for every scalar `v`. -/
def SelectItem.mapValues (i : SelectItem) : SelectItem := { i with expr := i.expr.mapValues g }

/-- The join with `g v` for every scalar `v`. -/
def Join.mapValues (j : Join) : Join := { j with on := j.on.map (Expr.mapValues g) }

/-- The sort key with `g v` for every scalar `v`. -/
def SortKey.mapValues (k : SortKey) : SortKey := { k with expr := k.expr.mapValues g }

/-- The text at the end with `g v` for every scalar `v`. -/
def Epilog.mapValues : Epilog → Epilog
  | .sql text => .sql text
  | .expr e => .expr (e.mapValues g)

/-- The assignment with `g v` for every scalar `v`. -/
def Assignment.mapValues (a : Assignment) : Assignment := { a with value := a.value.mapValues g }

/-- The update with `g v` for every scalar `v`. -/
def Update.mapValues (u : Update) : Update :=
  { u with assignments := u.assignments.map (Assignment.mapValues g) }

end Maps

/-! ## Values of queries -/

namespace Query

mutual
/-- The scalars of a query, those of its branches and of its insertion too. -/
def values : Query → List Value
  | q@{ branches, insertion, .. } =>
    q.select.flatMap SelectItem.values ++ q.joins.flatMap Join.values
      ++ q.conditions.flatMap Expr.values ++ q.groups.flatMap Expr.values
      ++ q.having.flatMap Expr.values ++ q.order.flatMap SortKey.values
      ++ branchValues branches ++ q.epilog.toList.flatMap Epilog.values
      ++ insertionValues insertion ++ q.update.toList.flatMap Update.values

def branchValues : List (Branch Query) → List Value
  | [] => []
  | ⟨_, q⟩ :: rest => values q ++ branchValues rest

def insertionValues : Option (Insertion Query) → List Value
  | none => []
  | some ⟨_, _, rows, source⟩ => rows.flatMap (·.flatMap Expr.values) ++ sourceValues source

def sourceValues : Option Query → List Value
  | none => []
  | some q => values q
end

variable (g : Value → Value)

mutual
/-- The query with `g v` for every scalar `v`, in its branches and its insertion too. -/
def mapValues : Query → Query
  | q@{ branches, insertion, .. } =>
    { q with
      select := q.select.map (SelectItem.mapValues g)
      joins := q.joins.map (Join.mapValues g)
      conditions := q.conditions.map (Expr.mapValues g)
      groups := q.groups.map (Expr.mapValues g)
      having := q.having.map (Expr.mapValues g)
      order := q.order.map (SortKey.mapValues g)
      branches := mapBranches branches
      epilog := q.epilog.map (Epilog.mapValues g)
      insertion := mapInsertion insertion
      update := q.update.map (Update.mapValues g) }

/-- The branches with `g v` for every scalar `v`. -/
def mapBranches : List (Branch Query) → List (Branch Query)
  | [] => []
  | ⟨all, q⟩ :: rest => ⟨all, mapValues q⟩ :: mapBranches rest

/-- The insertion with `g v` for every scalar `v`. -/
def mapInsertion : Option (Insertion Query) → Option (Insertion Query)
  | none => none
  | some ⟨table, columns, rows, source⟩ =>
    some ⟨table, columns, rows.map (·.map (Expr.mapValues g)), mapSource source⟩

/-- The source with `g v` for every scalar `v`. -/
def mapSource : Option Query → Option Query
  | none => none
  | some q => some (mapValues q)
end

end Query

def Branch.values (b : Branch Query) : List Value := b.query.values

/-- The branch with `g v` for every scalar `v`. -/
def Branch.mapValues (g : Value → Value) (b : Branch Query) : Branch Query :=
  { b with query := b.query.mapValues g }

def Insertion.values (i : Insertion Query) : List Value :=
  i.rows.flatMap (·.flatMap Expr.values) ++ i.source.toList.flatMap Query.values

/-- The insertion with `g v` for every scalar `v`. -/
def Insertion.mapValues (g : Value → Value) (i : Insertion Query) : Insertion Query :=
  { i with
    rows := i.rows.map (·.map (Expr.mapValues g))
    source := i.source.map (Query.mapValues g) }

namespace Query

theorem branchValues_eq_flatMap (bs : List (Branch Query)) :
    branchValues bs = bs.flatMap Branch.values := by
  induction bs with
  | nil => rfl
  | cons b rest ih =>
    rw [branchValues, ih, List.flatMap_cons]
    rfl

theorem insertionValues_eq_flatMap (i : Option (Insertion Query)) :
    insertionValues i = i.toList.flatMap Insertion.values := by
  cases i with
  | none => rfl
  | some i =>
    obtain ⟨table, columns, rows, source⟩ := i
    cases source <;> simp [insertionValues, sourceValues, Insertion.values]

theorem values_eq (q : Query) :
    q.values = q.select.flatMap SelectItem.values ++ q.joins.flatMap Join.values
      ++ q.conditions.flatMap Expr.values ++ q.groups.flatMap Expr.values
      ++ q.having.flatMap Expr.values ++ q.order.flatMap SortKey.values
      ++ q.branches.flatMap Branch.values ++ q.epilog.toList.flatMap Epilog.values
      ++ q.insertion.toList.flatMap Insertion.values ++ q.update.toList.flatMap Update.values := by
  rw [← branchValues_eq_flatMap, ← insertionValues_eq_flatMap]
  cases q
  rw [values]

variable (g : Value → Value)

theorem mapBranches_eq_map (bs : List (Branch Query)) :
    mapBranches g bs = bs.map (Branch.mapValues g) := by
  induction bs with
  | nil => rfl
  | cons b rest ih =>
    rw [mapBranches, ih, List.map_cons]
    rfl

theorem mapInsertion_eq_map (i : Option (Insertion Query)) :
    mapInsertion g i = i.map (Insertion.mapValues g) := by
  cases i with
  | none => rfl
  | some i =>
    obtain ⟨table, columns, rows, source⟩ := i
    cases source <;> rfl

theorem mapValues_eq (q : Query) :
    q.mapValues g = { q with
      select := q.select.map (SelectItem.mapValues g)
      joins := q.joins.map (Join.mapValues g)
      conditions := q.conditions.map (Expr.mapValues g)
      groups := q.groups.map (Expr.mapValues g)
      having := q.having.map (Expr.mapValues g)
      order := q.order.map (SortKey.mapValues g)
      branches := q.branches.map (Branch.mapValues g)
      epilog := q.epilog.map (Epilog.mapValues g)
      insertion := q.insertion.map (Insertion.mapValues g)
      update := q.update.map (Update.mapValues g) } := by
  rw [← mapBranches_eq_map, ← mapInsertion_eq_map]
  cases q
  rw [mapValues]

end Query

/-! ## What keeps a query -/

/-- Mapping `g` over the scalars of `x` gives `x` exactly if `g` keeps each of them. -/
def KeptIff {α : Type} (g : Value → Value) (map : α → α) (values : α → List Value) (x : α) : Prop :=
  map x = x ↔ ∀ v ∈ values x, g v = v

namespace KeptIff

variable {α : Type} {g : Value → Value} {map : α → α} {values : α → List Value}

/-- Scalars that all stand in one part of `y`. -/
theorem part {β : Type} {map' : β → β} {values' : β → List Value} {x : α} {y : β}
    (h : KeptIff g map values x) (hvalues : values' y = values x)
    (hmap : map' y = y ↔ map x = x) : KeptIff g map' values' y := by
  unfold KeptIff
  rw [hvalues, hmap]
  exact h

theorem list {xs : List α} (h : ∀ x ∈ xs, KeptIff g map values x) :
    KeptIff g (List.map map) (List.flatMap values) xs := by
  unfold KeptIff at *
  induction xs with
  | nil => simp
  | cons x xs ih =>
    obtain ⟨hx, hxs⟩ := List.forall_mem_cons.mp h
    rw [List.map_cons, List.cons.injEq, hx, ih hxs, List.flatMap_cons, List.forall_mem_append]

theorem option {o : Option α} (h : ∀ x ∈ o, KeptIff g map values x) :
    KeptIff g (Option.map map) (fun o => o.toList.flatMap values) o := by
  unfold KeptIff at *
  cases o with
  | none => simp
  | some x => simpa using h x rfl

end KeptIff

section Kept
variable (g : Value → Value)

theorem Expr.keptIff (e : Expr) : KeptIff g (Expr.mapValues g) Expr.values e := by
  induction e using Expr.induction with
  | column name => simp [KeptIff, Expr.mapValues, Expr.values]
  | value v => simp [KeptIff, Expr.mapValues, Expr.values]
  | raw sql => simp [KeptIff, Expr.mapValues, Expr.values]
  | compare left op right ihl ihr =>
    unfold KeptIff at *
    rw [Expr.mapValues, Expr.values, List.forall_mem_append, ← ihl, ← ihr]
    simp
  | function name args ih =>
    have hargs := KeptIff.list ih
    unfold KeptIff at *
    rw [Expr.mapValues, Expr.values, Expr.mapValuesOf_eq_map, Expr.valuesOf_eq_flatMap, ← hargs]
    simp

theorem Expr.keptIff_list (es : List Expr) :
    KeptIff g (List.map (Expr.mapValues g)) (List.flatMap Expr.values) es :=
  .list fun e _ => e.keptIff g

theorem SelectItem.keptIff (i : SelectItem) :
    KeptIff g (SelectItem.mapValues g) SelectItem.values i :=
  (i.expr.keptIff g).part rfl (by cases i; simp [SelectItem.mapValues])

theorem Join.keptIff (j : Join) : KeptIff g (Join.mapValues g) Join.values j :=
  (Expr.keptIff_list g j.on).part rfl (by cases j; simp [Join.mapValues])

theorem SortKey.keptIff (k : SortKey) : KeptIff g (SortKey.mapValues g) SortKey.values k :=
  (k.expr.keptIff g).part rfl (by cases k; simp [SortKey.mapValues])

theorem Epilog.keptIff (e : Epilog) : KeptIff g (Epilog.mapValues g) Epilog.values e := by
  cases e with
  | sql text => simp [KeptIff, Epilog.mapValues, Epilog.values]
  | expr e => exact (e.keptIff g).part rfl (by simp [Epilog.mapValues])

theorem Assignment.keptIff (a : Assignment) :
    KeptIff g (Assignment.mapValues g) Assignment.values a :=
  (a.value.keptIff g).part rfl (by cases a; simp [Assignment.mapValues])

theorem Update.keptIff (u : Update) : KeptIff g (Update.mapValues g) Update.values u :=
  (KeptIff.list fun a (_ : a ∈ u.assignments) => a.keptIff g).part rfl
    (by cases u; simp [Update.mapValues])

theorem Branch.keptIff {b : Branch Query} (h : KeptIff g (Query.mapValues g) Query.values b.query) :
    KeptIff g (Branch.mapValues g) Branch.values b :=
  h.part rfl (by cases b; simp [Branch.mapValues])

theorem Insertion.keptIff {i : Insertion Query}
    (h : ∀ q ∈ i.source, KeptIff g (Query.mapValues g) Query.values q) :
    KeptIff g (Insertion.mapValues g) Insertion.values i := by
  have hrows := KeptIff.list fun row (_ : row ∈ i.rows) => Expr.keptIff_list g row
  have hsource := KeptIff.option h
  unfold KeptIff at *
  rw [Insertion.values, List.forall_mem_append, ← hrows, ← hsource]
  cases i
  simp [Insertion.mapValues]

theorem Query.mapValues_eq_self_iff (q : Query) : q.mapValues g = q ↔ ∀ v ∈ q.values, g v = v := by
  show KeptIff g (Query.mapValues g) Query.values q
  induction q using Query.fullInduction with
  | node q ihb ihi =>
    have hselect := KeptIff.list fun i (_ : i ∈ q.select) => i.keptIff g
    have hjoins := KeptIff.list fun j (_ : j ∈ q.joins) => j.keptIff g
    have hconditions := Expr.keptIff_list g q.conditions
    have hgroups := Expr.keptIff_list g q.groups
    have hhaving := Expr.keptIff_list g q.having
    have horder := KeptIff.list fun k (_ : k ∈ q.order) => k.keptIff g
    have hbranches := KeptIff.list fun b hb => Branch.keptIff g (ihb b hb)
    have hepilog := KeptIff.option fun e (_ : e ∈ q.epilog) => e.keptIff g
    have hinsertion := KeptIff.option fun i hi => Insertion.keptIff g (ihi i hi)
    have hupdate := KeptIff.option fun u (_ : u ∈ q.update) => u.keptIff g
    unfold KeptIff at *
    rw [Query.mapValues_eq, Query.values_eq]
    simp only [List.forall_mem_append, ← hselect, ← hjoins, ← hconditions, ← hgroups, ← hhaving,
      ← horder, ← hbranches, ← hepilog, ← hinsertion, ← hupdate]
    cases q
    simp only [Query.mk.injEq, true_and, and_true, and_assoc]

end Kept

end RownumSql
