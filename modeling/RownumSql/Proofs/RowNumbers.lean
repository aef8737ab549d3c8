import RownumSql.Proofs.StatementTree

/-!
# Row numbers inside a statement

A window that skips rows has the row number as one more column.  That column must not become data:
at the outermost SELECT it is reported to the caller, and inside a union a projection drops it.  The
source of an insertion has neither, so the insertion has one column too many exactly if its source
skips rows (`rowNumbers_hidden_iff`).
-/

namespace RownumSql

/-! ## Columns -/

/-- Whether an item stands for all columns of a table; any other item is one column. -/
def SelectItem.isWildcard (item : SelectItem) : Bool :=
  match item.expr with
  | .column name =>
    if Dialect.isPlain name then (Dialect.parts name).getLast? = some "*"
    else name.toList.getLast? = some '*'
  | .raw sql => sql.toList.getLast? = some '*'
  | _ => false

namespace SelectTree

/-- Whether the row number is one of the columns. -/
def isNumbered : SelectTree → Bool
  | plain .. => false
  | counting numbered _ inner => numbered || isNumbered inner
  | skipping _ _ inner => isNumbered inner
  | projecting .. => false

/-- The number of columns, if it can be read off the text. -/
def width : SelectTree → Option Nat
  | plain _ items _ _ _ =>
    if items.isEmpty || items.any SelectItem.isWildcard then none else some items.length
  | counting numbered _ inner => (width inner).map (· + if numbered then 1 else 0)
  | skipping _ _ inner => width inner
  | projecting names _ => some names.length

/-- The select list inside the windows. -/
def items : SelectTree → List SelectItem
  | plain _ items _ _ _ => items
  | counting _ _ inner => items inner
  | skipping _ _ inner => items inner
  | projecting names _ => names.map fun name => ⟨.column name, none⟩

mutual
/-- Every SELECT of a tree with the place where it stands. -/
def selects (place : Place) : SelectTree → List (Place × SelectTree)
  | s@(plain _ _ _ branches _) => (place, s) :: selectsOf branches
  | s@(counting _ _ inner) => (place, s) :: selects .window inner
  | s@(skipping _ _ inner) => (place, s) :: selects .window inner
  | s@(projecting names inner) => (place, s) :: selects (.projected names) inner

/-- Every SELECT of branches. -/
def selectsOf : List (Template × SelectTree) → List (Place × SelectTree)
  | [] => []
  | (_, s) :: rest => selects .branch s ++ selectsOf rest
end

/-- Whether the row number of a SELECT is kept from becoming data: the caller strips it from the
outermost SELECT if it is told to, a projection on the names of the select list drops it, and inside
a window it is that of the SELECT around. -/
def Hidden (stripped : Bool) : Place × SelectTree → Prop
  | (.statement, _) => stripped
  | (.source, _) => False
  | (.branch, _) => False
  | (.window, _) => True
  | (.projected names, s) => s.items.map Emit.itemName? = names.map some

/-- Whether the row number of every SELECT that has one is kept from becoming data. -/
def AllHidden (stripped : Bool) (xs : List (Place × SelectTree)) : Prop :=
  ∀ x ∈ xs, x.2.isNumbered → Hidden stripped x

theorem AllHidden.append {stripped : Bool} {xs ys : List (Place × SelectTree)} :
    AllHidden stripped (xs ++ ys) ↔ AllHidden stripped xs ∧ AllHidden stripped ys :=
  List.forall_mem_append

theorem AllHidden.cons {stripped : Bool} {x : Place × SelectTree} {xs : List (Place × SelectTree)} :
    AllHidden stripped (x :: xs) ↔
      (x.2.isNumbered → Hidden stripped x) ∧ AllHidden stripped xs :=
  List.forall_mem_cons

/-! ## Windows -/

section windowed
variable (names : PageNames) (limit offset : UInt64) (s : SelectTree)

theorem items_windowed : (windowed names limit offset s).items = s.items := by
  unfold windowed
  split <;> split <;> rfl

theorem width_windowed : (windowed names limit offset s).width
    = s.width.map (· + if 0 < offset then 1 else 0) := by
  unfold windowed
  by_cases ho : 0 < offset
  · simp [ho, width]
  · by_cases hl : 0 < limit <;> simp [ho, hl, width]

theorem allHidden_windowed (stripped : Bool) (place : Place) (distinct : Bool)
    (items : List SelectItem) (clauses : Template) (branches : List (Template × SelectTree))
    (epilog : Template) :
    AllHidden stripped
      ((windowed names limit offset (plain distinct items clauses branches epilog)).selects place) ↔
    (0 < offset → Hidden stripped (place,
      windowed names limit offset (plain distinct items clauses branches epilog))) ∧
    AllHidden stripped (selectsOf branches) := by
  unfold windowed
  by_cases ho : 0 < offset
  · simp [ho, selects, AllHidden.cons, isNumbered, Hidden]
  · by_cases hl : 0 < limit <;> simp [ho, hl, selects, AllHidden.cons, isNumbered]

end windowed

/-! ## Unions -/

theorem items_ofQuery (names : PageNames) (n : Nat) (q : Query) :
    (ofQuery names n q).items = q.select := by
  rw [ofQuery_eq, items_windowed, items]

theorem width_ofQuery (names : PageNames) (n : Nat) (q : Query) (hne : q.select ≠ [])
    (hw : q.select.any SelectItem.isWildcard = false) :
    (ofQuery names n q).width
      = some (q.select.length + if 0 < q.offsetValue then 1 else 0) := by
  have hempty : q.select.isEmpty = false := by
    rw [List.isEmpty_eq_false_iff]
    exact hne
  rw [ofQuery_eq, width_windowed, width, hempty, hw]
  rfl

theorem map_itemName?_eq (items : List SelectItem)
    (h : items.all fun item => (Emit.itemName? item).isSome) :
    items.map Emit.itemName? = (Outline.itemNames items).map some := by
  induction items with
  | nil => rfl
  | cons item rest ih =>
    rw [List.all_cons, Bool.and_eq_true] at h
    obtain ⟨name, hname⟩ := Option.isSome_iff_exists.mp h.1
    rw [List.map_cons, Outline.itemNames, hname, List.map_cons, ih h.2]

/-- A branch that skips rows compiles only if each of its items has a name. -/
theorem map_itemName?_of_branch {all : Bool} {q : Query} {inner : Outline}
    (h : (Outline.branch all q inner).error = none) (ho : 0 < q.offsetValue) :
    q.select.map Emit.itemName? = (Outline.itemNames q.select).map some := by
  have hnames := (Outline.template_branch h).2.1 ho
  apply map_itemName?_eq
  cases hall : q.select.all fun item => (Emit.itemName? item).isSome with
  | true => rfl
  | false =>
    rw [Outline.projection, Outline.canProject, hall, Bool.and_false] at hnames
    cases hnames

theorem allHidden_ofBranches (stripped : Bool) (n : Nat) (bs : List (Branch Query))
    (ih : ∀ b ∈ bs, ∀ names n place, (Outline.select names n b.query).error = none →
      (AllHidden stripped ((ofQuery names n b.query).selects place) ↔
        (0 < b.query.offsetValue → Hidden stripped (place, ofQuery names n b.query))))
    (h : (Outline.selectBranches n bs).error = none) :
    AllHidden stripped (selectsOf (ofBranches n bs)) := by
  induction bs generalizing n with
  | nil => intro x hx; cases hx
  | cons b rest ihr =>
    obtain ⟨all, q⟩ := b
    obtain ⟨hq, hrest⟩ := List.forall_mem_cons.mp ih
    rw [Outline.selectBranches] at h
    obtain ⟨hfirst, hothers⟩ := (Outline.error_append _ _).mp h
    have hinner := (Outline.template_branch hfirst).1
    rw [ofBranches, selectsOf, AllHidden.append, template_branch (template_ofQuery _ _ q) hfirst]
    refine ⟨?_, ihr _ hrest hothers⟩
    unfold branch
    by_cases ho : 0 < q.offsetValue
    · rw [if_pos ho, selects, AllHidden.cons]
      constructor
      · intro hn
        cases hn
      · apply (hq _ _ _ hinner).mpr
        intro _
        show (ofQuery _ _ q).items.map Emit.itemName? = _
        rw [items_ofQuery]
        exact map_itemName?_of_branch hfirst ho
    · rw [if_neg ho]
      apply (hq _ _ _ hinner).mpr
      intro h
      exact absurd h ho

/-- Only the outermost window of a selection can show its row number. -/
theorem allHidden_ofQuery (stripped : Bool) (names : PageNames) (n : Nat) (place : Place)
    (q : Query) (h : (Outline.select names n q).error = none) :
    AllHidden stripped ((ofQuery names n q).selects place) ↔
      (0 < q.offsetValue → Hidden stripped (place, ofQuery names n q)) := by
  induction q using Query.induction generalizing names n place with
  | node q ih =>
    have hbranches := (Outline.template_select h).1
    rw [ofQuery_eq, allHidden_windowed]
    exact and_iff_left (allHidden_ofBranches stripped n q.branches ih hbranches)

end SelectTree

/-! ## Sources of insertions -/

namespace Insertion

theorem selection_of_source (i : Insertion Query) (source : Query) (h : i.source = some source) :
    i.selection.run {} = (.ok (some source), {}) := by
  rw [run_selection, rowUnion_eq_none (.inr (h ▸ rfl)), h]
  rfl

theorem offset_of_rowSelections (columns : List String) (index : Nat) (rows : List (List Expr))
    (b : Bindings) (qs : List Query) (h : ((rowSelections columns index rows).run b).1 = .ok qs) :
    ∀ q ∈ qs, q.offset = none := by
  induction rows generalizing index b qs with
  | nil =>
    cases h
    intro q hq
    cases hq
  | cons row rows ih =>
    obtain ⟨others, hrest, rfl⟩ := rowSelections_cons_eq_ok h
    exact List.forall_mem_cons.mpr ⟨rfl, ih _ _ others hrest⟩

theorem offset_of_rowUnion (i : Insertion Query) (b : Bindings) (q : Query)
    (h : (i.rowUnion.run b).1 = .ok (some q)) : q.offset = none := by
  obtain ⟨first, others, hrows, rfl⟩ := rowUnion_eq_ok_some h
  exact offset_of_rowSelections i.columns 0 i.rows b _ hrows first List.mem_cons_self

/-- Rows that are turned into a selection have no window. -/
theorem offsetValue_of_selection (i : Insertion Query) (q : Query) (hs : i.source = none)
    (h : (i.selection.run {}).1 = .ok (some q)) : q.offsetValue = 0 := by
  rcases selection_eq_ok_some h with hunion | hsource
  · rw [Query.offsetValue, i.offset_of_rowUnion {} q hunion]
    rfl
  · rw [hs] at hsource
    cases hsource

end Insertion

namespace Emit
variable (d : Dialect)

theorem error_of_sqlOf (q : Query) (p : Progress) (sql : String)
    (h : ((sqlOf d .outer q).run p).1 = .ok sql) :
    (Outline.select .outer p.pagedBranches q).error = none := by
  rw [run_sqlOf, Outline.run_write] at h
  cases he : (Outline.select .outer p.pagedBranches q).error with
  | none => rfl
  | some e => rw [he] at h; cases h

theorem run_quoteAll (names : List String) (p : Progress) :
    ((quoteAll d names).run p).2 = { p with aliases := ((quoteAll d names).run p).2.aliases } := by
  induction names generalizing p with
  | nil => rfl
  | cons name rest ih => exact ih ((quote d name).run p).2

/-- An insertion writes its head, and then what it inserts. -/
theorem run_insertion {i : Insertion Query} (ht : i.table ≠ "") (t : AliasTable) :
    ∃ head t', (insertion d (some i)).run { aliases := t }
      = (((inserted d i).run { aliases := t' }).1.map (head ++ ·),
        ((inserted d i).run { aliases := t' }).2) := by
  rw [insertion, if_neg ht]
  simp only [run_bind, run_pure]
  rw [run_quoteAll]
  generalize ((quoteAll d i.columns).run { aliases := t }).1 = columns
  generalize ((quoteAll d i.columns).run { aliases := t }).2.aliases = t'
  let quoted := (d.quote i.table).run t'
  exact ⟨insertHead quoted.1 columns ++ " ", quoted.2, rfl⟩

theorem error_of_insertion (t : AliasTable) (i : Insertion Query) (q : Query) (sql : String)
    (hq : (i.selection.run {}).1 = .ok (some q))
    (h : ((insertion d (some i)).run { aliases := t }).1 = .ok sql) :
    (Outline.select .outer 0 q).error = none := by
  by_cases ht : i.table = ""
  · rw [insertion, if_pos ht] at h
    cases h
  · obtain ⟨head, t', hrun⟩ := run_insertion d ht t
    rw [hrun, run_inserted, hq] at h
    have hsql := error_of_sqlOf d q { aliases := t', bindings := (i.selection.run {}).2 }
    change Except.map _ ((sqlOf d .outer q).run
      { aliases := t', bindings := (i.selection.run {}).2 }).1 = _ at h
    generalize (sqlOf d .outer q).run { aliases := t', bindings := (i.selection.run {}).2 } = r
      at h hsql
    obtain ⟨rows, p⟩ := r
    cases rows with
    | error e => cases h
    | ok rows => exact hsql rows rfl

end Emit

/-! ## Statements -/

/-- The query that an insertion takes its rows from. -/
def Query.insertSource? (q : Query) : Option Query :=
  if q.kind = .insert then q.insertion.bind (·.source) else none

namespace StatementTree
open SelectTree (AllHidden)

/-- Every SELECT of a statement with the place where it stands. -/
def selects (s : StatementTree) : List (Place × SelectTree) :=
  match s.select with
  | some (place, select) => select.selects place
  | none => []

theorem allHidden_nil (stripped : Bool) : AllHidden stripped [] := fun x hx => by cases hx

theorem select_ofInsertion (i : Insertion Query) (source : Query) (h : i.source = some source) :
    (ofInsertion i).select = some (.source, .ofQuery .outer 0 source) := by
  simp only [ofInsertion, i.selection_of_source source h]

/-- The rows of an insertion are without a window, so only a source can show a row number. -/
theorem allHidden_ofInsertion (stripped : Bool) (i : Insertion Query)
    (hok : ∀ q, (i.selection.run {}).1 = .ok (some q) →
      (Outline.select .outer 0 q).error = none) :
    AllHidden stripped (ofInsertion i).selects ↔
      ∀ source, i.source = some source → source.offsetValue = 0 := by
  cases hs : i.source with
  | some source =>
    have he := hok source (congrArg Prod.fst (i.selection_of_source source hs))
    unfold selects
    rw [select_ofInsertion i source hs]
    refine (SelectTree.allHidden_ofQuery stripped .outer 0 .source source he).trans ?_
    rw [UInt64.pos_iff_ne_zero]
    constructor
    · intro h _ he
      cases he
      exact Classical.not_not.mp h
    · intro h hne
      exact hne (h source rfl)
  | none =>
    refine iff_of_true ?_ (fun source h => by cases h)
    rw [selects, ofInsertion]
    cases hsel : (i.selection.run {}).1 with
    | error e => exact allHidden_nil stripped
    | ok selection =>
      cases selection with
      | none => exact allHidden_nil stripped
      | some q =>
        apply (SelectTree.allHidden_ofQuery stripped .outer 0 .source q (hok q hsel)).mpr
        intro h
        rw [i.offsetValue_of_selection q hs hsel] at h
        exact absurd h (by decide)

end StatementTree

namespace Query
open SelectTree (AllHidden)

theorem insertSource?_eq_none {q : Query} (hk : q.kind ≠ .insert) : q.insertSource? = none := by
  rw [insertSource?, if_neg hk]

theorem select_tree_of_insertSource {q source : Query} (hs : q.insertSource? = some source) :
    q.tree.select = some (.source, .ofQuery .outer 0 source) := by
  unfold insertSource? at hs
  split at hs
  · next hk =>
    obtain ⟨i, hi, hsource⟩ := Option.bind_eq_some_iff.mp hs
    unfold tree
    rw [hk, hi]
    exact StatementTree.select_ofInsertion i source hsource
  · cases hs

/-- Other statements than insertions hide all row numbers, since they have no source. -/
theorem allHidden_iff_of_kind_ne {stripped : Bool} {q : Query} (hk : q.kind ≠ .insert)
    (h : AllHidden stripped q.tree.selects) :
    AllHidden stripped q.tree.selects ↔
      ∀ source, q.insertSource? = some source → source.offsetValue = 0 := by
  refine iff_of_true h ?_
  intro source hs
  rw [insertSource?_eq_none hk] at hs
  cases hs

theorem allHidden_tree_iff {d : Dialect} {t : AliasTable} {q : Query} {c : CompiledQuery}
    (h : (d.compile t q).result = .ok c) :
    AllHidden c.rowNumberColumn q.tree.selects ↔
      ∀ source, q.insertSource? = some source → source.offsetValue = 0 := by
  obtain ⟨hsql, hflag⟩ := Dialect.run_statement_of_compile h
  cases hk : q.kind with
  | select =>
    have he : (Outline.select .outer 0 q).error = none := by
      rw [Emit.statement_select hk] at hsql
      exact Emit.error_of_sqlOf d q { aliases := t } c.sql hsql
    apply allHidden_iff_of_kind_ne (by rw [hk]; decide)
    unfold StatementTree.selects tree
    rw [hk]
    apply (SelectTree.allHidden_ofQuery _ .outer 0 .statement q he).mpr
    intro ho
    show c.rowNumberColumn = true
    rw [hflag, hk]
    simpa using ho
  | insert =>
    rw [Emit.statement_insert hk] at hsql
    unfold tree insertSource?
    rw [if_pos hk, hk]
    cases hi : q.insertion with
    | none => rw [hi] at hsql; cases hsql
    | some i =>
      rw [hi] at hsql
      apply StatementTree.allHidden_ofInsertion
      intro source hs
      exact Emit.error_of_insertion d t i source c.sql hs hsql
  | update =>
    apply allHidden_iff_of_kind_ne (by rw [hk]; decide)
    unfold tree
    rw [hk]
    cases q.update <;> exact StatementTree.allHidden_nil _
  | delete =>
    apply allHidden_iff_of_kind_ne (by rw [hk]; decide)
    unfold tree
    rw [hk]
    cases q.tables <;> exact StatementTree.allHidden_nil _

end Query

/-- **Exactly the source of an insertion can make row numbers data.**  In the SQL of a query every
row number is stripped by the caller or dropped by a projection, unless the query inserts from a
source that skips rows.  The SELECT of a source has as many columns as the select list, and one more
if the source skips rows. -/
theorem rowNumbers_hidden_iff (d : Dialect) (t : AliasTable) (q : Query) (c : CompiledQuery)
    (h : (d.compile t q).result = .ok c) :
    c.sql = q.tree.template.text d (d.compile t q).aliases q.tree.start ∧
    (SelectTree.AllHidden c.rowNumberColumn q.tree.selects ↔
      ∀ source, q.insertSource? = some source → source.offsetValue = 0) ∧
    ∀ source, q.insertSource? = some source → source.select ≠ [] →
      source.select.any SelectItem.isWildcard = false →
      ∃ s, q.tree.select = some (.source, s) ∧
        s.width = some (source.select.length + if 0 < source.offsetValue then 1 else 0) := by
  refine ⟨sql_compile d t q c h, Query.allHidden_tree_iff h, ?_⟩
  intro source hs hne hw
  exact ⟨.ofQuery .outer 0 source, Query.select_tree_of_insertSource hs,
    SelectTree.width_ofQuery .outer 0 source hne hw⟩

/-- An insertion from a source with the given limit and offset. -/
def windowedInsertion (limit offset : UInt64) : Query :=
  { kind := .insert
    insertion := some
      { table := "t", columns := ["a"]
        source := some
          { select := [⟨.column "a", none⟩], tables := [⟨"o", none⟩]
            limit := some limit, offset := some offset } } }

theorem rowNumbers_hidden_iff_limit : ∃ c,
    (({} : Dialect).compile {} (windowedInsertion 5 0)).result = .ok c ∧
    c.sql = (windowedInsertion 5 0).tree.template.text {}
      (({} : Dialect).compile {} (windowedInsertion 5 0)).aliases 0 ∧
    SelectTree.AllHidden c.rowNumberColumn (windowedInsertion 5 0).tree.selects ∧
    ∃ s, (windowedInsertion 5 0).tree.select = some (.source, s) ∧ s.width = some 1 := by
  have hok : (({} : Dialect).compile {} (windowedInsertion 5 0)).result.toOption.isSome := by
    decide +kernel
  cases h : (({} : Dialect).compile {} (windowedInsertion 5 0)).result with
  | error e => rw [h] at hok; cases hok
  | ok c =>
    obtain ⟨hsql, hiff, hwidth⟩ := rowNumbers_hidden_iff {} {} (windowedInsertion 5 0) c h
    exact ⟨c, rfl, hsql, hiff.mpr (fun source hs => by cases hs; rfl),
      hwidth _ rfl (by simp) (by decide)⟩

/-- The row number of the source is neither stripped nor dropped: there is one column too many. -/
theorem rowNumbers_not_hidden_offset :
    (({} : Dialect).compile {} (windowedInsertion 0 2)).result.toOption = some
      { sql := "INSERT INTO \"t\" (\"a\") SELECT * FROM (SELECT a.*, ROWNUM QAIL_RNUM FROM ("
          ++ "SELECT \"a\" FROM \"o\") a) WHERE QAIL_RNUM > :QAIL_FETCH_OFFSET"
        bindings := [⟨.named "QAIL_FETCH_OFFSET", .int 2⟩]
        kind := .insert, rowNumberColumn := false, buffered := false } ∧
    ¬ SelectTree.AllHidden false (windowedInsertion 0 2).tree.selects ∧
    ∃ s, (windowedInsertion 0 2).tree.select = some (.source, s) ∧ s.width = some 2 := by
  refine ⟨by decide +kernel, ?_, _, rfl, rfl⟩
  intro h
  exact h (_, _) List.mem_cons_self rfl

end RownumSql
