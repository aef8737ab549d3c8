import RownumSql.Proofs.DefinitionNames
import RownumSql.Proofs.Selections

/-!
# Names in projections

A branch that skips rows stands inside a SELECT that takes the items of the branch by their names.
The name of an item without a label is what follows the last point of its text, if that is a word.
Whether the text is a name at all is not asked, so that an expression that ends in a path is taken
by a name under which the SELECT inside has no column.

    s.columns d u ++ [some rowNumberColumn] = inner.columns d u ↔
      no item without a label is an expression                         (projection_columns_iff)

for the SELECT `s` around a branch `inner`.
-/

namespace RownumSql

open AliasTable (isWord)

/-! ## Columns by their names -/

/-- Whether an item is written as an expression, and not as a name or under a label. -/
def SelectItem.isExpression (item : SelectItem) : Bool :=
  match item.label, item.expr with
  | some _, _ => false
  | none, .column name => !Dialect.isPlain name
  | none, _ => true

/-- The name of the column that an item makes, as it is written: its label, or else the last part of
the name that it is.  Expressions have no name, and neither have all columns at once. -/
def SelectItem.columnName? (d : Dialect) (u : AliasTable) (item : SelectItem) : Option String :=
  match item.label, item.expr with
  | some label, _ => some (d.written u label)
  | none, .column name =>
    if Dialect.isPlain name && !item.isWildcard then
      ((d.quoteParts (Dialect.parts name)).run u).1.getLast?
    else none
  | none, _ => none

/-- The names of the columns of a SELECT, as they are written. -/
def SelectTree.columns (d : Dialect) (u : AliasTable) : SelectTree → List (Option String)
  | plain _ items _ _ _ => items.map fun item => item.columnName? d u
  | counting numbered _ inner =>
    columns d u inner ++ if numbered then [some rowNumberColumn] else []
  | skipping _ _ inner => columns d u inner
  | projecting names _ => names.map fun name => some (d.written u name)

namespace SelectTree
variable (d : Dialect) (u : AliasTable)

theorem columns_windowed (names : PageNames) (limit offset : UInt64) (s : SelectTree) :
    (windowed names limit offset s).columns d u
      = s.columns d u ++ if 0 < offset then [some rowNumberColumn] else [] := by
  unfold windowed
  by_cases ho : 0 < offset
  · simp [ho, columns]
  · by_cases hl : 0 < limit <;> simp [ho, hl, columns]

theorem columns_ofQuery (names : PageNames) (n : Nat) (q : Query) :
    (ofQuery names n q).columns d u = (q.select.map fun item => item.columnName? d u)
      ++ if 0 < q.offsetValue then [some rowNumberColumn] else [] := by
  rw [ofQuery_eq, columns_windowed, columns]

end SelectTree

/-! ## Last parts -/

namespace Dialect
variable (d : Dialect) {u : AliasTable}

/-- The last part of a name is written as that part is on its own. -/
theorem getLast?_quoteParts {ps : List String} (hknown : ((d.quoteParts ps).run u).2 = u)
    {last : String} (hlast : ps.getLast? = some last) (hword : isWord last) :
    ((d.quoteParts ps).run u).1.getLast? = some (d.written u last) := by
  have hparts : ∀ part ∈ ps, (d.quotePart part).run u = (((d.quotePart part).run u).1, u) :=
    fun part hpart => Prod.ext rfl (d.snd_run_quotePart hknown part hpart)
  have hwritten : ((d.quotePart last).run u).1 = d.written u last := by
    rw [written, d.run_quote_of_isWord hword, quotePart, if_neg (ne_star_of_isWord hword)]
    rfl
  rw [d.run_quoteParts hparts, List.getLast?_map, hlast, Option.map_some, hwritten]

end Dialect

/-! ## Names of items -/

namespace SelectItem
variable {d : Dialect} {u : AliasTable}

theorem columnName?_column (name : String) : columnName? d u ⟨.column name, none⟩ =
    if Dialect.isPlain name && !isWildcard ⟨.column name, none⟩ then
      ((d.quoteParts (Dialect.parts name)).run u).1.getLast?
    else none := rfl

/-- A word behind the last point of a name is the name of the column. -/
theorem columnName?_of_isPlain {name last : String} (hplain : Dialect.isPlain name)
    (hlast : (Dialect.parts name).getLast? = some last) (hword : isWord last)
    (hknown : ((d.quote name).run u).2 = u) :
    columnName? d u ⟨.column name, none⟩ = some (d.written u last) := by
  have hwildcard : isWildcard ⟨.column name, none⟩ = false := by
    show (if Dialect.isPlain name then decide ((Dialect.parts name).getLast? = some "*")
      else _) = false
    rw [if_pos hplain, hlast]
    exact decide_eq_false fun hstar => Dialect.ne_star_of_isWord hword (Option.some.inj hstar)
  have hparts : ((d.quoteParts (Dialect.parts name)).run u).2 = u := by
    rw [Dialect.quote, hplain] at hknown
    exact hknown
  rw [columnName?_column, hplain, hwildcard]
  exact d.getLast?_quoteParts hparts hlast hword

/-- An item is taken by the name of its column exactly if it is no expression. -/
theorem map_itemName?_eq_iff {item : SelectItem} (hname : (Emit.itemName? item).isSome)
    (hknown : Template.Settled d u item.template) :
    (Emit.itemName? item).map (d.written u) = item.columnName? d u ↔ ¬ item.isExpression := by
  obtain ⟨expr, label⟩ := item
  cases label with
  | some label => exact iff_of_true rfl (by simp [isExpression])
  | none =>
    cases expr with
    | column name =>
      obtain ⟨last, htaken⟩ := Option.isSome_iff_exists.mp hname
      obtain ⟨hlast, hword⟩ := Emit.itemName?_column htaken
      rw [htaken, Option.map_some]
      cases hplain : Dialect.isPlain name with
      | true =>
        have hquote : ((d.quote name).run u).2 = u := hknown _ List.mem_cons_self
        rw [columnName?_of_isPlain hplain hlast hword hquote]
        exact iff_of_true rfl (by simp [isExpression, hplain])
      | false =>
        -- the text is written as it stands, and only its end was looked at
        refine iff_of_false ?_ (by simp [isExpression, hplain])
        rw [columnName?_column, hplain]
        intro h
        cases h
    | _ => cases hname

end SelectItem

/-! ## Projections -/

namespace SelectTree
variable {d : Dialect} {u : AliasTable}

theorem template_item_subset {item : SelectItem} {q : Query} (hitem : item ∈ q.select)
    (names : PageNames) (n : Nat) : item.template ⊆ (ofQuery names n q).template := by
  have hempty : q.select.isEmpty = false := by
    rw [List.isEmpty_eq_false_iff]
    exact List.ne_nil_of_mem hitem
  intro x hx
  have hlist : x ∈ Template.selectList q.distinct q.select := by
    rw [Template.selectList, hempty]
    exact List.mem_cons_of_mem _ (Template.mem_joined (List.mem_map_of_mem hitem) hx)
  rw [ofQuery_eq, template_windowed, template]
  simp only [List.mem_append]
  exact .inr (.inl (.inl (.inl (.inl hlist))))

/-- The SELECT around a branch has the columns of the SELECT inside, other than the row number,
exactly if no item of the branch is an expression. -/
theorem columns_branch_iff {q : Query} (ho : 0 < q.offsetValue)
    (hnames : q.select.map Emit.itemName? = (Outline.itemNames q.select).map some)
    {names : PageNames} {n : Nat} (hknown : Template.Settled d u (ofQuery names n q).template) :
    (branch q (ofQuery names n q)).columns d u ++ [some rowNumberColumn]
      = (ofQuery names n q).columns d u ↔ ∀ item ∈ q.select, ¬ item.isExpression := by
  have htaken : (branch q (ofQuery names n q)).columns d u
      = q.select.map fun item => (Emit.itemName? item).map (d.written u) := by
    rw [branch, if_pos ho, columns]
    have hmap := congrArg (List.map (Option.map (d.written u))) hnames
    rw [List.map_map, List.map_map] at hmap
    exact hmap.symm
  -- behind the items both sides have the row number, so the items are compared one by one
  rw [htaken, columns_ofQuery, if_pos ho, List.append_left_inj, List.map_inj_left]
  refine forall₂_congr fun item hitem => ?_
  apply SelectItem.map_itemName?_eq_iff
  · have hmem : Emit.itemName? item ∈ (Outline.itemNames q.select).map some :=
      hnames ▸ List.mem_map_of_mem hitem
    obtain ⟨name, -, hname⟩ := List.mem_map.mp hmem
    rw [← hname]
    rfl
  · intro x hx
    exact hknown x (template_item_subset hitem names n hx)

end SelectTree

/-! ## Statements -/

theorem Query.all_itemName?_of_canJoin {q : Query} (h : q.canJoin) (ho : 0 < q.offsetValue) :
    q.select.all fun item => (Emit.itemName? item).isSome := by
  have hne : q.offsetValue ≠ 0 := UInt64.pos_iff_ne_zero.mp ho
  rw [canJoin, decide_eq_false hne, Bool.false_or, Outline.canProject, Bool.and_eq_true] at h
  exact h.2

/-- **A projection takes the items of a branch by the names of their columns exactly if no item is
an expression.**  A statement with a selection fails only if it inserts nowhere, or if a branch that
skips rows has no items or one that no name can be made of.  If it compiles, then each branch that
skips rows stands inside a SELECT with one name for each item, in order; with the row number behind
them, these are the columns inside exactly if every item without a label is a name. -/
theorem projection_columns_iff (d : Dialect) (t : AliasTable) (q source : Query)
    (hs : q.selection? = some source) :
    (∀ e, (d.compile t q).result = .error e →
      (q.kind = .insert ∧ e = .insertWithoutTable) ∨
      (e = .unnamedBranch ∧ ∃ p ∈ Query.selectionsOf source.branches, 0 < p.offsetValue ∧
        (p.select = [] ∨ ∃ item ∈ p.select, Emit.itemName? item = none))) ∧
    ∀ c, (d.compile t q).result = .ok c →
      c.sql = q.tree.template.spelled (d.written (d.compile t q).aliases) q.tree.start ∧
      List.Forall₂ (fun (p : Query) (s : SelectTree) => 0 < p.offsetValue →
          ∃ names inner, s = .projecting names inner ∧ inner.items = p.select ∧
            p.select.map Emit.itemName? = names.map some ∧
            (s.columns d (d.compile t q).aliases ++ [some rowNumberColumn]
              = inner.columns d (d.compile t q).aliases ↔
              ∀ item ∈ p.select, ¬ item.isExpression))
        (Query.selectionsOf source.branches) (wholes q.tree.selects).tail := by
  constructor
  · intro e h
    refine (Dialect.error_of_selection hs h).imp_right fun he => ?_
    rw [Outline.error_select] at he
    split at he
    · cases he
    · next hjoin =>
      cases he
      rw [Bool.not_eq_true, List.all_eq_false] at hjoin
      obtain ⟨p, hp, hcannot⟩ := hjoin
      exact ⟨rfl, p, hp, Query.canJoin_eq_false_iff.mp (eq_false_of_ne_true hcannot)⟩
  · intro c h
    refine ⟨sql_eq_spelled h (.refl _), ?_⟩
    have he := (Dialect.bindings_of_selection hs h).1
    have hjoin : ∀ p ∈ Query.selectionsOf source.branches, p.canJoin := by
      rw [Outline.error_select] at he
      split at he
      · next hall => exact List.all_eq_true.mp hall
      · cases he
    have hbranches := (List.forall₂_and_left _ _).mpr ⟨hjoin, SelectTree.forall₂_branches 0 source⟩
    rw [Query.wholes_of_selection hs, List.tail_cons]
    refine hbranches.imp ?_
    rintro p s ⟨hp, ⟨names, n, rfl⟩, hsub⟩ ho
    have hnames := SelectTree.map_itemName?_eq p.select (Query.all_itemName?_of_canJoin hp ho)
    have hknown : Template.Settled d (d.compile t q).aliases
        (SelectTree.ofQuery names n p).template := by
      intro x hx
      have hbranch := hsub (SelectTree.template_subset_branch p _ hx)
      have hsource := SelectTree.templates_subset_ofQuery .outer 0 source hbranch
      exact settled_compile h x (Query.template_subset_of_selection hs hsource)
    refine ⟨_, _, if_pos ho, SelectTree.items_ofQuery names n p, hnames, ?_⟩
    exact SelectTree.columns_branch_iff ho hnames hknown

/-- A union with a branch that skips a row. -/
def skippingUnion (items : List SelectItem) : Query :=
  { select := [⟨.column "id", none⟩], tables := [⟨"t", none⟩]
    branches := [
      { all := true, query := { select := items, tables := [⟨"o", none⟩], offset := some 1 } }] }

/-- A path, and an expression under a label. -/
def namedItems : List SelectItem :=
  [⟨.column "o.id", none⟩, ⟨.raw "price * quantity", some "total"⟩]

theorem projection_columns_iff_named : ∃ c,
    (({} : Dialect).compile {} (skippingUnion namedItems)).result = .ok c ∧
    (skippingUnion namedItems).selection? = some (skippingUnion namedItems) ∧
    ∃ names inner,
      (wholes (skippingUnion namedItems).tree.selects).tail = [.projecting names inner] ∧
      names = ["id", "total"] ∧
      inner.columns {} (({} : Dialect).compile {} (skippingUnion namedItems)).aliases
        = (names.map fun name => some (({} : Dialect).written
            (({} : Dialect).compile {} (skippingUnion namedItems)).aliases name))
          ++ [some "QAIL_RNUM"] := by
  have hok : (({} : Dialect).compile {} (skippingUnion namedItems)).result.toOption.isSome := by
    decide +kernel
  cases h : (({} : Dialect).compile {} (skippingUnion namedItems)).result with
  | error e => rw [h] at hok; cases hok
  | ok c =>
    have hbranches := ((projection_columns_iff {} {} (skippingUnion namedItems)
      (skippingUnion namedItems) rfl).2 c h).2
    refine ⟨c, rfl, rfl, ?_⟩
    change List.Forall₂ _ [_] [_] at hbranches
    obtain ⟨names, inner, heq, -, hnames, hcolumns⟩ :=
      (List.forall₂_cons.mp hbranches).1 (by decide)
    have hlist : names = ["id", "total"] :=
      List.map_injective_iff.mpr (fun _ _ => Option.some.inj)
        (hnames.symm.trans (by decide : _ = ["id", "total"].map some))
    refine ⟨names, inner, congrArg (fun s => [s]) heq, hlist, ?_⟩
    rw [heq] at hcolumns
    exact (hcolumns.mpr (by decide)).symm

def productItems : List SelectItem := [⟨.column "price * o.quantity", none⟩]

/-- An expression that ends in a path is taken by a name that the SELECT inside does not have. -/
theorem projection_columns_differ_product :
    (({} : Dialect).compile {} (skippingUnion productItems)).result.toOption = some
      { sql := "SELECT \"id\" FROM \"t\" UNION ALL SELECT \"quantity\" FROM (SELECT * FROM ("
          ++ "SELECT a.*, ROWNUM QAIL_RNUM FROM (SELECT price * o.quantity FROM \"o\") a) "
          ++ "WHERE QAIL_RNUM > :QAIL_FETCH_OFFSET_1)"
        bindings := [⟨.named "QAIL_FETCH_OFFSET_1", .int 1⟩]
        kind := .select, rowNumberColumn := false, buffered := true } ∧
    ∃ inner,
      (wholes (skippingUnion productItems).tree.selects).tail = [.projecting ["quantity"] inner] ∧
      Dialect.isPlain "price * o.quantity" = false ∧
      ({} : Dialect).written {} "quantity" = "\"quantity\"" ∧
      inner.columns {} {} = [none, some "QAIL_RNUM"] := by
  refine ⟨by decide +kernel, _, rfl, by decide, by decide +kernel, by decide +kernel⟩

end RownumSql
