import Mathlib.Data.List.Forall2
import RownumSql.Proofs.BoundValues
import RownumSql.Proofs.RowNumbers

/-!
# Selections of a statement

A statement has at most one selection, which is the query itself or the source of an insertion, and
the union of that has further selections below it.  Each stands in the tree of the statement as one
SELECT, inside which are those of its window.  A statement compiles if its selection does, and that
fails in one way only.

    the SELECT of a branch p is branch p (ofQuery names n p) for some names, n   (forall₂_branches)
    a selection stops exactly at a branch that skips rows and cannot project         (error_select)
-/

namespace RownumSql

/-! ## Selections -/

namespace Query

mutual
/-- A selection and the selections of its union, in the order in which they are written. -/
def selections : Query → List Query
  | q@{ branches, .. } => q :: selectionsOf branches

def selectionsOf : List (Branch Query) → List Query
  | [] => []
  | ⟨_, q⟩ :: rest => selections q ++ selectionsOf rest
end

theorem selections_eq (q : Query) : q.selections = q :: selectionsOf q.branches := by
  cases q
  rw [selections]

/-- The selection of a statement: the query itself, or the source of an insertion. -/
def selection? (q : Query) : Option Query := if q.kind = .select then some q else q.insertSource?

theorem select_tree_of_selection {q source : Query} (hs : q.selection? = some source) :
    q.tree.select = some (.statement, .ofQuery .outer 0 source) ∨
    q.tree.select = some (.source, .ofQuery .outer 0 source) := by
  unfold selection? at hs
  split at hs
  · next hk =>
    cases hs
    unfold tree
    rw [hk]
    exact .inl rfl
  · exact .inr (select_tree_of_insertSource hs)

end Query

/-! ## SELECTs that stand for selections -/

/-- Whether a SELECT stands for a selection, and not only for a part of its window. -/
def Place.isWhole : Place → Bool
  | .statement | .source | .branch => true
  | .window | .projected _ => false

/-- The SELECTs that stand for selections. -/
def wholes (xs : List (Place × SelectTree)) : List SelectTree :=
  (xs.filter fun x => x.1.isWhole).map Prod.snd

theorem wholes_append (xs ys : List (Place × SelectTree)) :
    wholes (xs ++ ys) = wholes xs ++ wholes ys := by
  rw [wholes, List.filter_append, List.map_append, wholes, wholes]

theorem wholes_cons (place : Place) (s : SelectTree) (xs : List (Place × SelectTree)) :
    wholes ((place, s) :: xs) = (if place.isWhole then [s] else []) ++ wholes xs := by
  rw [wholes, List.filter_cons, wholes]
  split <;> rfl

namespace SelectTree

theorem wholes_windowed (place : Place) (names : PageNames) (limit offset : UInt64)
    (distinct : Bool) (items : List SelectItem) (clauses : Template)
    (branches : List (Template × SelectTree)) (epilog : Template) :
    wholes ((windowed names limit offset (plain distinct items clauses branches epilog)).selects
        place)
      = (if place.isWhole then
          [windowed names limit offset (plain distinct items clauses branches epilog)] else [])
        ++ wholes (selectsOf branches) := by
  have hwindow : Place.window.isWhole = false := rfl
  unfold windowed
  by_cases ho : 0 < offset
  · simp [ho, selects, wholes_cons, hwindow]
  · by_cases hl : 0 < limit <;> simp [ho, hl, selects, wholes_cons, hwindow]

theorem wholes_ofQuery (place : Place) (names : PageNames) (n : Nat) (q : Query) :
    wholes ((ofQuery names n q).selects place)
      = (if place.isWhole then [ofQuery names n q] else [])
        ++ wholes (selectsOf (ofBranches n q.branches)) := by
  rw [ofQuery_eq, wholes_windowed]

theorem wholes_branch (names : PageNames) (n : Nat) (q : Query) :
    wholes ((branch q (ofQuery names n q)).selects .branch)
      = branch q (ofQuery names n q) :: wholes (selectsOf (ofBranches n q.branches)) := by
  unfold branch
  split
  · rw [selects, wholes_cons, wholes_ofQuery]
    rfl
  · rw [wholes_ofQuery]
    rfl

theorem templates_subset_ofQuery (names : PageNames) (n : Nat) (q : Query) :
    templates (ofBranches n q.branches) ⊆ (ofQuery names n q).template := by
  rw [ofQuery_eq, template_windowed, template]
  intro x hx
  simp only [List.mem_append]
  exact .inr (.inl (.inl (.inr hx)))

theorem template_subset_branch (q : Query) (s : SelectTree) :
    s.template ⊆ (branch q s).template := by
  unfold branch
  split
  · intro x hx
    rw [template]
    simp [hx]
  · exact List.Subset.refl _

/-- The tree is that of the query as a branch, and its template is part of the given one. -/
structure BranchIn (all : Template) (q : Query) (s : SelectTree) : Prop where
  eq_branch : ∃ names n, s = branch q (ofQuery names n q)
  subset : s.template ⊆ all

theorem BranchIn.mono {all more : Template} (hsub : all ⊆ more) {q : Query} {s : SelectTree}
    (h : BranchIn all q s) : BranchIn more q s :=
  ⟨h.eq_branch, List.Subset.trans h.subset hsub⟩

theorem forall₂_ofBranches (n : Nat) (bs : List (Branch Query))
    (ih : ∀ b ∈ bs, ∀ n, List.Forall₂ (BranchIn (templates (ofBranches n b.query.branches)))
      (Query.selectionsOf b.query.branches) (wholes (selectsOf (ofBranches n b.query.branches)))) :
    List.Forall₂ (BranchIn (templates (ofBranches n bs))) (Query.selectionsOf bs)
      (wholes (selectsOf (ofBranches n bs))) := by
  induction bs generalizing n with
  | nil => exact .nil
  | cons b rest ihr =>
    obtain ⟨all, q⟩ := b
    obtain ⟨hq, hrest⟩ := List.forall_mem_cons.mp ih
    rw [ofBranches, Query.selectionsOf, Query.selections_eq, selectsOf, wholes_append,
      wholes_branch, templates]
    have hfirst {s u v : Template} : s ⊆ u ++ s ++ v :=
      List.Subset.trans (List.subset_append_right _ _) (List.subset_append_left _ _)
    -- the first branch, the selections below it, and those of the branches behind it
    refine List.rel_append (.cons ⟨⟨_, _, rfl⟩, hfirst⟩ ?_) ?_
    · refine (hq _).imp fun p s hs => hs.mono (List.Subset.trans ?_ hfirst)
      exact List.Subset.trans (templates_subset_ofQuery _ _ q) (template_subset_branch q _)
    · exact (ihr _ hrest).imp fun p s hs => hs.mono (List.subset_append_right _ _)

/-- The SELECTs below a selection are those of its branches, in order. -/
theorem forall₂_branches (n : Nat) (q : Query) :
    List.Forall₂ (BranchIn (templates (ofBranches n q.branches)))
      (Query.selectionsOf q.branches) (wholes (selectsOf (ofBranches n q.branches))) := by
  induction q using Query.induction generalizing n with
  | node q ih => exact forall₂_ofBranches n q.branches ih

end SelectTree

/-- The SELECTs of a statement that stand for selections: its selection, and the branches of that. -/
theorem Query.wholes_of_selection {q source : Query} (hs : q.selection? = some source) :
    wholes q.tree.selects = .ofQuery .outer 0 source ::
      wholes (SelectTree.selectsOf (SelectTree.ofBranches 0 source.branches)) := by
  rw [StatementTree.selects]
  rcases select_tree_of_selection hs with hselect | hselect
  · rw [hselect]
    exact SelectTree.wholes_ofQuery ..
  · rw [hselect]
    exact SelectTree.wholes_ofQuery ..

theorem Query.template_subset_of_selection {q source : Query} (hs : q.selection? = some source) :
    (SelectTree.ofQuery .outer 0 source).template ⊆ q.tree.template := by
  rw [StatementTree.template]
  rcases select_tree_of_selection hs with hselect | hselect
  · rw [hselect]
    exact List.subset_append_right _ _
  · rw [hselect]
    exact List.subset_append_right _ _

/-! ## Selections that stop -/

/-- Whether the query can be a branch of a union: if it skips rows, then its items have names. -/
def Query.canJoin (q : Query) : Bool := q.offsetValue = 0 || Outline.canProject q.select

theorem Query.canJoin_eq_false_iff {q : Query} : q.canJoin = false ↔ 0 < q.offsetValue ∧
    (q.select = [] ∨ ∃ item ∈ q.select, Emit.itemName? item = none) := by
  rw [canJoin, Outline.canProject, Bool.or_eq_false_iff, decide_eq_false_iff_not,
    ← ne_eq, ← UInt64.pos_iff_ne_zero, Bool.and_eq_false_iff, Bool.not_eq_false', List.isEmpty_iff,
    List.all_eq_false]
  simp only [Option.isSome_eq_false_iff, Bool.not_eq_true, Option.isNone_iff_eq_none]

namespace Outline

theorem error_append_eq (a b : Outline) : (a ++ b).error = a.error.or b.error := by
  obtain ⟨s, error⟩ := a
  cases error <;> rfl

theorem error_branch (all : Bool) (q : Query) (inner : Outline) :
    (branch all q inner).error
      = (if q.canJoin then none else some .unnamedBranch).or inner.error := by
  have hsql (text : String) (o : Outline) : (⟨[.sql text], none⟩ ++ o : Outline).error = o.error :=
    error_append_eq _ o
  have hmark (o : Outline) : (⟨[.branch], none⟩ ++ o : Outline).error = o.error :=
    error_append_eq _ o
  -- words stop nothing, so only the projection and the selection are left
  unfold branch Query.canJoin
  rw [hsql]
  by_cases ho : 0 < q.offsetValue
  · have hpaged : q.isPaged := by simp [Query.isPaged, ho]
    have hne : q.offsetValue ≠ 0 := UInt64.pos_iff_ne_zero.mp ho
    rw [if_pos hpaged, if_pos ho, hmark, hsql, error_append_eq, hsql, error_append_eq,
      Option.or_none, projection]
    simp [hne]
  · have hzero : q.offsetValue = 0 := by simpa [UInt64.pos_iff_ne_zero] using ho
    have hmarked : (if q.isPaged then ⟨[.branch], none⟩ ++ inner else inner).error
        = inner.error := by
      split
      · exact hmark inner
      · rfl
    rw [if_neg ho, hmarked]
    simp [hzero]

theorem error_selectBranches (n : Nat) (bs : List (Branch Query))
    (ih : ∀ b ∈ bs, ∀ names n, (select names n b.query).error
      = if (Query.selectionsOf b.query.branches).all Query.canJoin then none
        else some .unnamedBranch) :
    (selectBranches n bs).error
      = if (Query.selectionsOf bs).all Query.canJoin then none else some .unnamedBranch := by
  induction bs generalizing n with
  | nil => rfl
  | cons b rest ihr =>
    obtain ⟨all, q⟩ := b
    obtain ⟨hq, hrest⟩ := List.forall_mem_cons.mp ih
    rw [selectBranches, error_append_eq, error_branch, hq, ihr _ hrest, Query.selectionsOf,
      Query.selections_eq, List.cons_append, List.all_cons, List.all_append]
    cases q.canJoin <;> cases (Query.selectionsOf q.branches).all Query.canJoin <;> rfl

/-- A selection stops if one of the branches below cannot be a branch, and in no other way. -/
theorem error_select (names : PageNames) (n : Nat) (q : Query) :
    (select names n q).error
      = if (Query.selectionsOf q.branches).all Query.canJoin then none
        else some .unnamedBranch := by
  induction q using Query.induction generalizing names n with
  | node q ih =>
    rw [select_eq, error_append_eq, error_append_eq, error_selectBranches n q.branches ih,
      Option.none_or, Option.or_none]

end Outline

/-! ## Compiled selections -/

namespace Emit
variable (d : Dialect)

/-- An insertion from a source writes its head and the source. -/
theorem run_insertion_of_source {i : Insertion Query} {source : Query}
    (hs : i.source = some source) (ht : i.table ≠ "") (t : AliasTable) :
    ∃ head t', (insertion d (some i)).run { aliases := t }
      = (((sqlOf d .outer source).run { aliases := t' }).1.map (head ++ ·),
        ((sqlOf d .outer source).run { aliases := t' }).2) := by
  obtain ⟨head, t', hrun⟩ := run_insertion d ht t
  refine ⟨head, t', ?_⟩
  rw [hrun, run_inserted, i.selection_of_source source hs]

/-- A statement with a selection writes a head and the selection, unless it inserts nowhere. -/
theorem run_statement_of_selection {q source : Query} (hs : q.selection? = some source)
    (t : AliasTable) :
    (q.kind = .insert ∧ ((statement d q).run { aliases := t }).1 = .error .insertWithoutTable) ∨
    ∃ head t', (statement d q).run { aliases := t }
      = (((sqlOf d .outer source).run { aliases := t' }).1.map (head ++ ·),
        ((sqlOf d .outer source).run { aliases := t' }).2) := by
  unfold Query.selection? at hs
  split at hs
  · next hk =>
    cases hs
    have hmap (r : Except SqlError String) : r.map ("" ++ ·) = r := by
      cases r <;> simp [Except.map]
    rw [statement_select hk]
    refine .inr ⟨"", t, ?_⟩
    rw [hmap]
    rfl
  · unfold Query.insertSource? at hs
    split at hs
    · next hk =>
      obtain ⟨i, hi, hsource⟩ := Option.bind_eq_some_iff.mp hs
      rw [statement_insert hk, hi]
      by_cases ht : i.table = ""
      · rw [insertion, if_pos ht]
        exact .inl ⟨hk, rfl⟩
      · exact .inr (run_insertion_of_source d hsource ht t)
    · cases hs

end Emit

section compile
variable {d : Dialect} {t : AliasTable} {q source : Query} (hs : q.selection? = some source)
include hs

/-- A statement with a selection fails as the selection does, unless it inserts nowhere. -/
theorem Dialect.error_of_selection {e : SqlError} (h : (d.compile t q).result = .error e) :
    (q.kind = .insert ∧ e = .insertWithoutTable) ∨
    (Outline.select .outer 0 source).error = some e := by
  rw [Dialect.result_compile] at h
  rcases Emit.run_statement_of_selection d hs t with ⟨hk, hrun⟩ | ⟨head, t', hrun⟩
  · rw [hrun] at h
    cases h
    exact .inl ⟨hk, rfl⟩
  · rw [hrun, Emit.run_sqlOf, Outline.run_write] at h
    cases he : (Outline.select .outer 0 source).error with
    | none => rw [he] at h; cases h
    | some e' => rw [he] at h; cases h; exact .inr rfl

/-- A statement with a selection binds what the selection binds. -/
theorem Dialect.bindings_of_selection {c : CompiledQuery} (h : (d.compile t q).result = .ok c) :
    (Outline.select .outer 0 source).error = none ∧ c.bindings = source.walkBindings := by
  rw [Dialect.result_compile] at h
  rcases Emit.run_statement_of_selection d hs t with ⟨-, hrun⟩ | ⟨head, t', hrun⟩
  · rw [hrun] at h
    cases h
  · rw [hrun, Emit.run_sqlOf, Outline.run_write] at h
    cases he : (Outline.select .outer 0 source).error with
    | some e => rw [he] at h; cases h
    | none =>
      rw [he] at h
      cases h
      exact ⟨rfl, Outline.entries_select source he⟩

end compile

end RownumSql
