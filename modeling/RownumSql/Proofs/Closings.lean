import RownumSql.Proofs.Statements

/-!
# Closing texts that were left over

A query keeps the closing texts of its windows from the last time that it was compiled, in every
branch and in its source.  They are set anew before they are used, so a query compiles as if it had
none of them, and compiling changes nothing else about it:

    (compile q).result = (compile q.withoutClosings).result            (compile_withoutClosings)
    (compile q).query.withoutClosings = q.withoutClosings              (withoutClosings_query)
-/

namespace RownumSql

namespace Query

mutual
/-- The query without closing texts, those of its branches and of its source left out too. -/
def withoutClosings : Query → Query
  | q@{ branches, insertion, .. } =>
    { q with
      branches := branchesWithoutClosings branches
      insertion := insertionWithoutClosings insertion
      closing := {} }

def branchesWithoutClosings : List (Branch Query) → List (Branch Query)
  | [] => []
  | ⟨all, q⟩ :: rest => ⟨all, withoutClosings q⟩ :: branchesWithoutClosings rest

def insertionWithoutClosings : Option (Insertion Query) → Option (Insertion Query)
  | none => none
  | some ⟨table, columns, rows, source⟩ =>
    some ⟨table, columns, rows, sourceWithoutClosings source⟩

def sourceWithoutClosings : Option Query → Option Query
  | none => none
  | some q => some (withoutClosings q)
end

end Query

def Branch.withoutClosings (b : Branch Query) : Branch Query :=
  { b with query := b.query.withoutClosings }

def Insertion.withoutClosings (i : Insertion Query) : Insertion Query :=
  { i with source := i.source.map Query.withoutClosings }

namespace Query

theorem branchesWithoutClosings_eq_map (bs : List (Branch Query)) :
    branchesWithoutClosings bs = bs.map Branch.withoutClosings := by
  induction bs with
  | nil => rfl
  | cons b rest ih =>
    rw [branchesWithoutClosings, ih, List.map_cons]
    rfl

theorem insertionWithoutClosings_eq_map (i : Option (Insertion Query)) :
    insertionWithoutClosings i = i.map Insertion.withoutClosings := by
  cases i with
  | none => rfl
  | some i =>
    obtain ⟨table, columns, rows, source⟩ := i
    cases source <;> rfl

theorem withoutClosings_eq (q : Query) :
    q.withoutClosings = { q with
      branches := q.branches.map Branch.withoutClosings
      insertion := q.insertion.map Insertion.withoutClosings
      closing := {} } := by
  rw [← branchesWithoutClosings_eq_map, ← insertionWithoutClosings_eq_map]
  cases q
  rw [withoutClosings]

end Query

/-! ## Statements without closing texts -/

namespace Outline

theorem selectBranches_withoutClosings (n : Nat) (bs : List (Branch Query))
    (ih : ∀ b ∈ bs, ∀ names n,
      select names n b.query.withoutClosings = select names n b.query) :
    selectBranches n (bs.map Branch.withoutClosings) = selectBranches n bs := by
  induction bs generalizing n with
  | nil => rfl
  | cons b rest ihr =>
    obtain ⟨all, q⟩ := b
    obtain ⟨hq, hrest⟩ := List.forall_mem_cons.mp ih
    have hpaged : q.withoutClosings.isPaged = q.isPaged := by
      rw [q.withoutClosings_eq]
      rfl
    have hnames : branchNames n q.withoutClosings = branchNames n q := by
      rw [branchNames, hpaged]
      rfl
    have hbranch (inner : Outline) : branch all q.withoutClosings inner = branch all q inner := by
      unfold branch
      rw [hpaged, q.withoutClosings_eq]
      rfl
    rw [List.map_cons, Branch.withoutClosings, selectBranches, selectBranches, hnames, hpaged, hq,
      hbranch, ihr _ hrest]

theorem select_withoutClosings (names : PageNames) (n : Nat) (q : Query) :
    select names n q.withoutClosings = select names n q := by
  induction q using Query.induction generalizing names n with
  | node q ih =>
    rw [select_eq, select_eq, ← selectBranches_withoutClosings n q.branches ih,
      q.withoutClosings_eq]
    rfl

end Outline

namespace Emit
variable (d : Dialect)

theorem sqlOf_withoutClosings (names : PageNames) (q : Query) :
    sqlOf d names q.withoutClosings = sqlOf d names q := by
  funext p
  show (sqlOf d names q.withoutClosings).run p = (sqlOf d names q).run p
  rw [run_sqlOf, run_sqlOf, Outline.select_withoutClosings]

theorem inserted_withoutClosings (i : Insertion Query) :
    inserted d i.withoutClosings = inserted d i := by
  have hunion : i.withoutClosings.rowUnion = i.rowUnion := by
    unfold Insertion.rowUnion Insertion.withoutClosings
    rw [Option.isSome_map]
  rw [inserted_eq, inserted_eq, hunion]
  congr 1; funext union
  rcases union with e | (_ | q)
  · rfl
  · unfold Insertion.withoutClosings
    cases i.source with
    | none => rfl
    | some source => exact sqlOf_withoutClosings d .outer source
  · rfl

theorem insertion_withoutClosings (i : Option (Insertion Query)) :
    insertion d (i.map Insertion.withoutClosings) = insertion d i := by
  cases i with
  | none => rfl
  | some i =>
    rw [Option.map_some, insertion, insertion, inserted_withoutClosings]
    rfl

theorem statement_withoutClosings (q : Query) :
    statement d q.withoutClosings = statement d q := by
  have hkind : q.withoutClosings.kind = q.kind := by rw [q.withoutClosings_eq]
  cases hk : q.kind with
  | select =>
    rw [statement_select hk, statement_select (hkind.trans hk), sqlOf_withoutClosings]
  | insert =>
    rw [statement_insert hk, statement_insert (hkind.trans hk), q.withoutClosings_eq]
    exact insertion_withoutClosings d q.insertion
  | update =>
    rw [statement_update hk, statement_update (hkind.trans hk), q.withoutClosings_eq]
    rfl
  | delete =>
    rw [statement_delete hk, statement_delete (hkind.trans hk), q.withoutClosings_eq]
    rfl

end Emit

/-- What a query compiles to does not depend on the closing texts that it holds. -/
theorem Dialect.compile_withoutClosings (d : Dialect) (t : AliasTable) (q : Query) :
    (d.compile t q.withoutClosings).result = (d.compile t q).result ∧
    (d.compile t q.withoutClosings).aliases = (d.compile t q).aliases := by
  rw [result_compile, result_compile, aliases_compile, aliases_compile,
    Emit.statement_withoutClosings]
  refine ⟨?_, rfl⟩
  rw [q.withoutClosings_eq]
  rfl

/-! ## Queries that were compiled -/

namespace Emit
variable (d : Dialect)

theorem withoutClosings_selectBranches (bs : List (Branch Query)) (p : Progress)
    (ih : ∀ b ∈ bs, ∀ names p,
      ((select d names b.query).run p).1.2.withoutClosings = b.query.withoutClosings) :
    ((selectBranches d bs).run p).1.2.map Branch.withoutClosings
      = bs.map Branch.withoutClosings := by
  induction bs generalizing p with
  | nil => rfl
  | cons b rest ihr =>
    obtain ⟨all, q⟩ := b
    obtain ⟨hq, hrest⟩ := List.forall_mem_cons.mp ih
    rw [selectBranches, run_bind]
    generalize (enterBranch d q).run p = entered
    obtain ⟨entered, p₁⟩ := entered
    cases entered with
    | error e => rfl
    | ok entered =>
      obtain ⟨names, around⟩ := entered
      have hleft := hq names p₁
      simp only [run_bind] at hleft ⊢
      revert hleft
      generalize (select d names q).run p₁ = selected
      obtain ⟨⟨sql, left⟩, p₂⟩ := selected
      intro hleft
      have hhead : (⟨all, left⟩ : Branch Query).withoutClosings
          = (⟨all, q⟩ : Branch Query).withoutClosings := congrArg (Branch.mk all) hleft
      cases sql with
      | error e =>
        show (⟨all, left⟩ :: rest).map Branch.withoutClosings = _
        rw [List.map_cons, List.map_cons, hhead]
      | ok sql =>
        show (⟨all, left⟩ :: ((selectBranches d rest).run p₂).1.2).map Branch.withoutClosings = _
        rw [List.map_cons, List.map_cons, hhead, ihr p₂ hrest]

/-- The query that a selection leaves behind. -/
theorem left_select (names : PageNames) (q : Query) (p : Progress) :
    ((select d names q).run p).1.2 =
      { q with
        branches := ((selectBranches d q.branches).run
          ((body d q).run ((Page.bindBounds names q.limitValue q.offsetValue).run p).2).2).1.2
        closing := Page.closing names q.limitValue q.offsetValue } := by
  cases q
  rw [select]
  simp only [run_bind]
  generalize (selectBranches d _).run _ = r
  obtain ⟨⟨unions, branches⟩, p'⟩ := r
  cases unions <;> rfl

theorem withoutClosings_select (names : PageNames) (q : Query) (p : Progress) :
    ((select d names q).run p).1.2.withoutClosings = q.withoutClosings := by
  induction q using Query.induction generalizing names p with
  | node q ih =>
    rw [left_select, Query.withoutClosings_eq, q.withoutClosings_eq,
      withoutClosings_selectBranches d q.branches _ ih]

theorem withoutClosings_insert (q : Query) (p : Progress) :
    ((insert d q).run p).1.2.withoutClosings = q.withoutClosings := by
  unfold insert
  split
  · rfl
  · next i hi =>
    by_cases ht : i.table = ""
    · rw [if_pos ht]
      rfl
    · rw [if_neg ht]
      obtain ⟨table, columns, rows, source⟩ := i
      simp only [run_bind]
      generalize (onBindings (Insertion.rowUnion _)).run _ = r
      obtain ⟨union, p'⟩ := r
      match union, source, rows with
      | .error e, _, _ => rfl
      | .ok (some union), _, _ => rfl
      | .ok none, some source, rows =>
        let left := ((select d .outer source).run p').1.2
        show ({ q with insertion := some { table, columns, rows, source := some left } } :
          Query).withoutClosings = _
        rw [Query.withoutClosings_eq, q.withoutClosings_eq, hi]
        simp only [Option.map_some, Insertion.withoutClosings, left, withoutClosings_select]
      | .ok none, none, [] => rfl
      | .ok none, none, [row] =>
        dsimp only
        split <;> rfl
      | .ok none, none, _ :: _ :: _ => rfl

end Emit

/-- Compiling changes nothing in a query but its closing texts. -/
theorem Dialect.withoutClosings_query (d : Dialect) (t : AliasTable) (q : Query) :
    (d.compile t q).query.withoutClosings = q.withoutClosings := by
  show ((Emit.query d q).run { aliases := t }).1.2.withoutClosings = _
  rw [Emit.query]
  cases q.kind with
  | select => exact Emit.withoutClosings_select d .outer q _
  | insert => exact Emit.withoutClosings_insert d q _
  | update => rfl
  | delete => rfl

end RownumSql
