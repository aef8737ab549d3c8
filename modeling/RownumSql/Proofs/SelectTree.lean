import RownumSql.Proofs.Outline

/-!
# Trees of SELECTs

A SELECT has further SELECTs inside: the branches of its union, and what its windows and projections
enclose.  The tree of a selection is read off the query alone, and if the selection has no error,
then its template is that of its tree (`template_ofQuery`).
-/

namespace RownumSql

/-- A SELECT with the SELECTs inside it. -/
inductive SelectTree where
  /-- A select list, its clauses, the branches of its union with the words before them, and the text
  at the end. -/
  | plain (distinct : Bool) (items : List SelectItem) (clauses : Template)
    (branches : List (Template × SelectTree)) (epilog : Template)
  /-- All columns of a SELECT, perhaps with the row number as one more and with a greatest one. -/
  | counting (numbered : Bool) (cap : Option (String × UInt64)) (inner : SelectTree)
  /-- All columns of a SELECT, without the first of its rows. -/
  | skipping (name : String) (offset : UInt64) (inner : SelectTree)
  /-- Some columns of a SELECT by their names. -/
  | projecting (names : List String) (inner : SelectTree)

namespace SelectTree

mutual
def template : SelectTree → Template
  | plain distinct items clauses branches epilog =>
    .selectList distinct items ++ clauses ++ templates branches ++ epilog
  | counting numbered cap inner =>
    .countOpening numbered cap ++ template inner ++ .countClosing cap
  | skipping name offset inner => .skipOpening name offset ++ template inner ++ .skipClosing name
  | projecting names inner =>
    .sql "SELECT " :: Template.joined ", " (names.map fun name => [.identifier name])
      ++ .sql " FROM (" :: template inner ++ [.sql ")"]

/-- The templates of branches, each behind its words. -/
def templates : List (Template × SelectTree) → Template
  | [] => []
  | (words, s) :: rest => words ++ template s ++ templates rest
end

def windowed (names : PageNames) (limit offset : UInt64) (s : SelectTree) : SelectTree :=
  let counted := if 0 < limit ∨ 0 < offset then
    counting (0 < offset) (Template.cap names limit offset) s else s
  if 0 < offset then skipping names.offset offset counted else counted

def words (all : Bool) (q : Query) : Template :=
  .sql (Emit.unionWord all) :: if q.isPaged then [.branch] else []

/-- A branch of a union; if it skips rows, then inside a projection. -/
def branch (q : Query) (s : SelectTree) : SelectTree :=
  if 0 < q.offsetValue then projecting (Outline.itemNames q.select) s else s

mutual
/-- The tree of a selection whose window binds the given names, with `n` branches with a page before
it. -/
def ofQuery (names : PageNames) (n : Nat) : Query → SelectTree
  | q@{ branches, .. } =>
    windowed names q.limitValue q.offsetValue
      (plain q.distinct q.select (.clauses q) (ofBranches n branches) (.epilog q.epilog))

/-- The trees of the branches of a union, with their words. -/
def ofBranches (n : Nat) : List (Branch Query) → List (Template × SelectTree)
  | [] => []
  | ⟨all, q⟩ :: rest =>
    let first := branch q (ofQuery (Outline.branchNames n q) (if q.isPaged then n + 1 else n) q)
    (words all q, first) :: ofBranches (n + (words all q ++ first.template).branches) rest
end

theorem ofQuery_eq (names : PageNames) (n : Nat) (q : Query) :
    ofQuery names n q = windowed names q.limitValue q.offsetValue
      (plain q.distinct q.select (.clauses q) (ofBranches n q.branches) (.epilog q.epilog)) := by
  cases q
  rw [ofQuery]

theorem template_windowed (names : PageNames) (limit offset : UInt64) (s : SelectTree) :
    (windowed names limit offset s).template
      = .opening names limit offset ++ (s.template ++ .closing names limit offset) := by
  unfold windowed Template.opening Template.closing
  by_cases hp : 0 < limit ∨ 0 < offset
  · by_cases ho : 0 < offset
    · simp only [if_pos hp, if_pos ho, template, List.append_assoc]
    · simp only [if_pos hp, if_neg ho, template, List.append_assoc, List.nil_append,
        List.append_nil]
  · have ho : ¬ 0 < offset := fun h => hp (.inr h)
    simp only [if_neg hp, if_neg ho, List.nil_append, List.append_nil]

theorem template_branch {all : Bool} {q : Query} {s : SelectTree} {inner : Outline}
    (hs : inner.error = none → s.template = inner.template)
    (h : (Outline.branch all q inner).error = none) :
    words all q ++ (branch q s).template = (Outline.branch all q inner).template := by
  obtain ⟨hinner, -, ht⟩ := Outline.template_branch h
  rw [ht, ← hs hinner]
  unfold words branch
  rw [List.cons_append]
  congr 2
  split
  · simp [template, Outline.projection]
  · rfl

theorem templates_ofBranches (n : Nat) (bs : List (Branch Query))
    (ih : ∀ b ∈ bs, ∀ names n, (Outline.select names n b.query).error = none →
      (ofQuery names n b.query).template = (Outline.select names n b.query).template)
    (h : (Outline.selectBranches n bs).error = none) :
    templates (ofBranches n bs) = (Outline.selectBranches n bs).template := by
  induction bs generalizing n with
  | nil => rfl
  | cons b rest ihr =>
    obtain ⟨all, q⟩ := b
    obtain ⟨hq, hrest⟩ := List.forall_mem_cons.mp ih
    rw [Outline.selectBranches] at h ⊢
    obtain ⟨hfirst, hothers⟩ := (Outline.error_append _ _).mp h
    rw [Outline.template_append _ _ hfirst, ofBranches, templates, template_branch (hq _ _) hfirst,
      ihr _ hrest hothers]

theorem template_ofQuery (names : PageNames) (n : Nat) (q : Query)
    (h : (Outline.select names n q).error = none) :
    (ofQuery names n q).template = (Outline.select names n q).template := by
  induction q using Query.induction generalizing names n with
  | node q ih =>
    obtain ⟨hbranches, ht⟩ := Outline.template_select h
    rw [ht, ofQuery_eq, template_windowed, template, templates_ofBranches n q.branches ih hbranches]
    simp only [List.append_assoc]

end SelectTree

end RownumSql
