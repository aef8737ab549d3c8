import RownumSql.Proofs.SelectTree
import RownumSql.Proofs.StableNames
import RownumSql.Proofs.Statements

/-!
# Statements as trees

Every statement is a head with at most one SELECT behind it.  The tree of a query is read off the
query alone, and the SQL that a query compiles to is the text of its tree (`sql_compile`), although
some names are quoted in another order than they are written.
-/

namespace RownumSql

/-! ## Trees of statements -/

/-- Where a SELECT stands. -/
inductive Place where
  /-- It is the statement itself. -/
  | statement
  /-- Behind the head of an insertion. -/
  | source
  /-- Between the words of a union. -/
  | branch
  /-- Inside the SELECT that numbers or skips its rows. -/
  | window
  /-- Inside the SELECT that takes the given columns of it. -/
  | projected (names : List String)
deriving DecidableEq

/-- A statement of any kind. -/
structure StatementTree where
  /-- All but the SELECT. -/
  head : Template := []
  select : Option (Place × SelectTree) := none
  /-- The number of the first placeholder. -/
  start : Nat := 0

namespace StatementTree

def template (s : StatementTree) : Template :=
  s.head ++ match s.select with
    | some (_, select) => select.template
    | none => []

def insertHead (table : String) (columns : List String) : Template :=
  .sql "INSERT INTO " :: .identifier table :: .sql " (" ::
    Template.joined ", " (columns.map fun name => [.identifier name]) ++ [.sql ") "]

/-- The values of the first row, up to as many as there are columns. -/
def rowValues (columns : List String) (rows : List (List Expr)) : Template :=
  let row := rows.headD []
  .sql "VALUES (" :: Template.joined ", " (row.map Expr.template
    ++ List.replicate (columns.length - row.length) [.sql "NULL"]) ++ [.sql ")"]

def ofInsertion (i : Insertion Query) : StatementTree :=
  let selection := i.selection.run {}
  { head := insertHead i.table i.columns ++ match selection.1 with
      | .ok none => rowValues i.columns i.rows
      | _ => []
    select := match selection.1 with
      | .ok (some q) => some (.source, .ofQuery .outer 0 q)
      | _ => none
    start := selection.2.next }

def ofUpdate (u : Update) (conditions : List Expr) : StatementTree where
  head := .sql "UPDATE " :: .identifier u.table :: .sql " SET " ::
    Template.joined ", " (u.assignments.map fun a =>
      .identifier a.column :: .sql " = " :: a.value.template)
    ++ Template.clause " WHERE" " AND " (conditions.map Expr.template)

def ofDeletion (t : TableRef) (conditions : List Expr) : StatementTree where
  head := .sql "DELETE FROM " :: t.template
    ++ Template.clause " WHERE" " AND " (conditions.map Expr.template)

end StatementTree

def Query.tree (q : Query) : StatementTree :=
  match q.kind, q.insertion, q.update, q.tables with
  | .select, _, _, _ => { select := some (.statement, .ofQuery .outer 0 q) }
  | .insert, some i, _, _ => .ofInsertion i
  | .update, _, some u, _ => .ofUpdate u q.conditions
  | .delete, _, _, t :: _ => .ofDeletion t q.conditions
  | _, _, _, _ => {}

/-! ## Texts of trees -/

namespace Template

theorem after_of_marks_nil (d : Dialect) (p : Progress) (s : Template) (h : s.marks = []) :
    s.after d p = { p with aliases := s.aliases d p.aliases } := by
  have hentries (n : Nat) (es : List Binding) : s.entries n es = es := by
    induction s generalizing n es with
    | nil => rfl
    | cons x s ih =>
      cases x with
      | sql text => exact ih h _ es
      | identifier name => exact ih h _ es
      | reference name => exact ih h _ es
      | _ => cases h
  have hscalars : s.scalars = 0 := by rw [← scalars_marks, h]; rfl
  have hbranches : s.branches = 0 := by rw [← branches_marks, h]; rfl
  rw [after, hentries, hscalars, hbranches]
  rfl

theorem text_of_marks_nil (d : Dialect) (t : AliasTable) (m n : Nat) (s : Template)
    (h : s.marks = []) : s.text d t m = s.text d t n := by
  induction s generalizing t m n with
  | nil => rfl
  | cons x s ih =>
    cases x with
    | sql words => rw [text, text, ih _ _ (n + 0) h]; rfl
    | identifier name => rw [text, text, ih _ _ (n + 0) h]; rfl
    | reference name => rw [text, text, ih _ _ (n + 0) h]; rfl
    | _ => cases h

theorem marks_names (separator : String) (names : List String) :
    marks (joined separator (names.map fun name => [.identifier name])) = [] := by
  rw [marks_joined, flatMap_marks names _ (fun _ => []) fun name _ => rfl]
  simp [placeholders]

end Template

namespace Emit
variable (d : Dialect)

/-- If the step succeeds from `p`, then it gives the text of the template, with placeholders from
`n` on, under the aliases that it leaves behind. -/
def Spells (p : Progress) (step : Emit (Except SqlError String)) (n : Nat) (s : Template) : Prop :=
  p.aliases.Extends (step.run p).2.aliases ∧
    ∀ sql, (step.run p).1 = .ok sql → sql = s.text d (step.run p).2.aliases n

theorem spells_error (p : Progress) (e : SqlError) (n : Nat) (s : Template) :
    Spells d p (pure (.error e)) n s := by
  refine ⟨.refl _, ?_⟩
  intro sql h
  cases h

theorem spells_fill (p : Progress) (s : Template) :
    Spells d p (do let text ← fill d s; pure (.ok text)) p.bindings.next s := by
  unfold Spells
  rw [run_bind, run_pure, Template.run_fill]
  refine ⟨Template.extends_aliases d _ _, ?_⟩
  intro sql h
  cases h
  exact (Template.text_of_extends d s _ (.refl _)).symm

theorem spells_sqlOf (p : Progress) (q : Query) (hp : p.pagedBranches = 0) :
    Spells d p (sqlOf d .outer q) p.bindings.next (SelectTree.ofQuery .outer 0 q).template := by
  have hrun := run_sqlOf d .outer q p
  rw [hp] at hrun
  unfold Spells
  rw [hrun]
  have htree := SelectTree.template_ofQuery .outer 0 q
  generalize Outline.select .outer 0 q = o at htree ⊢
  obtain ⟨s, error⟩ := o
  cases error with
  | some e =>
    refine ⟨?_, ?_⟩
    · rw [Outline.snd_run_write]
      exact Template.extends_aliases d _ _
    · intro sql h
      rw [Outline.run_write] at h
      cases h
  | none =>
    rw [htree rfl]
    exact spells_fill d p s

theorem length_fills (ss : List Template) (p : Progress) :
    ((fills d ss).run p).1.length = ss.length := by
  induction ss generalizing p with
  | nil => rfl
  | cons s ss ih =>
    rw [fills, run_bind, run_bind, run_pure, List.length_cons, List.length_cons, ih]

theorem fills_append (ss us : List Template) :
    fills d (ss ++ us) = (do
      let first ← fills d ss
      let others ← fills d us
      pure (first ++ others)) := by
  induction ss with
  | nil => simp only [List.nil_append, fills, pure_bind, bind_pure]
  | cons s ss ih => simp only [List.cons_append, fills, ih, bind_assoc, pure_bind]

theorem fills_replicate_sql (k : Nat) (text : String) :
    fills d (List.replicate k [.sql text]) = pure (List.replicate k text) := by
  induction k with
  | zero => rfl
  | succ k ih => simp [List.replicate_succ, fills, ih]

theorem rowValues_eq_fill (columns : List String) (row : List Expr)
    (h : row.length ≤ columns.length) :
    rowValues d columns [row] = (do
      let text ← fill d (StatementTree.rowValues columns [row])
      pure (.ok text)) := by
  rw [rowValues, if_neg (Nat.not_lt.mpr h), StatementTree.rowValues, exprs_eq_fills]
  simp only [fill_append, fill_sql_cons, fill_nil, Template.fill_joined, fills_append,
    fills_replicate_sql, List.cons_append, bind_assoc, pure_bind, List.headD_cons,
    String.append_empty, String.append_assoc]
  funext p
  have hlen := length_fills d (row.map Expr.template) p
  rw [List.length_map] at hlen
  show StateT.run _ p = StateT.run _ p
  simp only [run_bind, run_pure, hlen]

theorem spells_rowValues (p : Progress) (columns : List String) (rows : List (List Expr)) :
    Spells d p (rowValues d columns rows) p.bindings.next
      (StatementTree.rowValues columns rows) := by
  match rows with
  | [] => exact spells_error d p _ _ _
  | _ :: _ :: _ => exact spells_error d p _ _ _
  | [row] =>
    by_cases hlen : columns.length < row.length
    · rw [rowValues, if_pos hlen]
      exact spells_error d p _ _ _
    · rw [rowValues_eq_fill d columns row (Nat.not_lt.mp hlen)]
      exact spells_fill d p _

/-! ## Statements -/

theorem quoteAll_eq_fills (names : List String) :
    quoteAll d names = fills d (names.map fun name => [.identifier name]) := by
  induction names with
  | nil => rfl
  | cons name rest ih => rw [quoteAll, ih, List.map_cons, fills, fill_identifier]

/-- The template of what stands behind the head of an insertion. -/
def insertedTemplate (i : Insertion Query) : Template :=
  match (i.selection.run {}).1 with
  | .ok (some q) => (SelectTree.ofQuery .outer 0 q).template
  | .ok none => StatementTree.rowValues i.columns i.rows
  | .error _ => []

theorem template_ofInsertion (i : Insertion Query) :
    (StatementTree.ofInsertion i).template
      = StatementTree.insertHead i.table i.columns ++ insertedTemplate i := by
  rw [StatementTree.template, StatementTree.ofInsertion, insertedTemplate]
  match (i.selection.run {}).1 with
  | .error e => simp
  | .ok none => simp
  | .ok (some q) => simp

theorem spells_inserted (p : Progress) (i : Insertion Query) (hb : p.bindings = {})
    (hp : p.pagedBranches = 0) :
    Spells d p (inserted d i) (i.selection.run {}).2.next (insertedTemplate i) := by
  obtain ⟨t, bindings, paged⟩ := p
  cases hb
  cases hp
  let p' : Progress := { aliases := t, bindings := (i.selection.run {}).2 }
  unfold Spells
  rw [run_inserted, insertedTemplate]
  show Spells d p' _ p'.bindings.next _
  match (i.selection.run {}).1 with
  | .error e => exact spells_error d p' e _ _
  | .ok none => exact spells_rowValues d p' i.columns i.rows
  | .ok (some q) => exact spells_sqlOf d p' q rfl

variable {d} in
theorem Spells.sql_cons {p : Progress} {step : Emit (Except SqlError String)} {n : Nat}
    {s : Template} (text : String) (h : Spells d p step n s) :
    Spells d p (do let sql ← step; pure (sql.map (text ++ ·))) n (.sql text :: s) := by
  refine ⟨h.1, ?_⟩
  intro sql hsql
  rw [run_bind, run_pure] at hsql ⊢
  have htext := h.2
  generalize step.run p = r at hsql htext ⊢
  obtain ⟨sql', p'⟩ := r
  cases sql' with
  | error e => cases hsql
  | ok sql' =>
    cases hsql
    exact congrArg (text ++ ·) (htext sql' rfl)

/-- Parts that were quoted from earlier tables have the same texts under a later one. -/
theorem text_of_parts_extend {t t' t'' : AliasTable} (n : Nat) (x y : String)
    (first second s : Template) (hsecond : second.marks = [])
    (ht : (first.aliases d t).Extends t'') (ht' : (second.aliases d t').Extends t'') :
    Template.text d t'' n (.sql x :: second ++ .sql y :: first ++ s) =
      x ++ second.text d t' n ++ y ++ first.text d t n ++ s.text d t'' (n + first.scalars) := by
  have hscalars : second.scalars = 0 := by rw [← Template.scalars_marks, hsecond]; rfl
  rw [← Template.text_of_extends d second n ht', ← Template.text_of_extends d first n ht]
  simp only [List.cons_append, List.append_assoc, Template.text, Template.text_append, Piece.text,
    Piece.aliases, Piece.scalars, Nat.add_zero, hscalars, String.append_assoc,
    Template.aliases_of_extends d second ht', Template.aliases_of_extends d first ht]

/-- A part that is quoted first may be written second: its text is the same under the final
aliases. -/
theorem spells_swapped (t : AliasTable) (n : Nat) (x y : String) (first second s : Template)
    (rest : Emit (Except SqlError String)) (hfirst : first.text d t 0 = first.text d t n)
    (hsecond : second.marks = [])
    (hrest : Spells d (second.after d (first.after d { aliases := t })) rest
      (n + first.scalars) s) :
    Spells d { aliases := t } (do
        let a ← fill d first
        let b ← fill d second
        let others ← rest
        pure (others.map fun sql => x ++ b ++ y ++ a ++ sql)) n
      (.sql x :: second ++ .sql y :: first ++ s) := by
  let t' := first.aliases d t
  obtain ⟨hext, htext⟩ := hrest
  simp only [Spells, run_bind, run_pure, Template.run_fill]
  generalize rest.run (second.after d (first.after d { aliases := t })) = r at hext htext ⊢
  obtain ⟨others, p⟩ := r
  have hlast : (second.aliases d t').Extends p.aliases := hext
  have hfinal : t'.Extends p.aliases := (Template.extends_aliases d t' second).trans hlast
  refine ⟨(Template.extends_aliases d t first).trans hfinal, ?_⟩
  intro sql h
  cases others with
  | error e => cases h
  | ok others =>
    cases h
    show x ++ second.text d t' _ ++ y ++ first.text d t 0 ++ others = _
    rw [text_of_parts_extend d n x y first second s hsecond hfinal hlast, hfirst,
      Template.text_of_marks_nil d t' _ n second hsecond, htext others rfl]

/-- An insertion quotes its columns first and its table second. -/
theorem insertion_eq_fills (i : Insertion Query) (h : i.table ≠ "") :
    insertion d (some i) = (do
      let columns ← fill d (.joined ", " (i.columns.map fun name => [.identifier name]))
      let table ← fill d [.identifier i.table]
      let others ← (do let rows ← inserted d i; pure (rows.map (") " ++ ·)))
      pure (others.map fun sql => "INSERT INTO " ++ table ++ " (" ++ columns ++ sql)) := by
  have hclose : ") " = ")" ++ " " := rfl
  rw [insertion, if_neg h, quoteAll_eq_fills, Template.fill_joined, fill_identifier]
  simp only [bind_assoc, pure_bind]
  congr 1; funext columns
  congr 1; funext table
  congr 1; funext rows
  cases rows with
  | error e => rfl
  | ok rows =>
    rw [hclose]
    simp only [Except.map, insertHead_eq, String.append_assoc]

theorem spells_insertion (t : AliasTable) (i : Insertion Query) :
    Spells d { aliases := t } (insertion d (some i)) (StatementTree.ofInsertion i).start
      (StatementTree.ofInsertion i).template := by
  by_cases htable : i.table = ""
  · rw [insertion, if_pos htable]
    exact spells_error d _ _ _ _
  · have hnames := Template.marks_names ", " i.columns
    rw [insertion_eq_fills d i htable, template_ofInsertion, StatementTree.insertHead]
    show Spells d _ _ (i.selection.run {}).2.next _
    generalize Template.joined ", " (i.columns.map fun name => [Piece.identifier name]) = names
      at hnames ⊢
    have hstart : (i.selection.run {}).2.next + names.scalars = (i.selection.run {}).2.next := by
      rw [← Template.scalars_marks, hnames]
      rfl
    have hstate : Template.after d (names.after d { aliases := t }) [.identifier i.table]
        = { aliases := Template.aliases d (names.aliases d t) [.identifier i.table] } := by
      rw [Template.after_of_marks_nil d _ _ rfl, Template.after_of_marks_nil d _ _ hnames]
    have hrest := (spells_inserted d _ i (congrArg Progress.bindings hstate)
      (congrArg Progress.pagedBranches hstate)).sql_cons ") "
    rw [← hstart] at hrest
    have h := spells_swapped d t (i.selection.run {}).2.next "INSERT INTO " " (" names
      [.identifier i.table] _ _ (Template.text_of_marks_nil d t 0 _ names hnames) rfl hrest
    simpa using h

theorem assignments_eq_fills (as : List Assignment) :
    assignments d as = fills d (as.map fun a =>
      .identifier a.column :: .sql " = " :: a.value.template) := by
  induction as with
  | nil => rfl
  | cons a rest ih =>
    rw [assignments, expr_eq_fill, ih, List.map_cons, fills]
    simp only [fill, piece, bind_assoc, pure_bind, String.append_assoc]

/-- An update quotes what it sets first and its table second. -/
theorem update_eq_fills (q : Query) (u : Update) (hu : q.update = some u)
    (h : ¬ u.assignments.isEmpty) :
    update d q = (do
      let texts ← fill d (.joined ", " (u.assignments.map fun a =>
        .identifier a.column :: .sql " = " :: a.value.template))
      let table ← fill d [.identifier u.table]
      let others ← (do
        let conds ← fill d (.clause " WHERE" " AND " (q.conditions.map Expr.template))
        pure (.ok conds) : Emit (Except SqlError String))
      pure (others.map fun sql => "UPDATE " ++ table ++ " SET " ++ texts ++ sql)) := by
  unfold update
  rw [hu]
  show (if u.assignments.isEmpty then _ else _) = _
  rw [if_neg h, assignments_eq_fills, conditions, clause_eq_fill, Template.fill_joined,
    fill_identifier]
  simp only [bind_assoc, pure_bind]
  rfl

theorem spells_update (t : AliasTable) (q : Query) (u : Update) (hu : q.update = some u) :
    Spells d { aliases := t } (update d q) (StatementTree.ofUpdate u q.conditions).start
      (StatementTree.ofUpdate u q.conditions).template := by
  by_cases hempty : u.assignments.isEmpty
  · unfold update
    rw [hu]
    show Spells d _ (if u.assignments.isEmpty then _ else _) _ _
    rw [if_pos hempty]
    exact spells_error d _ _ _ _
  · rw [update_eq_fills d q u hu hempty]
    have h := spells_swapped d t 0 "UPDATE " " SET " (.joined ", " (u.assignments.map fun a =>
        .identifier a.column :: .sql " = " :: a.value.template)) [.identifier u.table]
      (.clause " WHERE" " AND " (q.conditions.map Expr.template)) _ rfl rfl (spells_fill d _ _)
    simpa [StatementTree.template, StatementTree.ofUpdate] using h

theorem spells_delete (t : AliasTable) (q : Query) (table : TableRef) (rest : List TableRef)
    (ht : q.tables = table :: rest) :
    Spells d { aliases := t } (delete d q) (StatementTree.ofDeletion table q.conditions).start
      (StatementTree.ofDeletion table q.conditions).template := by
  have hrun : delete d q = (do
      let text ← fill d (StatementTree.ofDeletion table q.conditions).template
      pure (.ok text)) := by
    unfold delete
    rw [ht]
    simp [StatementTree.template, StatementTree.ofDeletion, table_eq_fill, conditions,
      clause_eq_fill, fill_append, String.append_assoc]
  rw [hrun]
  exact spells_fill d _ _

theorem spells_statement (t : AliasTable) (q : Query) :
    Spells d { aliases := t } (statement d q) q.tree.start q.tree.template := by
  cases hk : q.kind with
  | select =>
    rw [statement_select hk]
    simpa [Query.tree, hk, StatementTree.template] using spells_sqlOf d { aliases := t } q rfl
  | insert =>
    rw [statement_insert hk]
    cases hi : q.insertion with
    | none => exact spells_error d _ _ _ _
    | some i => simpa [Query.tree, hk, hi] using spells_insertion d t i
  | update =>
    rw [statement_update hk]
    cases hu : q.update with
    | none =>
      unfold update
      rw [hu]
      exact spells_error d _ _ _ _
    | some u => simpa [Query.tree, hk, hu] using spells_update d t q u hu
  | delete =>
    rw [statement_delete hk]
    cases ht : q.tables with
    | nil =>
      unfold delete
      rw [ht]
      exact spells_error d _ _ _ _
    | cons table rest => simpa [Query.tree, hk, ht] using spells_delete d t q table rest ht

end Emit

/-- **The text of a tree.**  The SQL that a query compiles to is the text of its tree under the
aliases that compiling leaves behind. -/
theorem sql_compile (d : Dialect) (t : AliasTable) (q : Query) (c : CompiledQuery)
    (h : (d.compile t q).result = .ok c) :
    c.sql = q.tree.template.text d (d.compile t q).aliases q.tree.start := by
  rw [Dialect.aliases_compile]
  exact (Emit.spells_statement d t q).2 c.sql (Dialect.run_statement_of_compile h).1

end RownumSql
