import RownumSql.Proofs.RowDrafts
import RownumSql.Proofs.StatementTree

/-!
# Statements spelled with names

A statement is text with names and placeholders in it.  However long ago it was compiled, its SQL is
its template with every name written as the table of aliases has it now: compiling makes the table
know all names of the template, and later additions change none of them.

    c.sql = q.tree.template.spelled (d.written t) q.tree.start            (sql_eq_spelled)
-/

namespace RownumSql

/-- The text of a piece, given how names are written and the number of the next placeholder. -/
def Piece.spelled (name : String → String) (n : Nat) : Piece → String
  | .sql text => text
  | .identifier x => name x
  | .scalar _ => ":" ++ Bindings.placeholderName n
  | .reference x => ":" ++ x
  | .bound .. => ""
  | .branch => ""

namespace Template

/-- The text of a template, given how names are written and the number of the next placeholder. -/
def spelled (name : String → String) (n : Nat) : Template → String
  | [] => ""
  | x :: s => x.spelled name n ++ spelled name (n + x.scalars) s

theorem spelled_append (name : String → String) (n : Nat) (s u : Template) :
    spelled name n (s ++ u) = s.spelled name n ++ spelled name (n + s.scalars) u := by
  induction s generalizing n with
  | nil => simp [spelled, scalars]
  | cons x s ih => simp [spelled, scalars, ih, String.append_assoc, Nat.add_assoc]

/-- Templates without placeholders are spelled with the separator between them. -/
theorem spelled_joined (name : String → String) (n : Nat) (separator : String) {ss : List Template}
    (h : ∀ s ∈ ss, s.scalars = 0) :
    (joined separator ss).spelled name n = separator.intercalate (ss.map (spelled name n)) := by
  induction ss with
  | nil => rfl
  | cons s rest ih =>
    obtain ⟨hs, hrest⟩ := List.forall_mem_cons.mp h
    cases rest with
    | nil => simp [joined]
    | cons u rest =>
      have hsep : spelled name (n + 0) (.sql separator :: joined separator (u :: rest))
          = separator ++ spelled name n (joined separator (u :: rest)) := rfl
      rw [joined, spelled_append, hs, hsep, ih hrest, List.map_cons, List.map_cons, List.map_cons,
        String.intercalate_cons_cons, String.append_assoc]

variable {d : Dialect} {t u : AliasTable}

/-- A table that extends the one after a template knows all its names. -/
theorem settled_of_extends {s : Template} (h : (s.aliases d t).Extends u) : Settled d u s := by
  intro x hx
  obtain ⟨before, after, rfl⟩ := List.append_of_mem hx
  rw [aliases_append] at h
  exact (piece_of_extends d x 0 ((extends_aliases d _ after).trans h)).2

/-- Names that the table knows are written as it has them. -/
theorem Settled.text_eq {s : Template} (h : Settled d u s) (n : Nat) :
    s.text d u n = s.spelled (d.written u) n := by
  induction s generalizing n with
  | nil => rfl
  | cons x s ih =>
    obtain ⟨hx, hs⟩ := List.forall_mem_cons.mp h
    rw [text, spelled, hx, ih hs]
    cases x <;> rfl

theorem Settled.extend {s : Template} (h : Settled d t s) (hu : t.Extends u) : Settled d u s := by
  apply settled_of_extends (t := t)
  rw [h.aliases]
  exact hu

/-- Later additions to the table change no name that it knew. -/
theorem Settled.spelled_extend {s : Template} (h : Settled d t s) (hu : t.Extends u) (n : Nat) :
    s.spelled (d.written u) n = s.spelled (d.written t) n := by
  have haliases : (s.aliases d t).Extends u := by
    rw [h.aliases]
    exact hu
  rw [← h.text_eq, ← (h.extend hu).text_eq, text_of_extends d s n haliases]

end Template

/-! ## Names of compiled statements -/

namespace Emit
variable (d : Dialect)

/-- If the step succeeds from `p`, then the aliases that it leaves behind know all names of the
template. -/
def Settles (p : Progress) (step : Emit (Except SqlError String)) (s : Template) : Prop :=
  ∀ sql, (step.run p).1 = .ok sql → Template.Settled d (step.run p).2.aliases s

theorem settles_error (p : Progress) (e : SqlError) (s : Template) :
    Settles d p (pure (.error e)) s := nofun

theorem settles_fill (p : Progress) (s : Template) :
    Settles d p (do let text ← fill d s; pure (.ok text)) s := by
  intro _ _
  rw [run_bind, run_pure, Template.run_fill]
  exact Template.settled_aliases d _ s

theorem settles_sqlOf (p : Progress) (q : Query) (hp : p.pagedBranches = 0) :
    Settles d p (sqlOf d .outer q) (SelectTree.ofQuery .outer 0 q).template := by
  have hrun := run_sqlOf d .outer q p
  have htree := SelectTree.template_ofQuery .outer 0 q
  rw [hp] at hrun
  intro sql hsql
  rw [hrun, Outline.run_write] at hsql
  rw [hrun, Outline.snd_run_write]
  generalize Outline.select .outer 0 q = o at htree hsql ⊢
  obtain ⟨s, error⟩ := o
  cases error with
  | some e => cases hsql
  | none =>
    rw [htree rfl]
    exact Template.settled_aliases d _ s

theorem settles_rowValues (p : Progress) (columns : List String) (rows : List (List Expr)) :
    Settles d p (rowValues d columns rows) (StatementTree.rowValues columns rows) := by
  match rows with
  | [] => exact settles_error d p _ _
  | _ :: _ :: _ => exact settles_error d p _ _
  | [row] =>
    by_cases hlen : columns.length < row.length
    · rw [rowValues, if_pos hlen]
      exact settles_error d p _ _
    · rw [rowValues_eq_fill d columns row (Nat.not_lt.mp hlen)]
      exact settles_fill d p _

theorem settles_inserted (p : Progress) (i : Insertion Query) (hb : p.bindings = {})
    (hp : p.pagedBranches = 0) : Settles d p (inserted d i) (insertedTemplate i) := by
  obtain ⟨t, bindings, paged⟩ := p
  cases hb
  cases hp
  unfold Settles
  rw [run_inserted, insertedTemplate]
  cases (i.selection.run {}).1 with
  | error e => exact settles_error d _ e _
  | ok source =>
    cases source with
    | none => exact settles_rowValues d _ i.columns i.rows
    | some q => exact settles_sqlOf d _ q rfl

variable {d} in
theorem Settles.sql_cons {p : Progress} {step : Emit (Except SqlError String)} {s : Template}
    (text : String) (h : Settles d p step s) :
    Settles d p (do let sql ← step; pure (sql.map (text ++ ·))) (.sql text :: s) := by
  intro sql hsql
  rw [run_bind, run_pure] at hsql ⊢
  refine List.forall_mem_cons.mpr ⟨rfl, ?_⟩
  cases hstep : (step.run p).1 with
  | error e =>
    rw [hstep] at hsql
    cases hsql
  | ok sql' => exact h sql' hstep

/-- Parts that are written one after another are known in whatever order they stand. -/
theorem settles_swapped (t : AliasTable) (x y : String) (first second s : Template)
    (rest : Emit (Except SqlError String))
    (hextends : (second.after d (first.after d { aliases := t })).aliases.Extends
      (rest.run (second.after d (first.after d { aliases := t }))).2.aliases)
    (hrest : Settles d (second.after d (first.after d { aliases := t })) rest s) :
    Settles d { aliases := t } (do
        let a ← fill d first
        let b ← fill d second
        let others ← rest
        pure (others.map fun sql => x ++ b ++ y ++ a ++ sql))
      (.sql x :: second ++ .sql y :: first ++ s) := by
  intro sql hsql
  simp only [run_bind, run_pure, Template.run_fill] at hsql ⊢
  have hs : Template.Settled d (rest.run (second.after d (first.after d { aliases := t }))).2.aliases
      s := by
    cases hothers : (rest.run (second.after d (first.after d { aliases := t }))).1 with
    | error e =>
      rw [hothers] at hsql
      cases hsql
    | ok others => exact hrest others hothers
  have hsecond := Template.settled_of_extends hextends
  have hfirst := Template.settled_of_extends
    ((Template.extends_aliases d (first.aliases d t) second).trans hextends)
  rw [List.cons_append, List.cons_append]
  refine List.forall_mem_cons.mpr ⟨rfl, ?_⟩
  exact Template.settled_append.mpr ⟨Template.settled_append.mpr
    ⟨hsecond, List.forall_mem_cons.mpr ⟨rfl, hfirst⟩⟩, hs⟩

theorem settles_insertion (t : AliasTable) (i : Insertion Query) :
    Settles d { aliases := t } (insertion d (some i)) (StatementTree.ofInsertion i).template := by
  by_cases htable : i.table = ""
  · rw [insertion, if_pos htable]
    exact settles_error d _ _ _
  · have hnames := Template.marks_names ", " i.columns
    rw [insertion_eq_fills d i htable, template_ofInsertion, StatementTree.insertHead]
    generalize Template.joined ", " (i.columns.map fun name => [Piece.identifier name]) = names
      at hnames ⊢
    have hstate : Template.after d (names.after d { aliases := t }) [.identifier i.table]
        = { aliases := Template.aliases d (names.aliases d t) [.identifier i.table] } := by
      rw [Template.after_of_marks_nil d _ _ rfl, Template.after_of_marks_nil d _ _ hnames]
    have hb := congrArg Progress.bindings hstate
    have hp := congrArg Progress.pagedBranches hstate
    have hextends := ((spells_inserted d _ i hb hp).sql_cons ") ").1
    have h := settles_swapped d t "INSERT INTO " " (" names [.identifier i.table] _ _ hextends
      ((settles_inserted d _ i hb hp).sql_cons ") ")
    simpa using h

theorem settles_update (t : AliasTable) (q : Query) (u : Update) (hu : q.update = some u) :
    Settles d { aliases := t } (update d q) (StatementTree.ofUpdate u q.conditions).template := by
  by_cases hempty : u.assignments.isEmpty
  · unfold update
    rw [hu]
    show Settles d _ (if u.assignments.isEmpty then _ else _) _
    rw [if_pos hempty]
    exact settles_error d _ _ _
  · rw [update_eq_fills d q u hu hempty]
    have h := settles_swapped d t "UPDATE " " SET " (.joined ", " (u.assignments.map fun a =>
        .identifier a.column :: .sql " = " :: a.value.template)) [.identifier u.table]
      (.clause " WHERE" " AND " (q.conditions.map Expr.template)) _ (spells_fill d _ _).1
      (settles_fill d _ _)
    simpa [StatementTree.template, StatementTree.ofUpdate] using h

theorem settles_delete (t : AliasTable) (q : Query) (table : TableRef) (rest : List TableRef)
    (ht : q.tables = table :: rest) :
    Settles d { aliases := t } (delete d q)
      (StatementTree.ofDeletion table q.conditions).template := by
  have hrun : delete d q = (do
      let text ← fill d (StatementTree.ofDeletion table q.conditions).template
      pure (.ok text)) := by
    unfold delete
    rw [ht]
    simp [StatementTree.template, StatementTree.ofDeletion, table_eq_fill, conditions,
      clause_eq_fill, fill_append, String.append_assoc]
  rw [hrun]
  exact settles_fill d _ _

theorem settles_statement (t : AliasTable) (q : Query) :
    Settles d { aliases := t } (statement d q) q.tree.template := by
  cases hk : q.kind with
  | select =>
    rw [statement_select hk]
    simpa [Query.tree, hk, StatementTree.template] using settles_sqlOf d { aliases := t } q rfl
  | insert =>
    rw [statement_insert hk]
    cases hi : q.insertion with
    | none => exact settles_error d _ _ _
    | some i => simpa [Query.tree, hk, hi] using settles_insertion d t i
  | update =>
    rw [statement_update hk]
    cases hu : q.update with
    | none =>
      unfold update
      rw [hu]
      exact settles_error d _ _ _
    | some u => simpa [Query.tree, hk, hu] using settles_update d t q u hu
  | delete =>
    rw [statement_delete hk]
    cases ht : q.tables with
    | nil =>
      unfold delete
      rw [ht]
      exact settles_error d _ _ _
    | cons table rest => simpa [Query.tree, hk, ht] using settles_delete d t q table rest ht

end Emit

section compile
variable {d : Dialect} {t u : AliasTable} {q : Query} {c : CompiledQuery}

/-- Compiling makes the table know all names of a statement. -/
theorem settled_compile (h : (d.compile t q).result = .ok c) :
    Template.Settled d (d.compile t q).aliases q.tree.template := by
  rw [Dialect.aliases_compile]
  exact Emit.settles_statement d t q c.sql (Dialect.run_statement_of_compile h).1

/-- The SQL of a statement has its names as every later table has them. -/
theorem sql_eq_spelled (h : (d.compile t q).result = .ok c)
    (hu : (d.compile t q).aliases.Extends u) :
    c.sql = q.tree.template.spelled (d.written u) q.tree.start := by
  have hsettled := settled_compile h
  rw [sql_compile d t q c h, hsettled.text_eq, hsettled.spelled_extend hu]

end compile

end RownumSql
