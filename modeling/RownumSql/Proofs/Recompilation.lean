import RownumSql.Proofs.AliasHistory
import RownumSql.Proofs.Closings

/-!
# Compiling again

A step of a compilation repeats itself if it gives the same result from every table of aliases that
extends the one it left behind, and leaves that table as it is.  Such steps repeat themselves one
after another, and so does the whole of a statement.  What a query compiles to thus stays the same
for good, whatever the session compiles, quotes or shortens in between:

    let first := d.compile t q
    (d.compile (d.calls calls first.aliases) first.query).result = first.result    (compile_again)
-/

namespace RownumSql

/-! ## Quoting makes a table grow -/

namespace Dialect
open AliasTable (Grows)
variable (d : Dialect)

theorem grows_quotePart (part : String) (t : AliasTable) :
    t.Grows ((d.quotePart part).run t).2 := by
  unfold quotePart
  split
  · exact .refl t
  · exact AliasTable.grows_shorten t part

theorem grows_quoteParts (parts : List String) (t : AliasTable) :
    t.Grows ((d.quoteParts parts).run t).2 := by
  induction parts generalizing t with
  | nil => exact .refl t
  | cons part rest ih => exact (d.grows_quotePart part t).trans (ih _)

theorem grows_quote (name : String) (t : AliasTable) : t.Grows ((d.quote name).run t).2 := by
  unfold quote
  split
  · exact .refl t
  · exact d.grows_quoteParts _ t

end Dialect

/-! ## Steps that repeat themselves -/

namespace Emit

/-- The step makes the table grow, and from every table that extends the one it left behind it does
the same again and leaves that table as it is. -/
structure Repeats {α : Type} (step : Emit α) : Prop where
  grows : ∀ p : Progress, p.aliases.Grows (step.run p).2.aliases
  again : ∀ (p : Progress) (t : AliasTable), (step.run p).2.aliases.Extends t →
    step.run { p with aliases := t } = ((step.run p).1, { (step.run p).2 with aliases := t })

namespace Repeats

section rules
variable {α β : Type}

theorem pure (x : α) : Repeats (pure x) where
  grows p := .refl p.aliases
  again _ _ _ := rfl

theorem bind {step : Emit α} {next : α → Emit β} (h : Repeats step)
    (hn : ∀ x, Repeats (next x)) : Repeats (step >>= next) where
  grows p := (h.grows p).trans ((hn _).grows _)
  again p t ht := by
    have hnext := hn (step.run p).1
    have hstep := h.again p t ((hnext.grows _).extends.trans ht)
    show (next (step.run { p with aliases := t }).1).run (step.run { p with aliases := t }).2 = _
    rw [hstep]
    exact hnext.again _ t ht

/-- A step that is followed by a function of its result. -/
theorem map {step : Emit α} (h : Repeats step) (f : α → β) :
    Repeats (do let x ← step; Pure.pure (f x)) :=
  h.bind fun x => .pure (f x)

/-- A step that is another one in every state. -/
theorem of_run {step : Emit α} {same : Nat → Emit α} (h : ∀ n, Repeats (same n))
    (heq : ∀ p, step.run p = (same p.pagedBranches).run p) : Repeats step where
  grows p := by
    rw [heq]
    exact (h _).grows p
  again p t ht := by
    rw [heq] at ht ⊢
    rw [heq]
    exact (h _).again p t ht

end rules

end Repeats

variable (d : Dialect)

theorem repeats_onBindings {α : Type} (step : StateM Bindings α) : Repeats (onBindings step) where
  grows p := .refl p.aliases
  again _ _ _ := rfl

theorem repeats_quote (name : String) : Repeats (quote d name) where
  grows p := d.grows_quote name p.aliases
  again p t ht := by
    have hq := (d.repeats_quote name p.aliases).2 t ht
    show (((d.quote name).run t).1, ({ p with aliases := ((d.quote name).run t).2 } : Progress)) = _
    rw [hq]
    rfl

theorem repeats_quoteAll (names : List String) : Repeats (quoteAll d names) := by
  induction names with
  | nil => exact .pure []
  | cons name rest ih =>
    apply (repeats_quote d name).bind
    intro first
    exact ih.map (first :: ·)

theorem repeats_piece (x : Piece) : Repeats (piece d x) := by
  cases x with
  | sql text => exact .pure text
  | identifier name => exact repeats_quote d name
  | scalar v => exact repeats_onBindings _
  | reference name => exact .pure (":" ++ name)
  | bound name v => exact (repeats_onBindings _).map fun _ => ""
  | branch => exact ⟨fun p => .refl p.aliases, fun _ _ _ => rfl⟩

/-! ## Templates and selections -/

theorem repeats_fill (s : Template) : Repeats (fill d s) := by
  induction s with
  | nil => exact .pure ""
  | cons x s ih =>
    apply (repeats_piece d x).bind
    intro text
    exact ih.map (text ++ ·)

theorem repeats_fills (ss : List Template) : Repeats (fills d ss) := by
  induction ss with
  | nil => exact .pure []
  | cons s ss ih =>
    apply (repeats_fill d s).bind
    intro text
    exact ih.map (text :: ·)

theorem repeats_exprs (es : List Expr) : Repeats (exprs d es) := by
  rw [exprs_eq_fills]
  exact repeats_fills d _

theorem repeats_conditions (keyword : String) (es : List Expr) :
    Repeats (conditions d keyword es) := by
  unfold conditions
  rw [clause_eq_fill]
  exact repeats_fill d _

theorem repeats_sqlOf (names : PageNames) (q : Query) : Repeats (sqlOf d names q) := by
  have hwrite (o : Outline) : Repeats (o.write d) := by
    unfold Outline.write
    apply (repeats_fill d o.template).bind
    intro text
    cases o.error with
    | some e => exact .pure (Except.error e)
    | none => exact .pure (Except.ok text)
  exact .of_run (fun n => hwrite (.select names n q)) (run_sqlOf d names q)

/-! ## Statements -/

theorem repeats_rowValues (columns : List String) (rows : List (List Expr)) :
    Repeats (rowValues d columns rows) := by
  match rows with
  | [] => exact .pure _
  | [row] =>
    rw [rowValues]
    split
    · exact .pure _
    · exact (repeats_exprs d row).map fun texts => _
  | _ :: _ :: _ => exact .pure _

theorem repeats_inserted (i : Insertion Query) : Repeats (inserted d i) := by
  apply (repeats_onBindings i.selection).bind
  intro selection
  match selection with
  | .error e => exact .pure (Except.error e)
  | .ok none => exact repeats_rowValues d i.columns i.rows
  | .ok (some q) => exact repeats_sqlOf d .outer q

theorem repeats_insertion (i : Option (Insertion Query)) : Repeats (insertion d i) := by
  cases i with
  | none => exact .pure _
  | some i =>
    rw [insertion]
    split
    · exact .pure _
    · apply (repeats_quoteAll d i.columns).bind
      intro columns
      apply (repeats_quote d i.table).bind
      intro table
      exact (repeats_inserted d i).map fun rows => _

theorem repeats_assignments (as : List Assignment) : Repeats (assignments d as) := by
  induction as with
  | nil => exact .pure []
  | cons a rest ih =>
    rw [assignments, expr_eq_fill]
    apply (repeats_quote d a.column).bind
    intro column
    apply (repeats_fill d a.value.template).bind
    intro text
    exact ih.map fun others => _

theorem repeats_update (q : Query) : Repeats (update d q) := by
  unfold update
  cases q.update with
  | none => exact .pure _
  | some u =>
    dsimp only
    split
    · exact .pure _
    · apply (repeats_assignments d u.assignments).bind
      intro texts
      apply (repeats_quote d u.table).bind
      intro table
      exact (repeats_conditions d " WHERE" q.conditions).map fun conds => _

theorem repeats_delete (q : Query) : Repeats (delete d q) := by
  unfold delete
  cases q.tables with
  | nil => exact .pure _
  | cons t rest =>
    dsimp only
    rw [table_eq_fill]
    apply (repeats_fill d t.template).bind
    intro name
    exact (repeats_conditions d " WHERE" q.conditions).map fun conds => _

/-- A statement repeats itself. -/
theorem repeats_statement (q : Query) : Repeats (statement d q) := by
  cases hk : q.kind with
  | select =>
    rw [statement_select hk]
    exact repeats_sqlOf d .outer q
  | insert =>
    rw [statement_insert hk]
    exact repeats_insertion d q.insertion
  | update =>
    rw [statement_update hk]
    exact repeats_update d q
  | delete =>
    rw [statement_delete hk]
    exact repeats_delete d q

end Emit

/-! ## What a session does with its table -/

/-- A use of the dialect of a session. -/
inductive Call where
  | shorten (word : String)
  | quote (name : String)
  /-- Compiles a query, whether that fails or not. -/
  | compile (q : Query)

namespace Dialect
open AliasTable (Grows)
variable (d : Dialect)

def call (t : AliasTable) : Call → AliasTable
  | .shorten word => ((AliasTable.shorten word).run t).2
  | .quote name => ((d.quote name).run t).2
  | .compile q => (d.compile t q).aliases

/-- The table after calls one after another. -/
def calls (calls : List Call) (t : AliasTable) : AliasTable := calls.foldl d.call t

theorem grows_compile (t : AliasTable) (q : Query) : t.Grows (d.compile t q).aliases :=
  (Emit.repeats_statement d q).grows { aliases := t }

theorem grows_call (t : AliasTable) (c : Call) : t.Grows (d.call t c) := by
  cases c with
  | shorten word => exact AliasTable.grows_shorten t word
  | quote name => exact d.grows_quote name t
  | compile q => exact d.grows_compile t q

theorem grows_calls (calls : List Call) (t : AliasTable) : t.Grows (d.calls calls t) := by
  induction calls generalizing t with
  | nil => exact .refl t
  | cons c rest ih => exact (d.grows_call t c).trans (ih (d.call t c))

/-- With a table that extends the one that compiling a query left behind, the query compiles to the
same again. -/
theorem compile_of_extends {t t' : AliasTable} {q : Query}
    (h : (d.compile t q).aliases.Extends t') :
    (d.compile t' q).result = (d.compile t q).result ∧ (d.compile t' q).aliases = t' := by
  have hrun := (Emit.repeats_statement d q).again { aliases := t } t' h
  change (Emit.statement d q).run { aliases := t' } = _ at hrun
  rw [result_compile, result_compile, aliases_compile, hrun]
  exact ⟨rfl, rfl⟩

end Dialect

/-- **A query compiles to the same for good.**  Closing texts that it holds from before make no
difference; and after any calls to the same dialect, the query that was left behind comes to the
same SQL and bindings, or to the same error, and needs no further alias. -/
theorem compile_again (d : Dialect) (t : AliasTable) (q : Query) (calls : List Call) :
    let first := d.compile t q
    let clean := d.compile t q.withoutClosings
    let later := d.calls calls first.aliases
    first.result = clean.result ∧ first.aliases = clean.aliases ∧
    first.query.withoutClosings = q.withoutClosings ∧
    (d.compile later first.query).result = first.result ∧
    (d.compile later first.query).aliases = later := by
  intro first clean later
  obtain ⟨hresult, haliases⟩ := d.compile_withoutClosings t q
  have hleft : first.query.withoutClosings = q.withoutClosings := d.withoutClosings_query t q
  have hextends : first.aliases.Extends later := (d.grows_calls calls first.aliases).extends
  obtain ⟨hagain, hlater⟩ := d.compile_of_extends hextends
  -- the query that was left behind and the query itself agree without their closing texts
  obtain ⟨hresult', haliases'⟩ := d.compile_withoutClosings later first.query
  obtain ⟨hresult'', haliases''⟩ := d.compile_withoutClosings later q
  rw [hleft] at hresult' haliases'
  refine ⟨hresult.symm, haliases.symm, hleft, ?_, ?_⟩
  · rw [← hresult', hresult'', hagain]
  · rw [← haliases', haliases'', hlater]

end RownumSql
