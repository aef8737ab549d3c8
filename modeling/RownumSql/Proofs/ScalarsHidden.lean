import RownumSql.Proofs.Masking
import RownumSql.Proofs.Statements

/-!
# Scalars never reach the text

Two runs of a statement whose scalars differ in their contents go through the same states, apart
from the values that are bound.  One step mirrors another if from states of the same shape it gives
the same result and leaves states of the same shape behind; steps that mirror each other do so one
after another (`Mirrors.bind`), so the whole of a statement mirrors its mask.

    q.masked = q'.masked → compile q and compile q' agree but for bound values
                                                              (compile_congr_of_masked_eq)
-/

namespace RownumSql

/-! ## Mirrored steps -/

/-- From related states the second step gives what `f` makes of the first one's result, and the
states that they leave are related again. -/
def Mirrors {σ α β : Type} (R : σ → σ → Prop) (f : α → β) (a : StateM σ α) (b : StateM σ β) :
    Prop :=
  ∀ s s', R s s' → (b.run s').1 = f (a.run s).1 ∧ R (a.run s).2 (b.run s').2

namespace Mirrors

section rules
variable {σ α β γ δ : Type} {R : σ → σ → Prop}

theorem pure (f : α → β) (x : α) : Mirrors R f (pure x) (pure (f x)) := by
  intro s s' hs
  exact ⟨rfl, hs⟩

theorem bind {f : α → β} {g : γ → δ} {a : StateM σ α} {b : StateM σ β} {k : α → StateM σ γ}
    {l : β → StateM σ δ} (h : Mirrors R f a b) (hk : ∀ x, Mirrors R g (k x) (l (f x))) :
    Mirrors R g (a >>= k) (b >>= l) := by
  intro s s' hs
  obtain ⟨hx, hs⟩ := h s s' hs
  have hn := hk (a.run s).1 _ _ hs
  rw [← hx] at hn
  exact hn

/-- A step that is followed by a function of its result. -/
theorem map {f : α → β} {g : γ → δ} {a : StateM σ α} {b : StateM σ β} {k : α → γ} {l : β → δ}
    (h : Mirrors R f a b) (hk : ∀ x, l (f x) = g (k x)) :
    Mirrors R g (do let x ← a; Pure.pure (k x)) (do let y ← b; Pure.pure (l y)) := by
  apply h.bind
  intro x
  rw [hk]
  exact .pure g (k x)

end rules

end Mirrors

/-- Bindings under the same keys, with the same next placeholder. -/
structure Bindings.SameKeys (b b' : Bindings) : Prop where
  keys : b'.entries.map Binding.key = b.entries.map Binding.key
  next : b'.next = b.next

/-- States that differ in bound values alone. -/
structure Progress.SameShape (p p' : Progress) : Prop where
  aliases : p'.aliases = p.aliases
  bindings : p.bindings.SameKeys p'.bindings
  pagedBranches : p'.pagedBranches = p.pagedBranches

/-! ## Single steps -/

namespace Bindings

theorem keys_put (key : BindKey) (v : Value) (es : List Binding) :
    (put key v es).map Binding.key =
      if key ∈ es.map Binding.key then es.map Binding.key else es.map Binding.key ++ [key] := by
  induction es with
  | nil => rfl
  | cons e es ih =>
    rw [put]
    by_cases he : e.key = key
    · simp [he]
    · rw [if_neg he, List.map_cons, ih, List.map_cons]
      by_cases hm : key ∈ es.map Binding.key
      · rw [if_pos hm, if_pos (List.mem_cons_of_mem _ hm)]
      · have hn : key ∉ e.key :: es.map Binding.key := by
          rw [List.mem_cons, not_or]
          exact ⟨Ne.symm he, hm⟩
        rw [if_neg hm, if_neg hn, List.cons_append]

theorem mirrors_place (v w : Value) : Mirrors SameKeys id (place v) (place w) := by
  rintro b b' ⟨hkeys, hnext⟩
  refine ⟨congrArg (fun n => ":" ++ placeholderName n) hnext, ?_, congrArg (· + 1) hnext⟩
  show (b'.entries ++ [_]).map _ = (b.entries ++ [_]).map _
  rw [List.map_append, List.map_append, hkeys, hnext]
  rfl

end Bindings

namespace Emit
open Progress (SameShape)
variable (d : Dialect)

theorem mirrors_onBindings {α β : Type} {f : α → β} {a : StateM Bindings α} {b : StateM Bindings β}
    (h : Mirrors Bindings.SameKeys f a b) : Mirrors SameShape f (onBindings a) (onBindings b) := by
  rintro p p' ⟨haliases, hbindings, hpaged⟩
  obtain ⟨hx, hb⟩ := h _ _ hbindings
  exact ⟨hx, haliases, hb, hpaged⟩

theorem mirrors_quote (name : String) : Mirrors SameShape id (quote d name) (quote d name) := by
  rintro p p' ⟨haliases, hbindings, hpaged⟩
  refine ⟨?_, ?_, hbindings, hpaged⟩
  · show ((d.quote name).run p'.aliases).1 = ((d.quote name).run p.aliases).1
    rw [haliases]
  · show ((d.quote name).run p'.aliases).2 = ((d.quote name).run p.aliases).2
    rw [haliases]

theorem mirrors_quoteAll (names : List String) :
    Mirrors SameShape id (quoteAll d names) (quoteAll d names) := by
  induction names with
  | nil => exact .pure id []
  | cons name rest ih =>
    apply (mirrors_quote d name).bind
    intro first
    exact ih.map fun _ => rfl

theorem mirrors_piece (x : Piece) : Mirrors SameShape id (piece d x) (piece d x.masked) := by
  cases x with
  | sql text => exact .pure id text
  | identifier name => exact mirrors_quote d name
  | scalar v => exact mirrors_onBindings (Bindings.mirrors_place v v.masked)
  | reference name => exact .pure id (":" ++ name)
  | bound name v =>
    refine Mirrors.map (f := id) (mirrors_onBindings ?_) fun _ => rfl
    rintro b b' ⟨hkeys, hnext⟩
    refine ⟨rfl, ?_, hnext⟩
    show (Bindings.put _ v b'.entries).map _ = (Bindings.put _ v b.entries).map _
    rw [Bindings.keys_put, Bindings.keys_put, hkeys]
  | branch =>
    rintro p p' ⟨haliases, hbindings, hpaged⟩
    exact ⟨rfl, haliases, hbindings, congrArg (· + 1) hpaged⟩

/-! ## Templates and selections -/

theorem mirrors_fill (s : Template) : Mirrors SameShape id (fill d s) (fill d s.masked) := by
  induction s with
  | nil => exact .pure id ""
  | cons x s ih =>
    apply (mirrors_piece d x).bind
    intro text
    exact ih.map fun _ => rfl

theorem mirrors_fills (ss : List Template) :
    Mirrors SameShape id (fills d ss) (fills d (ss.map Template.masked)) := by
  induction ss with
  | nil => exact .pure id []
  | cons s ss ih =>
    apply (mirrors_fill d s).bind
    intro text
    exact ih.map fun _ => rfl

theorem mirrors_exprs (es : List Expr) :
    Mirrors SameShape id (exprs d es) (exprs d (es.map Expr.masked)) := by
  rw [exprs_eq_fills, exprs_eq_fills,
    Template.map_template_masked es _ _ fun e _ => Template.template_expr_masked e]
  exact mirrors_fills d _

theorem mirrors_conditions (keyword : String) (es : List Expr) :
    Mirrors SameShape id (conditions d keyword es) (conditions d keyword (es.map Expr.masked)) := by
  unfold conditions
  rw [clause_eq_fill, clause_eq_fill, Template.clause_exprs_masked]
  exact mirrors_fill d _

theorem mirrors_sqlOf (names : PageNames) (q : Query) :
    Mirrors SameShape id (sqlOf d names q) (sqlOf d names q.masked) := by
  have hw (o : Outline) : Mirrors SameShape id (o.write d) (o.masked.write d) := by
    obtain ⟨s, error⟩ := o
    apply (mirrors_fill d s).bind
    intro text
    cases error with
    | some e => exact .pure id (Except.error e)
    | none => exact .pure id (Except.ok text)
  intro p p' h
  rw [run_sqlOf, run_sqlOf, Outline.select_masked, h.pagedBranches]
  exact hw _ p p' h

end Emit

/-! ## Rows of an insertion -/

namespace Insertion
open Bindings (SameKeys)

theorem mirrors_cell (e : Option Expr) :
    Mirrors SameKeys Expr.masked (cell e) (cell (e.map Expr.masked)) := by
  match e with
  | none => exact .pure Expr.masked (.raw "NULL")
  | some (.column name) => exact .pure Expr.masked (.column name)
  | some (.raw sql) => exact .pure Expr.masked (.raw sql)
  | some (.compare l op r) => exact .pure Expr.masked (.compare l op r)
  | some (.function name args) => exact .pure Expr.masked (.function name args)
  | some (.value v) =>
    cases v with
    | null => exact .pure Expr.masked (.raw "NULL")
    | _ => exact (Bindings.mirrors_place _ _).map fun _ => rfl

theorem mirrors_rowItems (columns : List String) (row : List Expr) :
    Mirrors SameKeys (List.map SelectItem.masked) (rowItems columns row)
      (rowItems columns (row.map Expr.masked)) := by
  induction columns generalizing row with
  | nil => exact .pure _ []
  | cons column columns ih =>
    rw [rowItems, rowItems, List.head?_map, ← List.map_tail]
    apply (mirrors_cell row.head?).bind
    intro first
    exact (ih row.tail).map fun _ => rfl

theorem mirrors_rowSelections (columns : List String) (index : Nat) (rows : List (List Expr)) :
    Mirrors SameKeys (Except.map (List.map Query.masked)) (rowSelections columns index rows)
      (rowSelections columns index (rows.map (·.map Expr.masked))) := by
  induction rows generalizing index with
  | nil => exact .pure _ (Except.ok [])
  | cons row rows ih =>
    rw [List.map_cons, rowSelections, rowSelections, List.length_map]
    split
    · exact .pure (Except.map (List.map Query.masked)) (.error _)
    · apply (mirrors_rowItems columns row).bind
      intro items
      apply (ih (index + 1)).map
      intro others
      cases others with
      | error e => rfl
      | ok others =>
        show Except.ok (_ :: _) = Except.ok (List.map Query.masked (_ :: _))
        rw [List.map_cons, Query.masked_eq { select := items, tables := [⟨"DUAL", none⟩] }]
        rfl

theorem mirrors_rowUnion (i : Insertion Query) :
    Mirrors SameKeys (Except.map (Option.map Query.masked)) i.rowUnion i.masked.rowUnion := by
  unfold rowUnion masked
  rw [List.length_map, Option.isSome_map]
  split
  · exact .pure (Except.map (Option.map Query.masked)) (.ok none)
  · apply (mirrors_rowSelections i.columns 0 i.rows).map
    intro selections
    match selections with
    | .error e => rfl
    | .ok [] => rfl
    | .ok (first :: others) =>
      simp only [Except.map, List.map_cons, Option.map_some, List.map_map]
      rw [Query.masked_eq { first with branches := _ }, Query.masked_eq first, List.map_map]
      rfl

theorem mirrors_selection (i : Insertion Query) :
    Mirrors SameKeys (Except.map (Option.map Query.masked)) i.selection i.masked.selection := by
  apply (mirrors_rowUnion i).map
  intro union
  match union with
  | .error e => rfl
  | .ok none => rfl
  | .ok (some q) => rfl

end Insertion

namespace Emit
open Progress (SameShape)
variable (d : Dialect)

theorem mirrors_rowValues (columns : List String) (rows : List (List Expr)) :
    Mirrors SameShape id (rowValues d columns rows)
      (rowValues d columns (rows.map (·.map Expr.masked))) := by
  match rows with
  | [] => exact .pure id _
  | [row] =>
    rw [List.map_cons, List.map_nil, rowValues, rowValues, List.length_map]
    split
    · exact .pure id _
    · exact (mirrors_exprs d row).map fun _ => rfl
  | _ :: _ :: _ => exact .pure id _

theorem mirrors_inserted (i : Insertion Query) :
    Mirrors SameShape id (inserted d i) (inserted d i.masked) := by
  apply (mirrors_onBindings (Insertion.mirrors_selection i)).bind
  intro selection
  match selection with
  | .error e => exact .pure id (Except.error e)
  | .ok none => exact mirrors_rowValues d i.columns i.rows
  | .ok (some q) => exact mirrors_sqlOf d .outer q

/-! ## Statements -/

theorem mirrors_insertion (i : Option (Insertion Query)) :
    Mirrors SameShape id (insertion d i) (insertion d (i.map Insertion.masked)) := by
  cases i with
  | none => exact .pure id _
  | some i =>
    rw [Option.map_some, insertion, insertion]
    show Mirrors _ _ _ (if i.table = "" then _ else _)
    split
    · exact .pure id _
    · apply (mirrors_quoteAll d i.columns).bind
      intro columns
      apply (mirrors_quote d i.table).bind
      intro table
      exact (mirrors_inserted d i).map fun _ => rfl

theorem mirrors_assignments (as : List Assignment) :
    Mirrors SameShape id (assignments d as) (assignments d (as.map Assignment.masked)) := by
  induction as with
  | nil => exact .pure id []
  | cons a rest ih =>
    rw [List.map_cons, assignments, assignments, expr_eq_fill, expr_eq_fill]
    show Mirrors _ _ _ (do
      let column ← quote d a.column
      let text ← fill d a.value.masked.template
      let others ← assignments d (rest.map Assignment.masked)
      pure ((column ++ " = " ++ text) :: others))
    rw [Template.template_expr_masked]
    apply (mirrors_quote d a.column).bind
    intro column
    apply (mirrors_fill d a.value.template).bind
    intro text
    exact ih.map fun _ => rfl

theorem mirrors_update (q : Query) : Mirrors SameShape id (update d q) (update d q.masked) := by
  unfold update
  rw [Query.masked_eq]
  cases q.update with
  | none => exact .pure id _
  | some u =>
    simp only [Option.map_some, Update.masked, List.isEmpty_map]
    split
    · exact .pure id _
    · apply (mirrors_assignments d u.assignments).bind
      intro texts
      apply (mirrors_quote d u.table).bind
      intro table
      exact (mirrors_conditions d " WHERE" q.conditions).map fun _ => rfl

theorem mirrors_delete (q : Query) : Mirrors SameShape id (delete d q) (delete d q.masked) := by
  unfold delete
  rw [Query.masked_eq]
  cases q.tables with
  | nil => exact .pure id _
  | cons t rest =>
    have ht : Mirrors SameShape id (table d t) (table d t) := by
      rw [table_eq_fill]
      have h := mirrors_fill d t.template
      rwa [Template.masked_table] at h
    apply ht.bind
    intro name
    exact (mirrors_conditions d " WHERE" q.conditions).map fun _ => rfl

/-- A statement mirrors its mask. -/
theorem mirrors_statement (q : Query) :
    Mirrors SameShape id (statement d q) (statement d q.masked) := by
  have hkind := q.kind_masked
  cases hk : q.kind with
  | select =>
    rw [statement_select hk, statement_select (hkind.trans hk)]
    exact mirrors_sqlOf d .outer q
  | insert =>
    rw [statement_insert hk, statement_insert (hkind.trans hk), Query.masked_eq]
    exact mirrors_insertion d q.insertion
  | update =>
    rw [statement_update hk, statement_update (hkind.trans hk)]
    exact mirrors_update d q
  | delete =>
    rw [statement_delete hk, statement_delete (hkind.trans hk)]
    exact mirrors_delete d q

end Emit

/-! ## Compilations -/

/-- A compiled query with the contents of its bindings left out. -/
def CompiledQuery.withoutValues (c : CompiledQuery) : CompiledQuery :=
  { c with bindings := c.bindings.map fun b => ⟨b.key, .null⟩ }

theorem compile_masked (d : Dialect) (t : AliasTable) (q : Query) :
    (d.compile t q.masked).aliases = (d.compile t q).aliases ∧
    (d.compile t q.masked).result.map CompiledQuery.withoutValues =
      (d.compile t q).result.map CompiledQuery.withoutValues := by
  have hstart : Progress.SameShape { aliases := t } { aliases := t } := ⟨rfl, ⟨rfl, rfl⟩, rfl⟩
  obtain ⟨hsql, haliases, ⟨hkeys, -⟩, -⟩ := Emit.mirrors_statement d q _ _ hstart
  have hblank (es : List Binding) : es.map (fun b => (⟨b.key, .null⟩ : Binding))
      = (es.map Binding.key).map fun key => ⟨key, .null⟩ := by rw [List.map_map]; rfl
  refine ⟨haliases, ?_⟩
  rw [Dialect.result_compile, Dialect.result_compile, hsql]
  cases ((Emit.statement d q).run { aliases := t }).1 with
  | error e => rfl
  | ok sql =>
    simp only [Except.map, id, CompiledQuery.withoutValues, hblank, hkeys]
    rw [Query.masked_eq]
    rfl

/-- **Scalars never reach the text.**  Two queries that differ in the contents of their scalars
alone need the same aliases, and they fail with the same error or compile to the same SQL with the
same keys; only the bound values differ. -/
theorem compile_congr_of_masked_eq (d : Dialect) (t : AliasTable) (q q' : Query)
    (h : q.masked = q'.masked) :
    (d.compile t q).aliases = (d.compile t q').aliases ∧
    (d.compile t q).result.map CompiledQuery.withoutValues =
      (d.compile t q').result.map CompiledQuery.withoutValues := by
  obtain ⟨ha, hr⟩ := compile_masked d t q
  obtain ⟨ha', hr'⟩ := compile_masked d t q'
  rw [h] at ha hr
  exact ⟨ha.symm.trans ha', hr.symm.trans hr'⟩

/-- Two rows, one short, with a scalar in either and one inside a function. -/
def twoRows (u v w : Value) : Query :=
  { kind := .insert
    insertion := some
      { table := "t", columns := ["a", "b"]
        rows := [[.value u, .function "f" [.value v]], [.value w]] } }

def plainRows : Query := twoRows (.text "x") (.int 1) (.bool true)

/-- The same rows with texts that would be SQL if they were not bound. -/
def hostileRows : Query := twoRows (.text "x'); DROP TABLE t") (.text ":c0") (.int 7)

theorem compile_congr_of_masked_eq_hostileRows :
    plainRows.masked = hostileRows.masked ∧
    (({} : Dialect).compile {} hostileRows).result.toOption.isSome ∧
    (({} : Dialect).compile {} plainRows).aliases
      = (({} : Dialect).compile {} hostileRows).aliases ∧
    (({} : Dialect).compile {} plainRows).result.map CompiledQuery.withoutValues =
      (({} : Dialect).compile {} hostileRows).result.map CompiledQuery.withoutValues :=
  ⟨rfl, by decide +kernel, compile_congr_of_masked_eq {} {} plainRows hostileRows rfl⟩

end RownumSql
