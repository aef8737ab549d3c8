import RownumSql.Proofs.Outline

/-!
# Statements of every kind

Compiling also hands a query back.  Here that is dropped: the SQL of a statement is that of a
selection, of an insertion, of an update or of a deletion, and an insertion is its head with what is
inserted behind it (`statement_insert`).
-/

namespace RownumSql

/-! ## What an insertion selects -/

namespace Insertion

/-- What an insertion selects: the union that stands in for several rows, or its source. -/
def selection (i : Insertion Query) : StateM Bindings (Except SqlError (Option Query)) := do
  let union ← i.rowUnion
  pure (union.map (·.or i.source))

/-- The selection of a row, and those of the rows behind it. -/
theorem rowSelections_cons_eq_ok {columns : List String} {index : Nat} {row : List Expr}
    {rows : List (List Expr)} {b : Bindings} {qs : List Query}
    (h : ((rowSelections columns index (row :: rows)).run b).1 = .ok qs) :
    ∃ others,
      ((rowSelections columns (index + 1) rows).run
        ((rowItems columns row).run b).2).1 = .ok others ∧
      qs = { select := ((rowItems columns row).run b).1
             tables := [⟨"DUAL", none⟩] } :: others := by
  rw [rowSelections] at h
  split at h
  · cases h
  · change Except.map _ ((rowSelections columns (index + 1) rows).run
      ((rowItems columns row).run b).2).1 = _ at h
    generalize ((rowSelections columns (index + 1) rows).run
      ((rowItems columns row).run b).2).1 = r at h ⊢
    cases r with
    | error e => cases h
    | ok others =>
      cases h
      exact ⟨others, rfl, rfl⟩

theorem rowUnion_eq_none {i : Insertion Query} (h : i.rows.length ≤ 1 ∨ i.source.isSome = true) :
    i.rowUnion = pure (.ok none) := by
  have hnone : (decide (i.rows.length ≤ 1) || i.source.isSome) = true := by
    rwa [Bool.or_eq_true, decide_eq_true_iff]
  rw [rowUnion, if_pos hnone]

def unionOf : List Query → Option Query
  | [] => none
  | first :: others => some { first with branches := others.map fun q => ⟨true, q⟩ }

/-- Several rows are selected one after another. -/
theorem run_rowUnion {i : Insertion Query} (hrows : 1 < i.rows.length) (hsource : i.source = none)
    (b : Bindings) : i.rowUnion.run b =
      (((rowSelections i.columns 0 i.rows).run b).1.map unionOf,
        ((rowSelections i.columns 0 i.rows).run b).2) := by
  have hmany : (decide (i.rows.length ≤ 1) || i.source.isSome) = false := by
    rw [hsource, Option.isSome_none, Bool.or_false, decide_eq_false_iff_not]
    exact Nat.not_le.mpr hrows
  rw [rowUnion, hmany, if_neg Bool.false_ne_true]
  rfl

/-- The union of rows is the selection of the first with those of the others as branches. -/
theorem rowUnion_eq_ok_some {i : Insertion Query} {b : Bindings} {q : Query}
    (h : (i.rowUnion.run b).1 = .ok (some q)) :
    ∃ first others, ((rowSelections i.columns 0 i.rows).run b).1 = .ok (first :: others) ∧
      q = { first with branches := others.map fun q => ⟨true, q⟩ } := by
  rw [rowUnion] at h
  split at h
  · cases h
  · change Except.map _ ((rowSelections i.columns 0 i.rows).run b).1 = _ at h
    generalize ((rowSelections i.columns 0 i.rows).run b).1 = r at h ⊢
    match r with
    | .error e => cases h
    | .ok [] => cases h
    | .ok (first :: others) =>
      cases h
      exact ⟨first, others, rfl, rfl⟩

theorem run_selection (i : Insertion Query) (b : Bindings) :
    i.selection.run b = ((i.rowUnion.run b).1.map (·.or i.source), (i.rowUnion.run b).2) := rfl

/-- What is selected is the union of the rows or the source. -/
theorem selection_eq_ok_some {i : Insertion Query} {q : Query}
    (h : (i.selection.run {}).1 = .ok (some q)) :
    (i.rowUnion.run {}).1 = .ok (some q) ∨ i.source = some q := by
  rw [run_selection] at h
  generalize (i.rowUnion.run {}).1 = r at h ⊢
  match r with
  | .error e => cases h
  | .ok none => exact .inr (Except.ok.inj h)
  | .ok (some union) =>
    cases h
    exact .inl rfl

end Insertion

/-! ## SQL of a statement -/

namespace Emit
variable (d : Dialect)

def rowValues (columns : List String) : List (List Expr) → Emit (Except SqlError String)
  | [row] =>
    if columns.length < row.length then
      pure (.error (.shapeMismatch 0 columns.length row.length))
    else do
      let texts ← exprs d row
      let items := texts ++ List.replicate (columns.length - texts.length) "NULL"
      pure (.ok ("VALUES (" ++ ", ".intercalate items ++ ")"))
  | _ => pure (.error .insertWithoutRows)

/-- What stands behind the head of an insertion. -/
def inserted (i : Insertion Query) : Emit (Except SqlError String) := do
  match ← onBindings i.selection with
  | .error e => pure (.error e)
  | .ok (some q) => sqlOf d .outer q
  | .ok none => rowValues d i.columns i.rows

/-- What is inserted is decided before anything of it is written. -/
theorem run_inserted (i : Insertion Query) (t : AliasTable) :
    (inserted d i).run { aliases := t } = StateT.run
      (match (i.selection.run {}).1 with
        | .error e => pure (.error e)
        | .ok (some q) => sqlOf d .outer q
        | .ok none => rowValues d i.columns i.rows)
      { aliases := t, bindings := (i.selection.run {}).2 } := rfl

def insertHead (table : String) (columns : List String) : String :=
  "INSERT INTO " ++ table ++ " (" ++ ", ".intercalate columns ++ ")"

theorem insertHead_eq (table : String) (columns : List String) :
    insertHead table columns = "INSERT INTO " ++ table ++ " (" ++ ", ".intercalate columns ++ ")" :=
  rfl

def insertion : Option (Insertion Query) → Emit (Except SqlError String)
  | none => pure (.error .insertWithoutValues)
  | some i =>
    if i.table = "" then pure (.error .insertWithoutTable)
    else do
      let columns ← quoteAll d i.columns
      let table ← quote d i.table
      let rows ← inserted d i
      pure (rows.map (insertHead table columns ++ " " ++ ·))

def statement (q : Query) : Emit (Except SqlError String) :=
  Prod.fst <$> query d q

variable {d} {q : Query}

theorem statement_select (hk : q.kind = .select) : statement d q = sqlOf d .outer q := by
  unfold statement
  rw [query, hk]
  rfl

theorem statement_update (hk : q.kind = .update) : statement d q = update d q := by
  unfold statement
  rw [query, hk]
  simp

theorem statement_delete (hk : q.kind = .delete) : statement d q = delete d q := by
  unfold statement
  rw [query, hk]
  simp

theorem inserted_eq (i : Insertion Query) :
    inserted d i = (do
      match ← onBindings i.rowUnion with
      | .error e => pure (.error e)
      | .ok union =>
        match union.or i.source with
        | some q => sqlOf d .outer q
        | none => rowValues d i.columns i.rows) := by
  have h : onBindings i.selection = (do
      let union ← onBindings i.rowUnion
      pure (union.map (·.or i.source))) := rfl
  unfold inserted
  rw [h]
  simp only [bind_assoc, pure_bind]
  congr 1; funext union
  cases union with
  | error e => rfl
  | ok union =>
    simp only [Except.map]
    cases union.or i.source <;> rfl

theorem statement_insert (hk : q.kind = .insert) : statement d q = insertion d q.insertion := by
  unfold statement
  rw [query, hk]
  show Prod.fst <$> insert d q = _
  rw [insert]
  cases q.insertion with
  | none => rfl
  | some i =>
    by_cases ht : i.table = ""
    · simp only [insertion, ht, if_true]; rfl
    · simp only [insertion, ht, if_false, map_bind, inserted_eq, bind_assoc]
      congr 1; funext columns
      congr 1; funext table
      congr 1; funext union
      cases union with
      | error e => rfl
      | ok union =>
        cases union with
        | some source => simp [sqlOf, insertHead_eq]
        | none =>
          cases i.source with
          | some source => simp [sqlOf, insertHead_eq]
          | none =>
            cases i.rows with
            | nil => rfl
            | cons row rest =>
              cases rest with
              | cons => rfl
              | nil =>
                simp only [rowValues, Option.or]
                split
                · rfl
                · have hvalues : " VALUES (" = " " ++ "VALUES (" := rfl
                  rw [hvalues]
                  simp only [map_bind, bind_assoc, map_pure, pure_bind, Except.map, insertHead_eq,
                    String.append_assoc]

end Emit

/-! ## Compilations -/

theorem Dialect.aliases_compile (d : Dialect) (t : AliasTable) (q : Query) :
    (d.compile t q).aliases = ((Emit.statement d q).run { aliases := t }).2.aliases := rfl

theorem Dialect.result_compile (d : Dialect) (t : AliasTable) (q : Query) :
    (d.compile t q).result =
      ((Emit.statement d q).run { aliases := t }).1.map fun sql =>
        { sql
          bindings := ((Emit.statement d q).run { aliases := t }).2.bindings.entries
          kind := q.kind
          rowNumberColumn := q.kind = .select && 0 < q.offsetValue
          buffered := q.buffered && q.kind = .select } := rfl

theorem Dialect.run_statement_of_compile {d : Dialect} {t : AliasTable} {q : Query}
    {c : CompiledQuery} (h : (d.compile t q).result = .ok c) :
    ((Emit.statement d q).run { aliases := t }).1 = .ok c.sql ∧
    c.rowNumberColumn = (q.kind = .select && 0 < q.offsetValue : Bool) := by
  rw [result_compile] at h
  cases hsql : ((Emit.statement d q).run { aliases := t }).1 with
  | error e => rw [hsql] at h; cases h
  | ok sql =>
    rw [hsql] at h
    cases h
    exact ⟨rfl, rfl⟩

end RownumSql
