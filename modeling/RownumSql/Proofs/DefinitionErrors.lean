import RownumSql.Proofs.DefinitionNames

/-!
# Errors of definitions

Quoting names never fails, so whether a table can be defined does not depend on the table of
aliases: a definition stops at the first column, constraint or index that has no SQL, and with the
error of that one.

    createTable d t     ends as  t.definable                                      (ends_createTable)
    addForeignKeys d t  ends as  its foreign keys one after another            (ends_addForeignKeys)
-/

namespace RownumSql

/-! ## What can be defined -/

/-- Whether a column has a definition, or why it has none. -/
def Column.definable (c : Column) : Except SqlError Unit :=
  match c.type with
  | none => .error (.unsupportedType "untyped")
  | some .json => .error (.unsupportedType "json")
  | some _ => .ok ()

/-- Whether the constraint of a name has a definition, or why it has none. -/
def Constraint.definable (name : String) (c : Constraint) : Except SqlError Unit :=
  if c.kind = .foreign ∧ c.references = none then
    .error (.invalidQuery ("Foreign key " ++ name ++ " has no referenced table"))
  else .ok ()

/-- Whether a table has a definition, or why it has none: the columns come first, then the
constraints, then the indexes, which have no SQL. -/
def Table.definable (t : Table) : Except SqlError Unit := do
  t.columns.entries.forM fun e => e.2.definable
  t.constraints.entries.forM fun e => e.2.definable e.1
  t.indexes.entries.forM fun _ => .error (.unsupported "indexSql")

theorem Column.definable_eq_ok_iff (c : Column) :
    c.definable = .ok () ↔ c.type.isSome ∧ c.type ≠ some .json := by
  unfold definable
  cases c.type with
  | none => simp
  | some type => cases type <;> simp

theorem Constraint.definable_eq_ok_iff (name : String) (c : Constraint) :
    c.definable name = .ok () ↔ (c.kind = .foreign → c.references.isSome) := by
  unfold definable
  split
  · next h => simp [h.1, h.2]
  · next h =>
    simp only [not_and, Option.ne_none_iff_isSome] at h
    exact iff_of_true rfl h

/-! ## Checks one after another -/

section checks
variable {ε α : Type} {check : α → Except ε Unit}

theorem forM_eq_ok_iff {xs : List α} : xs.forM check = .ok () ↔ ∀ x ∈ xs, check x = .ok () := by
  induction xs with
  | nil => exact iff_of_true rfl nofun
  | cons x xs ih =>
    rw [List.forM_eq_forM, List.forM_cons, List.forall_mem_cons, ← ih]
    cases check x with
    | error e => exact iff_of_false nofun nofun
    | ok _ => exact (and_iff_right rfl).symm

/-- The error of a list of checks is that of the first that fails. -/
theorem exists_first_of_forM_eq_error {xs : List α} {e : ε} (h : xs.forM check = .error e) :
    ∃ before x after, xs = before ++ x :: after ∧ (∀ y ∈ before, check y = .ok ()) ∧
      check x = .error e := by
  induction xs with
  | nil => cases h
  | cons x xs ih =>
    rw [List.forM_eq_forM, List.forM_cons] at h
    cases hx : check x with
    | error e' =>
      rw [hx] at h
      cases h
      exact ⟨[], x, xs, rfl, nofun, hx⟩
    | ok _ =>
      rw [hx] at h
      obtain ⟨before, y, after, rfl, hbefore, hy⟩ := ih h
      exact ⟨x :: before, y, after, rfl, List.forall_mem_cons.mpr ⟨hx, hbefore⟩, hy⟩

end checks

/-! ## How steps end -/

namespace Define

/-- From every table of aliases the step succeeds if `r` does, and fails with the error of `r` if it
does not. -/
def Ends {α : Type} (step : Define α) (r : Except SqlError Unit) : Prop :=
  ∀ t, (step.run.run t).1.map (fun _ => ()) = r

namespace Ends
variable {α β : Type} {step : Define α} {r r' : Except SqlError Unit}

theorem pure (a : α) : Ends (Pure.pure a) (.ok ()) := fun _ => rfl

theorem throw (e : SqlError) : Ends (throw e : Define α) (.error e) := fun _ => rfl

theorem bind {next : α → Define β} (h : Ends step r) (hnext : ∀ a, Ends (next a) r') :
    Ends (step >>= next) (r >>= fun _ => r') := by
  intro t
  have hr := h t
  rw [run_bind]
  cases hstep : step.run.run t with
  | mk result t' =>
    rw [hstep] at hr
    subst hr
    cases result with
    | error e => rfl
    | ok a => exact hnext a t'

/-- A step behind one that never fails. -/
theorem bind_ok {next : α → Define β} (h : Ends step (.ok ())) (hnext : ∀ a, Ends (next a) r) :
    Ends (step >>= next) r :=
  h.bind hnext

/-- A step in front of one that never fails. -/
theorem then_ok {next : α → Define β} (h : Ends step r) (hnext : ∀ a, Ends (next a) (.ok ())) :
    Ends (step >>= next) r := by
  have hsame : (r >>= fun _ => Except.ok ()) = r := by cases r <;> rfl
  rw [← hsame]
  exact h.bind hnext

/-- A step that is followed by a function of its result. -/
theorem map (h : Ends step r) (f : α → β) : Ends (do let a ← step; Pure.pure (f a)) r :=
  h.then_ok fun a => .pure (f a)

theorem mapM {step : α → Define β} {check : α → Except SqlError Unit} {xs : List α}
    (h : ∀ x ∈ xs, Ends (step x) (check x)) : Ends (xs.mapM step) (xs.forM check) := by
  induction xs with
  | nil => exact .pure []
  | cons x xs ih =>
    obtain ⟨hx, hxs⟩ := List.forall_mem_cons.mp h
    rw [List.mapM_cons]
    exact hx.bind fun a => (ih hxs).map (a :: ·)

theorem mapM_ok {step : α → Define β} {xs : List α} (h : ∀ x, Ends (step x) (.ok ())) :
    Ends (xs.mapM step) (.ok ()) := by
  rw [← forM_eq_ok_iff.mpr fun x (_ : x ∈ xs) => rfl]
  exact .mapM fun x _ => h x

/-- A step that ends well gives a result from every table. -/
theorem exists_run (h : Ends step (.ok ())) (t : AliasTable) :
    ∃ a t', step.run.run t = (.ok a, t') := by
  have hr := h t
  cases hrun : step.run.run t with
  | mk result t' =>
    cases result with
    | error e =>
      rw [hrun] at hr
      cases hr
    | ok a => exact ⟨a, t', rfl⟩

theorem exists_run_iff (h : Ends step r) (t : AliasTable) :
    (∃ a t', step.run.run t = (.ok a, t')) ↔ r = .ok () := by
  constructor
  · rintro ⟨a, t', hrun⟩
    rw [← h t, hrun]
    rfl
  · rintro rfl
    exact h.exists_run t

theorem eq_error {e : SqlError} {t t' : AliasTable} (h : Ends step r)
    (hrun : step.run.run t = (.error e, t')) : r = .error e := by
  rw [← h t, hrun]
  rfl

end Ends

/-! ## Parts of definitions -/

theorem ends_quote (d : Dialect) (name : String) : Ends (quote d name) (.ok ()) := by
  unfold quote
  split
  · exact fun _ => rfl
  · exact .pure name

theorem ends_quoteAll (d : Dialect) (names : List String) : Ends (quoteAll d names) (.ok ()) :=
  (Ends.mapM_ok fun name => ends_quote d name).map (", ".intercalate ·)

theorem ends_comment (d : Dialect) (table name text : String) :
    Ends (comment d table name text) (.ok ()) :=
  (ends_quote d name).map fun quotedName => "COMMENT ON COLUMN " ++ table ++ "." ++ quotedName
    ++ " IS " ++ d.spelling.literal (.text text)

section tables
variable (d : Dialect) {t : Table}

theorem ends_column {name : String} {c : Column} (h : t.columns.get? name = some c) :
    Ends (column d t name) c.definable := by
  unfold column Column.definable
  rw [h]
  refine (ends_quote d name).bind_ok fun quotedName => ?_
  cases c.type with
  | none => exact .throw _
  | some type =>
    cases type with
    | json => exact .throw _
    | _ => exact .pure _

theorem ends_constraintHead (name : String) (kind : ConstraintKind) :
    Ends (constraintHead d name kind) (.ok ()) := by
  cases kind with
  | primary => exact .pure _
  | unique =>
    exact (ends_quote d name).map fun quotedName => "CONSTRAINT " ++ quotedName ++ " UNIQUE"
  | foreign => exact (ends_quote d name).map ("CONSTRAINT " ++ ·)

theorem ends_constraint {name : String} {c : Constraint} (h : t.constraints.get? name = some c) :
    Ends (constraint d t name) (c.definable name) := by
  unfold constraint Constraint.definable
  rw [h]
  refine (ends_constraintHead d name c.kind).bind_ok fun head => ?_
  refine (ends_quoteAll d c.columns).bind_ok fun columns => ?_
  by_cases hkind : c.kind = .foreign
  · rw [if_neg (not_not.mpr hkind)]
    cases hr : c.references with
    | none =>
      rw [if_pos ⟨hkind, rfl⟩]
      exact .throw _
    | some r =>
      rw [if_neg fun hnone => nomatch hnone.2]
      refine (ends_quote d r.table).bind_ok fun table => ?_
      exact (ends_quoteAll d r.columns).map fun referenced => head ++ " FOREIGN KEY (" ++ columns
        ++ ") REFERENCES " ++ table ++ " (" ++ referenced ++ ")" ++ deleteRule c.delete
  · rw [if_pos hkind, if_neg fun hforeign => hkind hforeign.1]
    exact .pure _

/-! ## Statements -/

/-- Creating a table stops at its first column, constraint or index that has no definition. -/
theorem ends_createTable (t : Table) : Ends (createTable d t) t.definable := by
  have hcolumns : Ends (t.columns.keys.mapM (column d t))
      (t.columns.entries.forM fun e => e.2.definable) := by
    rw [OrderedMap.keys, List.mapM_map]
    exact .mapM fun e he =>
      ends_column d ((OrderedMap.lookup_eq_some_iff t.columns.distinct).mpr he)
  have hconstraints : Ends (t.constraints.keys.mapM (constraint d t))
      (t.constraints.entries.forM fun e => e.2.definable e.1) := by
    rw [OrderedMap.keys, List.mapM_map]
    exact .mapM fun e he =>
      ends_constraint d ((OrderedMap.lookup_eq_some_iff t.constraints.distinct).mpr he)
  have hindexes : Ends (t.indexes.keys.mapM (index d t))
      (t.indexes.entries.forM fun _ => .error (.unsupported "indexSql")) := by
    rw [OrderedMap.keys, List.mapM_map]
    exact .mapM fun e _ => .throw _
  unfold createTable Table.definable
  refine hcolumns.bind fun columns => hconstraints.bind fun constraints => ?_
  refine hindexes.then_ok fun indexes => (ends_quote d t.name).bind_ok fun table => ?_
  have hcomments : Ends ((commented t).mapM fun e => comment d table e.1 e.2) (.ok ()) :=
    .mapM_ok fun e => ends_comment d table e.1 e.2
  exact hcomments.map fun comments => ("CREATE TABLE " ++ table ++ " (\n"
    ++ ",\n".intercalate (columns ++ constraints) ++ "\n)") :: indexes ++ comments

/-- Adding the foreign keys of a table stops at the first that refers to nothing. -/
theorem ends_addForeignKeys (t : Table) :
    Ends (addForeignKeys d t) (t.foreignKeys.forM fun e => e.2.definable e.1) := by
  unfold addForeignKeys
  refine (ends_quote d t.name).bind_ok fun table => .mapM fun e he => ?_
  have hmem : e ∈ t.constraints.entries := List.mem_of_mem_filter he
  have hget : t.constraints.get? e.1 = some e.2 :=
    (OrderedMap.lookup_eq_some_iff t.constraints.distinct).mpr hmem
  exact (ends_constraint d hget).map fun definition =>
    "ALTER TABLE " ++ table ++ " ADD " ++ definition ++ ";"

end tables

end Define

end RownumSql
