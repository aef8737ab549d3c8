import RownumSql.Proofs.DefinitionErrors
import RownumSql.Proofs.ForeignKeyRows

/-!
# Reflected tables can be defined

Rows of the catalog become a table by three kinds of step, which merge, replace and skip rows.  What
each of them keeps is enough for the statements that define a table: only a column whose native type
is unknown has no definition.

    t.Reflected → addForeignKeys succeeds, with one statement for each foreign key
    t.Reflected → (createTable succeeds ↔ every column has a type)         (describe_definable)
-/

namespace RownumSql

open RownumSql.Text (lower)

/-! ## What reflection keeps -/

/-- A table that came from the catalog: no column is a document, exactly the foreign keys refer to
other tables, no key is without columns, and there are no indexes. -/
structure Table.Reflected (t : Table) : Prop where
  notJson : ∀ c ∈ t.columns.values, c.type ≠ some .json
  references : ∀ c ∈ t.constraints.values, c.references.isSome ↔ c.kind = .foreign
  keyed : ∀ c ∈ t.constraints.values, c.columns ≠ []
  indexes : t.indexes = ∅

namespace Catalog

theorem bind_eq_ok {ε α β : Type} {x : Except ε α} {f : α → Except ε β} {b : β}
    (h : x >>= f = .ok b) : ∃ a, x = .ok a ∧ f a = .ok b := by
  cases x with
  | error e => cases h
  | ok a => exact ⟨a, rfl, h⟩

theorem type_columnOfType_ne_json (native : String) (length precision : Option UInt32)
    (scale : UInt32) : (columnOfType native length precision scale).type ≠ some .json := by
  unfold columnOfType
  repeat' split
  all_goals simp

variable {t t' : Table} {row : Row}

/-- A row of a column adds or replaces one column. -/
theorem addColumn_eq_ok (h : addColumn t row = .ok t') :
    ∃ name c, t' = t.addColumn name c ∧ c.type ≠ some .json := by
  unfold addColumn at h
  obtain ⟨name, -, h⟩ := bind_eq_ok h
  obtain ⟨native, -, h⟩ := bind_eq_ok h
  exact ⟨lower name, _, (Except.ok.inj h).symm, type_columnOfType_ne_json native _ _ _⟩

/-- The keys that are reflected are not foreign. -/
theorem keyOfRow_ne_foreign {name : String} {kind : ConstraintKind}
    (h : keyOfRow row = .ok (some (name, kind))) : kind ≠ .foreign := by
  rintro rfl
  unfold keyOfRow at h
  split at h
  · split at h
    · cases h
    · split at h
      · cases htext : requiredText row "CONSTRAINT_NAME" <;> simp [htext, Except.map] at h
      · cases h
  · cases h

/-- A row of a key is skipped, or it adds a column to the constraint of its name, or it makes a key
of one column. -/
theorem addKeyColumn_eq_ok (h : addKeyColumn t row = .ok t') :
    t' = t ∨
    (∃ name column, t' = { t with
      constraints := t.constraints.modify name fun c =>
        { c with columns := c.columns ++ [column] } }) ∨
    ∃ name kind column, kind ≠ .foreign ∧
      t' = t.addConstraint name { kind, columns := [column] } := by
  unfold addKeyColumn at h
  obtain ⟨key, hkey, h⟩ := bind_eq_ok h
  cases key with
  | none => exact .inl (Except.ok.inj h).symm
  | some key =>
    obtain ⟨name, kind⟩ := key
    obtain ⟨column, -, h⟩ := bind_eq_ok h
    split at h
    · exact .inr (.inl ⟨name, lower column, (Except.ok.inj h).symm⟩)
    · exact .inr (.inr ⟨name, kind, lower column, keyOfRow_ne_foreign hkey, (Except.ok.inj h).symm⟩)

/-- A row of a foreign key adds it or puts it in place of the constraint of its name. -/
theorem addForeignKey_eq_ok (h : addForeignKey t row = .ok t') :
    ∃ name column reference delete,
      t' = t.addConstraint name (.foreign [column] reference delete) := by
  unfold addForeignKey at h
  obtain ⟨name, -, h⟩ := bind_eq_ok h
  obtain ⟨owner, -, h⟩ := bind_eq_ok h
  obtain ⟨table, -, h⟩ := bind_eq_ok h
  obtain ⟨column, -, h⟩ := bind_eq_ok h
  obtain ⟨referenced, -, h⟩ := bind_eq_ok h
  exact ⟨name, lower column, _, _, (Except.ok.inj h).symm⟩

/-- What every row of a list keeps, the list keeps. -/
theorem of_foldlM {P : Table → Prop} {add : Table → Row → Except SqlError Table}
    (hadd : ∀ {t t' : Table} {row : Row}, P t → add t row = .ok t' → P t')
    {rows : List Row} (h : P t) (hrows : rows.foldlM add t = .ok t') : P t' := by
  induction rows generalizing t with
  | nil =>
    cases hrows
    exact h
  | cons row rest ih =>
    obtain ⟨next, hrow, hrest⟩ := bind_eq_ok hrows
    exact ih (hadd h hrow) hrest

end Catalog

namespace Table.Reflected
variable {t t' : Table} {row : Row}

theorem empty (name : String) : Table.Reflected { name } where
  notJson _ h := absurd h List.not_mem_nil
  references _ h := absurd h List.not_mem_nil
  keyed _ h := absurd h List.not_mem_nil
  indexes := rfl

theorem addColumn {name : String} {c : Column} (h : t.Reflected) (hc : c.type ≠ some .json) :
    (t.addColumn name c).Reflected := by
  refine ⟨?_, h.references, h.keyed, h.indexes⟩
  intro c' hc'
  rcases OrderedMap.mem_values_insert hc' with rfl | hold
  · exact hc
  · exact h.notJson c' hold

theorem addConstraint {name : String} {c : Constraint} (h : t.Reflected)
    (hreferences : c.references.isSome ↔ c.kind = .foreign) (hkeyed : c.columns ≠ []) :
    (t.addConstraint name c).Reflected := by
  refine ⟨h.notJson, ?_, ?_, h.indexes⟩
  · intro c' hc'
    rcases OrderedMap.mem_values_insert hc' with rfl | hold
    · exact hreferences
    · exact h.references c' hold
  · intro c' hc'
    rcases OrderedMap.mem_values_insert hc' with rfl | hold
    · exact hkeyed
    · exact h.keyed c' hold

/-- A column more does not change what kind of constraint it is for. -/
theorem modify {name column : String} (h : t.Reflected) :
    ({ t with constraints := t.constraints.modify name fun c =>
        { c with columns := c.columns ++ [column] } } : Table).Reflected := by
  refine ⟨h.notJson, ?_, ?_, h.indexes⟩
  · intro c' hc'
    rcases OrderedMap.mem_values_modify hc' with hold | ⟨c, hold, rfl⟩
    · exact h.references c' hold
    · exact h.references c hold
  · intro c' hc'
    rcases OrderedMap.mem_values_modify hc' with hold | ⟨c, hold, rfl⟩
    · exact h.keyed c' hold
    · exact List.append_ne_nil_of_right_ne_nil c.columns (List.cons_ne_nil column [])

/-! ## Rows -/

theorem of_addColumn (h : t.Reflected) (hrow : Catalog.addColumn t row = .ok t') :
    t'.Reflected := by
  obtain ⟨name, c, rfl, hc⟩ := Catalog.addColumn_eq_ok hrow
  exact h.addColumn hc

theorem of_addKeyColumn (h : t.Reflected) (hrow : Catalog.addKeyColumn t row = .ok t') :
    t'.Reflected := by
  rcases Catalog.addKeyColumn_eq_ok hrow with
    rfl | ⟨name, column, rfl⟩ | ⟨name, kind, column, hkind, rfl⟩
  · exact h
  · exact h.modify
  · exact h.addConstraint (iff_of_false nofun hkind) (List.cons_ne_nil column [])

theorem of_addForeignKey (h : t.Reflected) (hrow : Catalog.addForeignKey t row = .ok t') :
    t'.Reflected := by
  obtain ⟨name, column, reference, delete, rfl⟩ := Catalog.addForeignKey_eq_ok hrow
  exact h.addConstraint (iff_of_true rfl rfl) (List.cons_ne_nil column [])

theorem of_describe {name : String} {columns indexes foreignKeys : List Row}
    (h : Catalog.describe name columns indexes foreignKeys = .ok t) : t.Reflected := by
  obtain ⟨t₁, hcolumns, h⟩ := Catalog.bind_eq_ok h
  obtain ⟨t₂, hindexes, hforeignKeys⟩ := Catalog.bind_eq_ok h
  have h₁ := Catalog.of_foldlM of_addColumn (.empty name) hcolumns
  have h₂ := Catalog.of_foldlM of_addKeyColumn h₁ hindexes
  exact Catalog.of_foldlM of_addForeignKey h₂ hforeignKeys

/-! ## Definitions -/

theorem constraint_definable (h : t.Reflected) {e : String × Constraint}
    (he : e ∈ t.constraints.entries) : e.2.definable e.1 = .ok () :=
  (e.2.definable_eq_ok_iff e.1).mpr (h.references e.2 (List.mem_map_of_mem he)).mpr

/-- Only a column can keep a reflected table from being defined. -/
theorem definable_eq (h : t.Reflected) :
    t.definable = t.columns.entries.forM fun e => e.2.definable := by
  have hconstraints : (t.constraints.entries.forM fun e => e.2.definable e.1) = .ok () :=
    forM_eq_ok_iff.mpr fun e he => h.constraint_definable he
  rw [Table.definable, hconstraints, h.indexes]
  cases t.columns.entries.forM fun e => e.2.definable <;> rfl

theorem definable_eq_ok_iff (h : t.Reflected) :
    t.definable = .ok () ↔ ∀ c ∈ t.columns.values, c.type.isSome := by
  rw [h.definable_eq, forM_eq_ok_iff, OrderedMap.values, List.forall_mem_map]
  refine forall₂_congr fun e he => ?_
  rw [e.2.definable_eq_ok_iff]
  exact and_iff_left (h.notJson e.2 (List.mem_map_of_mem he))

theorem eq_untyped_of_definable {e : SqlError} (h : t.Reflected) (he : t.definable = .error e) :
    e = .unsupportedType "untyped" := by
  rw [h.definable_eq] at he
  obtain ⟨before, entry, after, hsplit, -, hcolumn⟩ := exists_first_of_forM_eq_error he
  have hentry : entry ∈ t.columns.entries := by
    rw [hsplit]
    exact List.mem_append_right before List.mem_cons_self
  have hjson := h.notJson entry.2 (List.mem_map_of_mem hentry)
  unfold Column.definable at hcolumn
  split at hcolumn
  · exact (Except.error.inj hcolumn).symm
  · next heq => exact absurd heq hjson
  · cases hcolumn

end Table.Reflected

namespace Define

/-- The statement that adds a foreign key to a table, with names as `write` has them. -/
def foreignKeyStatement (write : String → String) (table name : String) (c : Constraint)
    (r : Reference) : String :=
  "ALTER TABLE " ++ write table ++ " ADD CONSTRAINT " ++ write name
    ++ " FOREIGN KEY (" ++ ", ".intercalate (c.columns.map write)
    ++ ") REFERENCES " ++ write r.table ++ " (" ++ ", ".intercalate (r.columns.map write) ++ ")"
    ++ deleteRule c.delete ++ ";"

theorem spelled_foreignTemplate (write : String → String) (table name : String) (c : Constraint)
    (r : Reference) :
    Template.spelled write 0 (.sql "ALTER TABLE " :: .identifier table :: .sql " ADD " ::
      foreignTemplate name c r ++ [.sql ";"]) = foreignKeyStatement write table name c r := by
  have hwords (text : String) :
      " ADD " ++ ("CONSTRAINT " ++ text) = " ADD CONSTRAINT " ++ text := by
    rw [← String.append_assoc]
    rfl
  unfold foreignTemplate headTemplate foreignKeyStatement
  simp only [List.cons_append, List.nil_append, Template.spelled_append, Template.spelled,
    Piece.spelled, Piece.scalars, scalars_nameList, spelled_nameList]
  simp only [String.append_assoc, String.append_empty]
  simp only [hwords]

/-- What adding foreign keys gives, if it succeeds. -/
theorem forall₂_addForeignKeys {d : Dialect} {T : Table} {texts : List String}
    {t t' : AliasTable} (h : (addForeignKeys d T).run.run t = (.ok texts, t'))
    (hreferences : ∀ e ∈ T.foreignKeys, e.2.references.isSome) :
    List.Forall₂ (fun text e => ∃ r, e.2.references = some r ∧
      text = foreignKeyStatement (d.defined t') T.name e.1 e.2 r) texts T.foreignKeys := by
  rw [((renders_addForeignKeys d T).run t texts t' h).2 t' (.refl t'), Kind.templates,
    List.map_map, List.forall₂_map_left_iff, List.forall₂_same]
  intro e he
  obtain ⟨r, hr⟩ := Option.isSome_iff_exists.mp (hreferences e he)
  obtain ⟨hmem, hkind⟩ := List.mem_filter.mp he
  have hget : T.constraints.get? e.1 = some e.2 :=
    (OrderedMap.lookup_eq_some_iff T.constraints.distinct).mpr hmem
  -- a foreign key with a reference is the one kind of constraint that this template is for
  have hforeign : ¬ e.2.kind ≠ .foreign := not_not.mpr (of_decide_eq_true hkind)
  have htemplate : constraintTemplate T e.1 = foreignTemplate e.1 e.2 r := by
    rw [constraintTemplate, hget]
    simp only [if_neg hforeign, hr]
  refine ⟨r, hr, ?_⟩
  rw [Function.comp_apply, htemplate]
  exact spelled_foreignTemplate (d.defined t') T.name e.1 e.2 r

end Define

/-- **A reflected table can be defined unless a type is unknown.**  A table that the catalog
describes has a reference in exactly its foreign keys, no key without columns, no document columns
and no indexes.  For every dialect, and whatever was defined or compiled before, adding its foreign
keys succeeds with one statement for each, in the order of the table.  Creating it succeeds if and
only if every column has a type, and can fail in no other way. -/
theorem describe_definable {name : String} {columns indexes foreignKeys : List Row} {T : Table}
    (h : Catalog.describe name columns indexes foreignKeys = .ok T) (d : Dialect) (t : AliasTable) :
    T.Reflected ∧
    (∃ texts t', (Define.addForeignKeys d T).run.run t = (.ok texts, t') ∧
      List.Forall₂ (fun text e => ∃ r, e.2.references = some r ∧
        text = Define.foreignKeyStatement (d.defined t') T.name e.1 e.2 r) texts T.foreignKeys) ∧
    ((∃ texts t', (Define.createTable d T).run.run t = (.ok texts, t')) ↔
      ∀ c ∈ T.columns.values, c.type.isSome) ∧
    ∀ e t', (Define.createTable d T).run.run t = (.error e, t') →
      e = .unsupportedType "untyped" := by
  have hT := Table.Reflected.of_describe h
  refine ⟨hT, ?_, ?_, ?_⟩
  · have hforeignKeys : (T.foreignKeys.forM fun e => e.2.definable e.1) = .ok () :=
      forM_eq_ok_iff.mpr fun e he => hT.constraint_definable (List.mem_of_mem_filter he)
    have hends := Define.ends_addForeignKeys d T
    rw [hforeignKeys] at hends
    obtain ⟨texts, t', hrun⟩ := hends.exists_run t
    refine ⟨texts, t', hrun, Define.forall₂_addForeignKeys hrun ?_⟩
    intro e he
    obtain ⟨hmem, hkind⟩ := List.mem_filter.mp he
    exact (hT.references e.2 (List.mem_map_of_mem hmem)).mpr (of_decide_eq_true hkind)
  · rw [(Define.ends_createTable d T).exists_run_iff t]
    exact hT.definable_eq_ok_iff
  · intro e t' hrun
    exact hT.eq_untyped_of_definable ((Define.ends_createTable d T).eq_error hrun)

/-- A foreign key takes the place of the unique key of its name, and the type of the second column
is unknown: its foreign key can be added, but the table cannot be created. -/
theorem describe_definable_unknownType :
    let columns : List Row :=
      [OrderedMap.ofList [("COLUMN_NAME", .text "BOOK_ID"), ("DATA_TYPE", .text "NUMBER")],
       OrderedMap.ofList [("COLUMN_NAME", .text "SHELF"), ("DATA_TYPE", .text "SDO_GEOMETRY")]]
    let indexes : List Row := [OrderedMap.ofList [("COLUMN_NAME", .text "SHELF"),
      ("CONSTRAINT_NAME", .text "FK_BOOK"), ("CONSTRAINT_TYPE", .text "U")]]
    let foreignKeys := [Catalog.bookRow "FK_BOOK" "BOOK_ID" "ID"]
    ∃ T, Catalog.describe "loans" columns indexes foreignKeys = .ok T ∧ T.Reflected ∧
      (Define.addForeignKeys {} T).run.run {} = (.ok ["ALTER TABLE \"loans\" ADD CONSTRAINT " ++
        "\"FK_BOOK\" FOREIGN KEY (\"book_id\") REFERENCES \"APP\".\"BOOKS\" (\"id\") " ++
        "ON DELETE CASCADE;"], {}) ∧
      ∃ t', (Define.createTable {} T).run.run {} = (.error (.unsupportedType "untyped"), t') := by
  intro columns indexes foreignKeys
  have hdescribe : ∃ T, Catalog.describe "loans" columns indexes foreignKeys = .ok T ∧
      T.name = "loans" ∧ ¬ (∀ c ∈ T.columns.values, c.type.isSome) ∧
      T.foreignKeys =
        [("FK_BOOK", .foreign ["book_id"] ⟨"APP.BOOKS", ["id"]⟩ (some .cascade))] ∧
      ((Define.addForeignKeys {} T).run.run {}).2 = {} :=
    ⟨_, rfl, rfl, by decide +kernel, by decide +kernel, by decide +kernel⟩
  obtain ⟨T, hT, hname, huntyped, hkeys, haliases⟩ := hdescribe
  obtain ⟨hreflected, ⟨texts, t', hrun, htexts⟩, hiff, herror⟩ := describe_definable hT {} {}
  refine ⟨T, hT, hreflected, ?_, ?_⟩
  · obtain rfl : t' = {} := by rw [← haliases, hrun]
    rw [hkeys, hname, List.forall₂_cons_right_iff] at htexts
    obtain ⟨text, rest, ⟨r, hr, rfl⟩, hrest, rfl⟩ := htexts
    cases hr
    cases hrest
    rw [hrun]
    congr 3
  · cases hcreate : (Define.createTable {} T).run.run {} with
    | mk result u =>
      cases result with
      | ok texts => exact absurd (hiff.mp ⟨texts, u, hcreate⟩) huntyped
      | error e => exact ⟨u, by rw [herror e u hcreate]⟩

end RownumSql
