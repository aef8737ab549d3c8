import RownumSql.Proofs.DefinitionErrors
import RownumSql.Proofs.Literals

/-!
# Tables that can be created

The definition of a table is put together from those of its columns and constraints.  Each of them
may have none, and indexes never have one, so that the table is created exactly if it is supported,
and otherwise fails as its first part without a definition does.  All parts are then in one
statement, one item each, and a comment for each column that has one follows.

    createTable succeeds ↔ T.Supported
    createTable fails as the first of T.parts that fails
    createTable gives one item for each part, in order         (createTable_succeeds_iff)
-/

namespace RownumSql

/-! ## Parts of a table -/

/-- What a table is made of. -/
inductive TablePart where
  | column (name : String) (c : Column)
  | constraint (name : String) (c : Constraint)
  | index (name : String) (i : Index)

/-- Whether a part has a definition, or why it has none. -/
def TablePart.definable : TablePart → Except SqlError Unit
  | column _ c => c.definable
  | constraint name c => c.definable name
  | index _ _ => .error (.unsupported "indexSql")

namespace Table

/-- The parts of a table, in order: columns come first, then constraints, then indexes. -/
def parts (t : Table) : List TablePart :=
  t.columns.entries.map (fun e => .column e.1 e.2)
    ++ t.constraints.entries.map (fun e => .constraint e.1 e.2)
    ++ t.indexes.entries.map fun e => .index e.1 e.2

/-- Every column has a type that is no document, every foreign key refers to a table, and there are
no indexes. -/
structure Supported (t : Table) : Prop where
  columns : ∀ c ∈ t.columns.values, c.type.isSome ∧ c.type ≠ some .json
  constraints : ∀ c ∈ t.constraints.values, c.kind = .foreign → c.references.isSome
  indexes : t.indexes = ∅

/-- A table can be defined if its parts can, one after another. -/
theorem definable_eq_forM_parts (t : Table) : t.definable = t.parts.forM TablePart.definable := by
  simp only [definable, parts, List.forM_eq_forM, List.forM_append, List.forM_map, bind_assoc]
  rfl

/-- A table is supported if all its parts have definitions. -/
theorem supported_iff (t : Table) : t.Supported ↔ ∀ p ∈ t.parts, p.definable = .ok () := by
  have hcolumns : (∀ c ∈ t.columns.values, c.type.isSome ∧ c.type ≠ some .json) ↔
      ∀ e ∈ t.columns.entries, (TablePart.column e.1 e.2).definable = .ok () := by
    rw [OrderedMap.values, List.forall_mem_map]
    exact forall₂_congr fun e _ => e.2.definable_eq_ok_iff.symm
  have hconstraints : (∀ c ∈ t.constraints.values, c.kind = .foreign → c.references.isSome) ↔
      ∀ e ∈ t.constraints.entries, (TablePart.constraint e.1 e.2).definable = .ok () := by
    rw [OrderedMap.values, List.forall_mem_map]
    exact forall₂_congr fun e _ => (e.2.definable_eq_ok_iff e.1).symm
  have hindexes : t.indexes = ∅ ↔
      ∀ e ∈ t.indexes.entries, (TablePart.index e.1 e.2).definable = .ok () := by
    constructor
    · intro hempty
      rw [hempty]
      exact fun e he => absurd he List.not_mem_nil
    · intro hall
      refine OrderedMap.ext_entries (List.eq_nil_iff_forall_not_mem.mpr ?_)
      intro e he
      cases hall e he
  rw [parts, List.forall_mem_append, List.forall_mem_append, List.forall_mem_map,
    List.forall_mem_map, List.forall_mem_map, ← hcolumns, ← hconstraints, ← hindexes]
  constructor
  · intro h
    exact ⟨⟨h.columns, h.constraints⟩, h.indexes⟩
  · rintro ⟨⟨hcolumns, hconstraints⟩, hindexes⟩
    exact ⟨hcolumns, hconstraints, hindexes⟩

end Table

namespace Define

def part (d : Dialect) (t : Table) : TablePart → Define String
  | .column name _ => column d t name
  | .constraint name _ => constraint d t name
  | .index name _ => index d t name

theorem ends_part (d : Dialect) {t : Table} {p : TablePart} (hp : p ∈ t.parts) :
    Ends (part d t p) p.definable := by
  rw [Table.parts, List.mem_append, List.mem_append] at hp
  rcases hp with (hp | hp) | hp
  · obtain ⟨e, he, rfl⟩ := List.mem_map.mp hp
    exact ends_column d ((OrderedMap.lookup_eq_some_iff t.columns.distinct).mpr he)
  · obtain ⟨e, he, rfl⟩ := List.mem_map.mp hp
    exact ends_constraint d ((OrderedMap.lookup_eq_some_iff t.constraints.distinct).mpr he)
  · obtain ⟨e, -, rfl⟩ := List.mem_map.mp hp
    exact .throw _

/-! ## Steps that repeat themselves -/

/-- From the table of aliases `u` on the step gives `a` and adds nothing. -/
def Gives {α : Type} (u : AliasTable) (step : Define α) (a : α) : Prop :=
  ∀ u', u.Extends u' → step.run.run u' = (.ok a, u')

open AliasTable (Repeats)

section repeats
variable {α β : Type}

theorem repeats_pure (a : α) : Repeats (pure a : Define α).run := Repeats.pure _

theorem repeats_throw (e : SqlError) : Repeats (throw e : Define α).run := Repeats.pure _

theorem repeats_bind {step : Define α} {next : α → Define β} (h : Repeats step.run)
    (hnext : ∀ a, Repeats (next a).run) : Repeats (step >>= next).run := by
  have hcont : ∀ r, Repeats (ExceptT.bindCont next r) := by
    intro r
    cases r with
    | ok a => exact hnext a
    | error e => exact .pure _
  exact Repeats.bind h hcont

theorem repeats_mapM {step : α → Define β} (h : ∀ x, Repeats (step x).run) (xs : List α) :
    Repeats (xs.mapM step).run := by
  induction xs with
  | nil => exact repeats_pure []
  | cons x xs ih =>
    rw [List.mapM_cons]
    exact repeats_bind (h x) fun a => repeats_bind ih fun rest => repeats_pure (a :: rest)

/-- A list of steps that succeeds gives one result for each. -/
theorem gives_of_mapM {step : α → Define β} (hrepeats : ∀ x, Repeats (step x).run) {xs : List α}
    {bs : List β} {t t' u : AliasTable} (h : (xs.mapM step).run.run t = (.ok bs, t'))
    (hu : t'.Extends u) : List.Forall₂ (fun x b => Gives u (step x) b) xs bs := by
  induction xs generalizing t bs with
  | nil =>
    cases h
    exact .nil
  | cons x xs ih =>
    rw [List.mapM_cons] at h
    obtain ⟨b, t₁, hx, h⟩ := run_bind_eq_ok h
    obtain ⟨rest, t₂, hxs, h⟩ := run_bind_eq_ok h
    cases h
    refine .cons ?_ (ih hxs)
    intro u' hu'
    have hrest := (repeats_mapM hrepeats xs t₁).1
    have hfirst := (hrepeats x t).2 u'
    rw [hxs] at hrest
    rw [hx] at hfirst
    exact hfirst (hrest.trans (hu.trans hu'))

end repeats

section tables
variable (d : Dialect) (t : Table)

theorem repeats_quote (name : String) : Repeats (quote d name).run := by
  unfold quote
  split
  · intro u
    obtain ⟨hextends, hrepeats⟩ := d.repeats_quote name u
    refine ⟨hextends, ?_⟩
    intro u' hu'
    show (Except.ok ((d.quote name).run u').1, ((d.quote name).run u').2) = _
    rw [hrepeats u' hu']
    rfl
  · exact repeats_pure name

theorem repeats_quoteAll (names : List String) : Repeats (quoteAll d names).run :=
  repeats_bind (repeats_mapM (repeats_quote d) names) fun _ => repeats_pure _

theorem repeats_column (name : String) : Repeats (column d t name).run := by
  unfold column
  cases t.columns.get? name with
  | none => exact repeats_throw _
  | some c =>
    refine repeats_bind (repeats_quote d name) fun quotedName => ?_
    cases c.type with
    | none => exact repeats_throw _
    | some type =>
      refine repeats_bind ?_ fun typeText => repeats_pure _
      cases nativeType type c.fixed with
      | ok typeText => exact repeats_pure typeText
      | error e => exact repeats_throw e

theorem repeats_constraintHead (name : String) (kind : ConstraintKind) :
    Repeats (constraintHead d name kind).run := by
  cases kind with
  | primary => exact repeats_pure _
  | unique => exact repeats_bind (repeats_quote d name) fun _ => repeats_pure _
  | foreign => exact repeats_bind (repeats_quote d name) fun _ => repeats_pure _

theorem repeats_constraint (name : String) : Repeats (constraint d t name).run := by
  unfold constraint
  cases t.constraints.get? name with
  | none => exact repeats_throw _
  | some c =>
    refine repeats_bind (repeats_constraintHead d name c.kind) fun head => ?_
    refine repeats_bind (repeats_quoteAll d c.columns) fun columns => ?_
    split
    · exact repeats_pure _
    · cases c.references with
      | none => exact repeats_throw _
      | some r =>
        refine repeats_bind (repeats_quote d r.table) fun table => ?_
        exact repeats_bind (repeats_quoteAll d r.columns) fun referenced => repeats_pure _

end tables

/-! ## Statements -/

/-- The statements of a table under a table of aliases: one that creates it, with the definitions of
its columns and then of its constraints as items, and one for each comment, all in order. -/
def Covers (d : Dialect) (T : Table) (u : AliasTable) (statements : List String) : Prop :=
  ∃ columns constraints : List String,
    List.Forall₂ (fun name text => Gives u (column d T name) text) T.columns.keys columns ∧
    List.Forall₂ (fun name text => Gives u (constraint d T name) text) T.constraints.keys
      constraints ∧
    statements = ("CREATE TABLE " ++ d.defined u T.name ++ " (\n"
        ++ ",\n".intercalate (columns ++ constraints) ++ "\n)") ::
      (commented T).map fun e => commentFront d u T.name e.1 ++ d.spelling.literal (.text e.2)

theorem covers_createTable {d : Dialect} {T : Table} {t t' : AliasTable} {statements : List String}
    (h : (createTable d T).run.run t = (.ok statements, t')) : Covers d T t' statements := by
  unfold createTable at h
  obtain ⟨columns, t₁, hcolumns, h⟩ := run_bind_eq_ok h
  obtain ⟨constraints, t₂, hconstraints, h⟩ := run_bind_eq_ok h
  obtain ⟨indexes, t₃, hindexes, h⟩ := run_bind_eq_ok h
  obtain ⟨table, t₄, htable, h⟩ := run_bind_eq_ok h
  obtain ⟨comments, t₅, hcomments, h⟩ := run_bind_eq_ok h
  cases h
  -- each step only adds to the table of aliases, so that all of them agree under the last one
  obtain ⟨hextends₂, -⟩ :=
    (Renders.mapM (renders_constraint d T) T.constraints.keys).run _ _ _ hconstraints
  obtain ⟨hextends₃, hnone⟩ := (renders_indexes d T).run _ _ _ hindexes
  obtain ⟨hextends₄, hname⟩ := (renders_quote d T.name).run _ _ _ htable
  obtain ⟨hextends₅, htexts⟩ := (Renders.mapM (fun (e : String × String) =>
    renders_comment d table e.1 e.2) (commented T)).run _ _ _ hcomments
  have hfrom₃ := hextends₄.trans hextends₅
  have hfrom₂ := hextends₃.trans hfrom₃
  obtain rfl := hnone t' hfrom₃
  obtain rfl := htexts t' (.refl t')
  obtain rfl := hname t' hextends₅
  exact ⟨columns, constraints,
    gives_of_mapM (repeats_column d T) hcolumns (hextends₂.trans hfrom₂),
    gives_of_mapM (repeats_constraint d T) hconstraints hfrom₂, rfl⟩

/-- **A table is created exactly if it is supported, and then as a whole.**  For every dialect and
whatever was defined or compiled before, creating a table succeeds if and only if every column has
a type that is no document, every foreign key refers to a table, and there are no indexes.
Otherwise it fails as the first part does that has no definition: columns come first, then
constraints, then indexes.  If it succeeds, then each column and each constraint is one item of the
first statement, in order, and a statement follows for the comment of each column that has one. -/
theorem createTable_succeeds_iff (d : Dialect) (T : Table) (t : AliasTable) :
    ((∃ statements t', (createTable d T).run.run t = (.ok statements, t')) ↔ T.Supported) ∧
    (∀ p ∈ T.parts, Ends (part d T p) p.definable) ∧
    (¬ T.Supported → ∃ e t', (createTable d T).run.run t = (.error e, t') ∧
      ∃ before p after, T.parts = before ++ p :: after ∧
        (∀ x ∈ before, x.definable = .ok ()) ∧ p.definable = .error e) ∧
    ∀ statements t', (createTable d T).run.run t = (.ok statements, t') →
      Covers d T t' statements := by
  have hends := ends_createTable d T
  have hiff : (∃ statements t', (createTable d T).run.run t = (.ok statements, t')) ↔
      T.Supported := by
    rw [hends.exists_run_iff t, T.supported_iff, T.definable_eq_forM_parts, forM_eq_ok_iff]
  refine ⟨hiff, fun p hp => ends_part d hp, ?_, fun _ _ => covers_createTable⟩
  intro hnot
  cases hrun : (createTable d T).run.run t with
  | mk result t' =>
    cases result with
    | ok statements => exact absurd (hiff.mp ⟨statements, t', hrun⟩) hnot
    | error e =>
      have hfails := hends.eq_error hrun
      rw [T.definable_eq_forM_parts] at hfails
      exact ⟨e, t', rfl, exists_first_of_forM_eq_error hfails⟩

/-- A table with a long name for a column that has a comment, with a primary and a foreign key. -/
def shelves : Table where
  name := "shelves"
  columns := OrderedMap.ofList [("id", { type := some .integer, nullable := false }),
    ("a_column_with_a_name_beyond_the_limit",
      { type := some .string, comment := some "the owner's" })]
  constraints := OrderedMap.ofList [("pk", .primary ["id"]),
    ("fk", .foreign ["id"] ⟨"books", ["id"]⟩ (some .cascade))]

/-- The same table with an index, and with a foreign key that refers to nothing. -/
def brokenShelves : Table :=
  (shelves.addConstraint "fk" { kind := .foreign, columns := ["id"] }).addIndex "ix"
    { columns := ["id"] }

/-- The table is created in two statements; the other one fails for its foreign key, which comes
before the index. -/
theorem createTable_succeeds_iff_shelves :
    (∃ create comment t', (createTable {} shelves).run.run {} = (.ok [create, comment], t') ∧
      Covers {} shelves t' [create, comment]) ∧
    ∃ t', (createTable {} brokenShelves).run.run {}
        = (.error (.invalidQuery "Foreign key fk has no referenced table"), t') ∧
      ∃ before p after, brokenShelves.parts = before ++ p :: after ∧
        (∀ x ∈ before, x.definable = .ok ()) ∧
        p.definable = .error (.invalidQuery "Foreign key fk has no referenced table") := by
  obtain ⟨hiff, -, -, hcovers⟩ := createTable_succeeds_iff {} shelves {}
  obtain ⟨hiff', -, hfails, -⟩ := createTable_succeeds_iff {} brokenShelves {}
  constructor
  · obtain ⟨statements, t', hrun⟩ := hiff.mpr ⟨by decide, by decide, by decide⟩
    have hlength : (((createTable {} shelves).run.run {}).1.map List.length) = .ok 2 := by
      decide +kernel
    rw [hrun] at hlength
    obtain ⟨create, comment, rfl⟩ := List.length_eq_two.mp (Except.ok.inj hlength)
    exact ⟨create, comment, t', hrun, hcovers _ t' hrun⟩
  · obtain ⟨e, t', hrun, hfirst⟩ := hfails fun h => absurd h.indexes (by decide)
    have he : ((createTable {} brokenShelves).run.run {}).1
        = .error (.invalidQuery "Foreign key fk has no referenced table") := by
      decide +kernel
    rw [hrun] at he
    cases he
    exact ⟨t', hrun, hfirst⟩

end Define

end RownumSql
