import RownumSql.Proofs.SpelledNames
import RownumSql.Table.Definition

/-!
# Names in definitions

The statements that define a table are templates like those of queries, with the names of the table
in them.  Queries write a name as the table of aliases has it, quoted or not.  Definitions do so only
if names are quoted, and else write the name itself, so that without quotes a name with an alias
stands in a definition as one thing and in a query as another.

    texts = (k.templates d t).map (Template.spelled (d.defined u) 0)        (renders_statements)
    c.sql = q.tree.template.spelled (d.written u) q.tree.start                (sql_eq_spelled)
    d.defined u name = d.written u name ↔
      d.quotes ∨ the name has no part with an alias               (defined_eq_written_iff)
-/

namespace RownumSql

/-! ## Names with parts -/

namespace Dialect
variable (d : Dialect)

/-- A name as definitions write it under a table that knows it. -/
def defined (u : AliasTable) (name : String) : String :=
  if d.quotes then d.written u name else name

theorem run_quoteParts {u : AliasTable} {ps : List String} {f : String → String}
    (h : ∀ part ∈ ps, (d.quotePart part).run u = (f part, u)) :
    (d.quoteParts ps).run u = (ps.map f, u) := by
  induction ps with
  | nil => rfl
  | cons part rest ih =>
    obtain ⟨hpart, hrest⟩ := List.forall_mem_cons.mp h
    have hrun : (d.quoteParts (part :: rest)).run u =
        (((d.quotePart part).run u).1 ::
            ((d.quoteParts rest).run ((d.quotePart part).run u).2).1,
          ((d.quoteParts rest).run ((d.quotePart part).run u).2).2) := rfl
    rw [hrun, hpart, ih hrest, List.map_cons]

/-- If all parts together add nothing to the table, then none of them does. -/
theorem snd_run_quotePart {u : AliasTable} {ps : List String}
    (h : ((d.quoteParts ps).run u).2 = u) : ∀ part ∈ ps, ((d.quotePart part).run u).2 = u := by
  induction ps with
  | nil => nofun
  | cons part rest ih =>
    have hrun : ((d.quoteParts rest).run ((d.quotePart part).run u).2).2 = u := h
    have hextends := (d.repeats_quoteParts rest ((d.quotePart part).run u).2).1
    rw [hrun] at hextends
    have hpart : ((d.quotePart part).run u).2 = u := by
      rw [(d.repeats_quotePart part u).2 u hextends]
    rw [hpart] at hrun
    exact List.forall_mem_cons.mpr ⟨hpart, ih hrun⟩

/-- Without quotes a part is written as the table has it. -/
theorem run_quotePart (hquotes : d.quotes = false) (u : AliasTable) (part : String) :
    (d.quotePart part).run u = (AliasTable.shorten part).run u := by
  unfold quotePart
  split
  · next hstar =>
    have hlong : u.isLong part = false := by
      rw [hstar]
      rfl
    exact (AliasTable.run_shorten_of_not_long hlong).symm
  · simp [hquotes]

/-- Without quotes, a name whose parts the table knows is written with their aliases. -/
theorem written_eq (hquotes : d.quotes = false) {u : AliasTable} {name : String}
    (hplain : isPlain name) (hknown : ((d.quote name).run u).2 = u) :
    d.written u name = ".".intercalate ((parts name).map u.nameOf) := by
  have hrun : (d.quote name).run u = (".".intercalate ((d.quoteParts (parts name)).run u).1,
      ((d.quoteParts (parts name)).run u).2) := by
    rw [quote, hplain]
    rfl
  rw [hrun] at hknown
  have hparts : ∀ part ∈ parts name, (d.quotePart part).run u = (u.nameOf part, u) := by
    intro part hpart
    have hafter := d.snd_run_quotePart hknown part hpart
    rw [d.run_quotePart hquotes] at hafter ⊢
    exact Prod.ext rfl hafter
  rw [written, hrun, d.run_quoteParts hparts]

theorem intercalate_parts (name : String) : ".".intercalate (parts name) = name := by
  have hid : String.toList ∘ String.ofList = id := by
    funext cs
    exact String.toList_ofList
  rw [parts, ← String.toList_inj, String.toList_intercalate, List.map_map, hid, List.map_id]
  exact List.intercalate_splitOn '.'

theorem splitOn_intercalate_eq_flatMap {texts : List (List Char)} (h : texts ≠ []) :
    (['.'].intercalate texts).splitOn '.' = texts.flatMap (List.splitOn '.') := by
  induction texts with
  | nil => exact absurd rfl h
  | cons text rest ih =>
    cases rest with
    | nil => simp
    | cons next rest =>
      have hsplit := List.splitOnP_append_cons (p := (· == '.')) text
        (['.'].intercalate (next :: rest)) (beq_self_eq_true '.')
      rw [List.intercalate_cons_cons, List.append_assoc, List.singleton_append, List.splitOn,
        hsplit]
      exact congrArg (List.splitOn '.' text ++ ·) (ih (List.cons_ne_nil _ _))

/-- Texts of which no more parts are made than there are texts have no points. -/
theorem flatMap_splitOn_eq_self {texts : List (List Char)}
    (h : (texts.flatMap (List.splitOn '.')).length ≤ texts.length) :
    texts.flatMap (List.splitOn '.') = texts := by
  have hle (more : List (List Char)) : more.length ≤ (more.flatMap (List.splitOn '.')).length := by
    induction more with
    | nil => exact Nat.le_refl 0
    | cons text rest ih =>
      have hpos := List.length_pos_iff.mpr (List.splitOn_ne_nil '.' text)
      rw [List.flatMap_cons, List.length_append, List.length_cons]
      omega
  induction texts with
  | nil => rfl
  | cons text rest ih =>
    have hrest := hle rest
    have hpos := List.length_pos_iff.mpr (List.splitOn_ne_nil '.' text)
    rw [List.flatMap_cons, List.length_append, List.length_cons] at h
    obtain ⟨only, honly⟩ := List.length_eq_one_iff.mp (show (text.splitOn '.').length = 1 by omega)
    have hself : ['.'].intercalate (text.splitOn '.') = text := List.intercalate_splitOn '.'
    rw [honly, List.intercalate_singleton] at hself
    rw [List.flatMap_cons, honly, hself, ih (by omega)]
    rfl

/-- A name is put together from as many parts as it has in one way only. -/
theorem eq_parts_of_intercalate {name : String} {texts : List String}
    (hlength : texts.length = (parts name).length) (h : ".".intercalate texts = name) :
    texts = parts name := by
  have htexts : texts.map String.toList ≠ [] := by
    intro hnil
    have hparts : (parts name).length = 0 := by
      rw [← hlength, List.map_eq_nil_iff.mp hnil, List.length_nil]
    rw [parts, List.length_map, List.length_eq_zero_iff] at hparts
    exact List.splitOn_ne_nil '.' name.toList hparts
  have hsplit : name.toList.splitOn '.' = (texts.map String.toList).flatMap (List.splitOn '.') := by
    rw [← splitOn_intercalate_eq_flatMap htexts, ← h, String.toList_intercalate]
    rfl
  have hself : name.toList.splitOn '.' = texts.map String.toList := by
    rw [hsplit]
    apply flatMap_splitOn_eq_self
    apply Nat.le_of_eq
    rw [← hsplit, List.length_map, hlength, parts, List.length_map]
  have hid : String.ofList ∘ String.toList = id := by
    funext text
    exact String.ofList_toList
  rw [parts, hself, List.map_map, hid, List.map_id]

/-- Definitions and queries write a name alike if names are quoted, if the name is an expression, or
if the table leaves its parts as they are, and not otherwise. -/
theorem defined_eq_written_iff {u : AliasTable} {name : String}
    (hknown : ((d.quote name).run u).2 = u) :
    d.defined u name = d.written u name ↔
      d.quotes ∨ (isPlain name → ∀ part ∈ parts name, u.nameOf part = part) := by
  unfold defined
  cases hquotes : d.quotes with
  | true => simp
  | false =>
    rw [if_neg Bool.false_ne_true]
    cases hplain : isPlain name with
    | false =>
      have hwritten : d.written u name = name := by
        rw [written, quote, hplain]
        rfl
      simp [hwritten]
    | true =>
      rw [d.written_eq hquotes hplain hknown]
      simp only [Bool.false_eq_true, false_or, true_imp_iff]
      constructor
      · intro h part hpart
        have hparts := eq_parts_of_intercalate (List.length_map u.nameOf) h.symm
        exact List.map_inj_left.mp (hparts.trans (List.map_id' _).symm) part hpart
      · intro h
        rw [List.map_congr_left h, List.map_id', intercalate_parts]

end Dialect

/-! ## Templates of definitions -/

namespace Define

/-- Names between commas. -/
def nameList (names : List String) : Template :=
  .joined ", " (names.map fun name => [.identifier name])

/-- What stands behind the name of a column, if the column can be defined. -/
def columnTail? (d : Dialect) (c : Column) : Option String := do
  let type ← c.type
  let typeText ← (nativeType type c.fixed).toOption
  let null := if c.nullable then "" else " NOT NULL"
  let default := match c.default with
    | some v => " DEFAULT " ++ d.spelling.literal v
    | none => ""
  pure (typeText ++ sizeText c type ++ null ++ default)

/-- The definition of a column; nothing if it has none. -/
def columnTemplate (d : Dialect) (t : Table) (name : String) : Template :=
  match (t.columns.get? name).bind (columnTail? d) with
  | some tail => [.identifier name, .sql tail]
  | none => []

/-- The words in front of the columns of a constraint. -/
def headTemplate (name : String) : ConstraintKind → Template
  | .primary => [.sql "PRIMARY KEY"]
  | .unique => [.sql "CONSTRAINT ", .identifier name, .sql " UNIQUE"]
  | .foreign => [.sql "CONSTRAINT ", .identifier name]

/-- The definition of a foreign key. -/
def foreignTemplate (name : String) (c : Constraint) (r : Reference) : Template :=
  headTemplate name .foreign ++ .sql " FOREIGN KEY (" :: nameList c.columns
    ++ .sql ") REFERENCES " :: .identifier r.table :: .sql " (" :: nameList r.columns
    ++ [.sql (")" ++ deleteRule c.delete)]

/-- The definition of a constraint; nothing if it has none. -/
def constraintTemplate (t : Table) (name : String) : Template :=
  match t.constraints.get? name with
  | none => []
  | some c =>
    if c.kind ≠ .foreign then
      headTemplate name c.kind ++ .sql " (" :: nameList c.columns ++ [.sql ")"]
    else
      match c.references with
      | some r => foreignTemplate name c r
      | none => []

/-- The kinds of definition of a table. -/
inductive Kind where
  | createTable
  | truncateTable
  | addForeignKeys
  | dropForeignKeys

namespace Kind

def statements (d : Dialect) (t : Table) : Kind → Define (List String)
  | createTable => Define.createTable d t
  | truncateTable => Define.truncateTable d t
  | addForeignKeys => Define.addForeignKeys d t
  | dropForeignKeys => Define.dropForeignKeys d t

/-- The templates of the statements of a definition. -/
def templates (d : Dialect) (t : Table) : Kind → List Template
  | createTable =>
    (.sql "CREATE TABLE " :: .identifier t.name :: .sql " (\n" ::
      Template.joined ",\n"
        (t.columns.keys.map (columnTemplate d t) ++ t.constraints.keys.map (constraintTemplate t))
      ++ [.sql "\n)"]) ::
    (commented t).map fun e =>
      [.sql "COMMENT ON COLUMN ", .identifier t.name, .sql ".", .identifier e.1,
        .sql (" IS " ++ d.spelling.literal (.text e.2))]
  | truncateTable => [[.sql "TRUNCATE TABLE ", .identifier t.name]]
  | addForeignKeys =>
    t.foreignKeys.map fun e =>
      .sql "ALTER TABLE " :: .identifier t.name :: .sql " ADD " :: constraintTemplate t e.1
        ++ [.sql ";"]
  | dropForeignKeys =>
    t.foreignKeys.map fun e =>
      [.sql "ALTER TABLE ", .identifier t.name, .sql " DROP CONSTRAINT ", .identifier e.1,
        .sql ";"]

end Kind

/-! ## What definitions come to -/

theorem run_bind {α β : Type} (step : Define α) (next : α → Define β) (t : AliasTable) :
    (step >>= next).run.run t = match step.run.run t with
      | (.ok a, t₁) => (next a).run.run t₁
      | (.error e, t₁) => (.error e, t₁) := by
  show ((step.run >>= ExceptT.bindCont next : StateM AliasTable _)).run t = _
  rw [StateT.run_bind]
  generalize step.run.run t = r
  obtain ⟨a | e, t₁⟩ := r <;> rfl

theorem run_bind_eq_ok {α β : Type} {step : Define α} {next : α → Define β} {t t' : AliasTable}
    {b : β} (h : (step >>= next).run.run t = (.ok b, t')) :
    ∃ a t₁, step.run.run t = (.ok a, t₁) ∧ (next a).run.run t₁ = (.ok b, t') := by
  rw [run_bind] at h
  cases hstep : step.run.run t with
  | mk r t₁ =>
    rw [hstep] at h
    cases r with
    | error e => cases h
    | ok a => exact ⟨a, t₁, rfl, h⟩

/-- If the step succeeds, then it only adds to the table, and it gives what `f` gives of every table
that extends the one it leaves behind. -/
structure Renders {α : Type} (step : Define α) (f : AliasTable → α) : Prop where
  run : ∀ t a t', step.run.run t = (.ok a, t') → t.Extends t' ∧ ∀ u, t'.Extends u → a = f u

namespace Renders
variable {α β : Type} {step : Define α} {f : AliasTable → α}

theorem pure (a : α) : Renders (pure a) fun _ => a := by
  constructor
  intro t a' t' h
  cases h
  exact ⟨.refl t, fun _ _ => rfl⟩

theorem throw (e : SqlError) : Renders (throw e) f := by
  constructor
  intro t a t' h
  cases h

theorem bind {next : α → Define β} {g : α → AliasTable → β} (h : Renders step f)
    (hnext : ∀ a, Renders (next a) (g a)) : Renders (step >>= next) fun u => g (f u) u := by
  constructor
  intro t b t' hrun
  obtain ⟨a, t₁, ha, hrun⟩ := run_bind_eq_ok hrun
  obtain ⟨hextends, hf⟩ := h.run t a t₁ ha
  obtain ⟨hextends', hg⟩ := (hnext a).run t₁ b t' hrun
  refine ⟨hextends.trans hextends', ?_⟩
  intro u hu
  show b = g (f u) u
  rw [← hf u (hextends'.trans hu)]
  exact hg u hu

theorem congr {g : AliasTable → α} (h : Renders step f) (hfg : ∀ u, f u = g u) :
    Renders step g := by
  rw [← funext hfg]
  exact h

theorem mapM {γ : Type} {step : γ → Define α} {f : γ → AliasTable → α}
    (h : ∀ x, Renders (step x) (f x)) (xs : List γ) :
    Renders (xs.mapM step) fun u => xs.map fun x => f x u := by
  induction xs with
  | nil => exact .pure []
  | cons x xs ih =>
    rw [List.mapM_cons]
    exact (h x).bind fun a => ih.bind fun rest => .pure (a :: rest)

end Renders

theorem renders_quote (d : Dialect) (name : String) :
    Renders (quote d name) fun u => d.defined u name := by
  unfold quote Dialect.defined
  cases d.quotes with
  | false => exact .pure name
  | true =>
    constructor
    intro t a t' h
    obtain ⟨hextends, hrepeats⟩ := d.repeats_quote name t
    change (Except.ok ((d.quote name).run t).1, ((d.quote name).run t).2) = _ at h
    obtain ⟨ha, rfl⟩ := Prod.mk.inj h
    refine ⟨hextends, ?_⟩
    intro u hu
    show a = d.written u name
    rw [Dialect.written, hrepeats u hu, Except.ok.inj ha]

section templates
variable (d : Dialect) (t : Table)

theorem scalars_nameList (names : List String) : (nameList names).scalars = 0 := by
  rw [nameList, ← Template.scalars_marks, Template.marks_names]
  rfl

theorem spelled_nameList (name : String → String) (n : Nat) (names : List String) :
    (nameList names).spelled name n = ", ".intercalate (names.map name) := by
  rw [nameList, Template.spelled_joined _ _ _ (by simp [Template.scalars, Piece.scalars]),
    List.map_map]
  congr 2
  funext x
  exact String.append_empty

theorem renders_quoteAll (names : List String) :
    Renders (quoteAll d names) fun u => (nameList names).spelled (d.defined u) 0 := by
  have h := (Renders.mapM (renders_quote d) names).bind fun texts => .pure (", ".intercalate texts)
  exact h.congr fun u => (spelled_nameList (d.defined u) 0 names).symm

/-! ## Columns and constraints -/

theorem scalars_columnTemplate (name : String) : (columnTemplate d t name).scalars = 0 := by
  unfold columnTemplate
  split <;> rfl

theorem renders_column (name : String) :
    Renders (column d t name) fun u => (columnTemplate d t name).spelled (d.defined u) 0 := by
  unfold column columnTemplate
  cases t.columns.get? name with
  | none => exact .throw _
  | some c =>
    simp only [Option.bind_some, columnTail?]
    cases c.type with
    | none => exact (renders_quote d name).bind (g := fun _ _ => "") fun _ => .throw _
    | some type =>
      simp only [Option.bind_eq_bind, Option.bind_some]
      cases nativeType type c.fixed with
      | error e => exact (renders_quote d name).bind (g := fun _ _ => "") fun _ => .throw _
      | ok typeText =>
        have h := (renders_quote d name).bind fun quotedName => .pure (quotedName ++ typeText ++
          sizeText c type ++ (if c.nullable then "" else " NOT NULL") ++ match c.default with
            | some v => " DEFAULT " ++ d.spelling.literal v
            | none => "")
        refine h.congr fun u => ?_
        simp [Except.toOption, Template.spelled, Piece.spelled, String.append_assoc]

theorem scalars_headTemplate (name : String) (kind : ConstraintKind) :
    (headTemplate name kind).scalars = 0 := by
  cases kind <;> rfl

theorem scalars_constraintTemplate (name : String) : (constraintTemplate t name).scalars = 0 := by
  unfold constraintTemplate
  split
  · rfl
  · split
    · simp [Template.scalars, Piece.scalars, scalars_headTemplate, scalars_nameList]
    · split
      · simp [foreignTemplate, Template.scalars, Piece.scalars, scalars_headTemplate,
          scalars_nameList]
      · rfl

theorem renders_constraintHead (name : String) (kind : ConstraintKind) :
    Renders (constraintHead d name kind) fun u =>
      (headTemplate name kind).spelled (d.defined u) 0 := by
  cases kind with
  | primary => exact .pure _
  | unique =>
    have h := (renders_quote d name).bind fun quotedName =>
      .pure ("CONSTRAINT " ++ quotedName ++ " UNIQUE")
    refine h.congr fun u => ?_
    simp [headTemplate, Template.spelled, Piece.spelled, String.append_assoc]
  | foreign =>
    have h := (renders_quote d name).bind fun quotedName => .pure ("CONSTRAINT " ++ quotedName)
    refine h.congr fun u => ?_
    simp [headTemplate, Template.spelled, Piece.spelled]

/-- A foreign key that refers to nothing has no definition. -/
theorem renders_constraint (name : String) :
    Renders (constraint d t name) fun u =>
      (constraintTemplate t name).spelled (d.defined u) 0 := by
  unfold constraint constraintTemplate
  cases t.constraints.get? name with
  | none => exact .throw _
  | some c =>
    have hcolumns := renders_quoteAll d c.columns
    by_cases hkind : c.kind ≠ .foreign
    · simp only [if_pos hkind]
      have h := (renders_constraintHead d name c.kind).bind fun head => hcolumns.bind fun columns =>
        .pure (head ++ " (" ++ columns ++ ")")
      refine h.congr fun u => ?_
      simp [Template.spelled_append, Template.spelled, Piece.spelled, Piece.scalars,
        scalars_headTemplate, String.append_assoc]
    · simp only [if_neg hkind]
      have hhead := renders_constraintHead d name c.kind
      cases c.references with
      | none =>
        exact hhead.bind (g := fun _ _ => "") fun _ => hcolumns.bind (g := fun _ _ => "") fun _ =>
          .throw _
      | some r =>
        have h := hhead.bind fun head => hcolumns.bind fun columns =>
          (renders_quote d r.table).bind fun table => (renders_quoteAll d r.columns).bind
            fun referenced => .pure (head ++ " FOREIGN KEY (" ++ columns ++ ") REFERENCES "
              ++ table ++ " (" ++ referenced ++ ")" ++ deleteRule c.delete)
        refine h.congr fun u => ?_
        rw [not_not.mp hkind]
        simp [foreignTemplate, Template.spelled_append, Template.spelled, Piece.spelled,
          Piece.scalars, scalars_headTemplate, scalars_nameList, String.append_assoc]

/-! ## Statements -/

/-- No index can be defined, so a table that can be created has none. -/
theorem renders_indexes : Renders (t.indexes.keys.mapM (index d t)) fun _ => [] := by
  cases t.indexes.keys with
  | nil => exact .pure []
  | cons name names =>
    rw [List.mapM_cons]
    exact Renders.throw (.unsupported "indexSql")

theorem renders_comment (table name text : String) :
    Renders (comment d table name text) fun u =>
      "COMMENT ON COLUMN " ++ table ++ "." ++ d.defined u name ++ " IS "
        ++ d.spelling.literal (.text text) :=
  (renders_quote d name).bind fun quotedName => .pure ("COMMENT ON COLUMN " ++ table ++ "."
    ++ quotedName ++ " IS " ++ d.spelling.literal (.text text))

theorem renders_createTable :
    Renders (createTable d t) fun u =>
      (Kind.createTable.templates d t).map (Template.spelled (d.defined u) 0) := by
  have h := (Renders.mapM (renders_column d t) t.columns.keys).bind fun columns =>
    (Renders.mapM (renders_constraint d t) t.constraints.keys).bind fun constraints =>
    (renders_indexes d t).bind fun indexes => (renders_quote d t.name).bind fun table =>
    (Renders.mapM (fun (e : String × String) => renders_comment d table e.1 e.2) (commented t)).bind fun comments =>
    .pure (("CREATE TABLE " ++ table ++ " (\n" ++ ",\n".intercalate (columns ++ constraints)
      ++ "\n)") :: indexes ++ comments)
  refine h.congr fun u => ?_
  have hscalars : ∀ s ∈ t.columns.keys.map (columnTemplate d t)
      ++ t.constraints.keys.map (constraintTemplate t), s.scalars = 0 := by
    simp [or_imp, forall_and, scalars_columnTemplate, scalars_constraintTemplate]
  simp [Kind.templates, Template.spelled, Piece.spelled, Piece.scalars, Template.spelled_append,
    Template.spelled_joined _ _ _ hscalars, Function.comp_def, String.append_assoc]

theorem renders_truncateTable :
    Renders (truncateTable d t) fun u =>
      (Kind.truncateTable.templates d t).map (Template.spelled (d.defined u) 0) := by
  have h := (renders_quote d t.name).bind fun table => .pure ["TRUNCATE TABLE " ++ table]
  refine h.congr fun u => ?_
  simp [Kind.templates, Template.spelled, Piece.spelled]

theorem renders_addForeignKeys :
    Renders (addForeignKeys d t) fun u =>
      (Kind.addForeignKeys.templates d t).map (Template.spelled (d.defined u) 0) := by
  have h := (renders_quote d t.name).bind fun table =>
    Renders.mapM (fun e => (renders_constraint d t e.1).bind fun definition =>
      .pure ("ALTER TABLE " ++ table ++ " ADD " ++ definition ++ ";")) t.foreignKeys
  refine h.congr fun u => ?_
  simp [Kind.templates, Template.spelled, Piece.spelled, Piece.scalars, Template.spelled_append,
    String.append_assoc]

theorem renders_dropForeignKeys :
    Renders (dropForeignKeys d t) fun u =>
      (Kind.dropForeignKeys.templates d t).map (Template.spelled (d.defined u) 0) := by
  have h := (renders_quote d t.name).bind fun table =>
    Renders.mapM (fun (e : String × Constraint) => (renders_quote d e.1).bind fun name =>
      .pure ("ALTER TABLE " ++ table ++ " DROP CONSTRAINT " ++ name ++ ";")) t.foreignKeys
  refine h.congr fun u => ?_
  simp [Kind.templates, Template.spelled, Piece.spelled, String.append_assoc]

/-- The statements of a definition are the texts of their templates, with every name as it is
defined under every later table. -/
theorem renders_statements (k : Kind) :
    Renders (k.statements d t) fun u =>
      (k.templates d t).map (Template.spelled (d.defined u) 0) := by
  cases k with
  | createTable => exact renders_createTable d t
  | truncateTable => exact renders_truncateTable d t
  | addForeignKeys => exact renders_addForeignKeys d t
  | dropForeignKeys => exact renders_dropForeignKeys d t

end templates

end Define

/-! ## Definitions and queries -/

/-- **Definitions and queries agree on the names that have no alias.**  Whatever was defined and
compiled before and later in a session, the statements of a definition and those of queries are the
texts of their templates.  A name of the query is written in both as the same text if and only if
names are quoted, the name is an expression, or none of its parts has an alias. -/
theorem definition_names_agree_iff {d : Dialect} {k : Define.Kind} {T : Table} {texts : List String}
    {q : Query} {c : CompiledQuery} {t t' t'' u : AliasTable}
    (hdefine : (k.statements d T).run.run t = (.ok texts, t'))
    (hcompile : (d.compile t'' q).result = .ok c)
    (hlater : t'.Extends u) (hlater' : (d.compile t'' q).aliases.Extends u) :
    texts = (k.templates d T).map (Template.spelled (d.defined u) 0) ∧
    c.sql = q.tree.template.spelled (d.written u) q.tree.start ∧
    ∀ name, .identifier name ∈ q.tree.template →
      (d.defined u name = d.written u name ↔
        d.quotes ∨
          (Dialect.isPlain name → ∀ part ∈ Dialect.parts name, u.nameOf part = part)) := by
  refine ⟨((Define.renders_statements d T k).run t texts t' hdefine).2 u hlater,
    sql_eq_spelled hcompile hlater', ?_⟩
  intro name hname
  have hknown := ((settled_compile hcompile).extend hlater') (.identifier name) hname
  exact d.defined_eq_written_iff hknown

/-- A table whose name is too long. -/
def longNamed : Table where
  name := "a_table_with_a_name_beyond_the_limit"
  columns := OrderedMap.ofList [("id", { type := some .integer })]

/-- A selection from that table. -/
def longNamedRows : Query :=
  { select := [⟨.column "id", none⟩], tables := [⟨longNamed.name, none⟩] }

/-- With quotes, the table that is created is the one that is read. -/
theorem definition_names_agree_iff_longNamed :
    let defined := (Define.Kind.createTable.statements {} longNamed).run.run {}
    let compiled := ({} : Dialect).compile defined.2 longNamedRows
    ∃ c, defined.1 = .ok ["CREATE TABLE \"XXAUTO_SHORTENED_ID1\" (\n\"id\" NUMBER\n)"] ∧
      compiled.result = .ok c ∧ c.sql = "SELECT \"id\" FROM \"XXAUTO_SHORTENED_ID1\"" ∧
      ({} : Dialect).defined compiled.aliases longNamed.name
        = ({} : Dialect).written compiled.aliases longNamed.name := by
  intro defined compiled
  let aliases : AliasTable := ({} : AliasTable).add longNamed.name
  let c : CompiledQuery :=
    { sql := "SELECT \"id\" FROM \"XXAUTO_SHORTENED_ID1\"", bindings := [], kind := .select
      rowNumberColumn := false, buffered := true }
  have hdefine : (Define.Kind.createTable.statements {} longNamed).run.run {}
      = (.ok ["CREATE TABLE \"XXAUTO_SHORTENED_ID1\" (\n\"id\" NUMBER\n)"], aliases) :=
    Prod.ext (by decide +kernel) (by decide +kernel)
  have hcompile : (({} : Dialect).compile aliases longNamedRows).result = .ok c := by
    decide +kernel
  have haliases : (({} : Dialect).compile aliases longNamedRows).aliases = aliases := by
    decide +kernel
  have hname : .identifier longNamed.name ∈ longNamedRows.tree.template := by decide +kernel
  have hlater : (({} : Dialect).compile aliases longNamedRows).aliases.Extends aliases := by
    rw [haliases]
    exact .refl aliases
  obtain ⟨-, -, hagree⟩ := definition_names_agree_iff hdefine hcompile (.refl aliases) hlater
  have hdefined : defined = (_, aliases) := hdefine
  have hcompiled : compiled = ({} : Dialect).compile aliases longNamedRows := by
    show ({} : Dialect).compile defined.2 longNamedRows = _
    rw [hdefined]
  rw [hcompiled, haliases, hdefined]
  exact ⟨c, rfl, hcompile, rfl, (hagree _ hname).mpr (.inl rfl)⟩

/-- Without quotes, the selection asks for a table that was not created. -/
theorem names_disagree :
    let d : Dialect := { quotes := false }
    let defined := (Define.Kind.createTable.statements d longNamed).run.run {}
    let compiled := d.compile defined.2 longNamedRows
    defined.1 = .ok ["CREATE TABLE a_table_with_a_name_beyond_the_limit (\nid NUMBER\n)"] ∧
    compiled.result.map CompiledQuery.sql = .ok "SELECT id FROM XXAUTO_SHORTENED_ID1" ∧
    d.defined compiled.aliases longNamed.name ≠ d.written compiled.aliases longNamed.name := by
  decide +kernel

end RownumSql
