import RownumSql.Proofs.RowDrafts
import RownumSql.Proofs.StatementTree

/-!
# Rows that are inserted together

Several rows are inserted by a union of selections, in which the scalars that are cells themselves
are numbered before all others; a single row is inserted by its values, numbered from left to right.
Both spell the same items: with the values put back in place of the placeholders, a row of many is
that row inserted alone.

    d.Inserts t i c items         what a compiled insertion looks like, as rows of items
    compile_rows_together         any number of rows, and each of them alone
-/

namespace RownumSql

open Bindings (placed)
open Token (textOf)

/-- A query that inserts rows into some columns of a table; no row has more cells than there are
columns. -/
structure Query.InsertsRows (q : Query) (i : Insertion Query) : Prop where
  kind : q.kind = .insert
  insertion : q.insertion = some i
  noSource : i.source = none
  table : i.table ≠ ""
  columns : i.columns ≠ []
  rows : i.rows ≠ []
  fits : ∀ row ∈ i.rows, row.length ≤ i.columns.length

namespace Insertion

/-! ## The first pass -/

/-- Behind the head of the insertion stands the template, with some bindings from a first pass. -/
structure Fills (d : Dialect) (i : Insertion Query) (z : Template) (b : Bindings) : Prop where
  template : Emit.insertedTemplate i = z
  start : (i.selection.run {}).2.next = b.next
  run : ∀ t, (Emit.inserted d i).run { aliases := t } = StateT.run (do
    let text ← Emit.fill d z
    pure (.ok text) : Emit (Except SqlError String)) { aliases := t, bindings := b }

theorem fills_of_one (d : Dialect) {i : Insertion Query} {row : List Expr}
    (hsource : i.source = none) (hrows : i.rows = [row])
    (hfits : row.length ≤ i.columns.length) :
    Fills d i (StatementTree.rowValues i.columns [row]) {} := by
  have hselection : i.selection.run {} = (.ok none, {}) := by
    rw [run_selection, rowUnion_eq_none (.inl (hrows ▸ Nat.le_refl 1)), hsource]
    rfl
  constructor
  · rw [Emit.insertedTemplate, hselection, hrows]
  · rw [hselection]
  · intro t
    rw [Emit.run_inserted, hselection, hrows]
    dsimp only
    rw [Emit.rowValues_eq_fill d _ _ hfits]

theorem fills_of_many (d : Dialect) (t : AliasTable) {i : Insertion Query}
    (hsource : i.source = none) (hcolumns : i.columns ≠ []) (hrows : 2 ≤ i.rows.length)
    (hfits : ∀ row ∈ i.rows, row.length ≤ i.columns.length) :
    ∃ lists, RowsWrite d t i.columns 0 lists i.rows ∧
      Fills d i (.joined " UNION ALL " (lists.map rowTemplate)) (Bindings.placeAll {}
        (Draft.scalars true (i.rows.map (rowDraft d t i.columns)).flatten.flatten)) := by
  obtain ⟨lists, hrun, hwrites⟩ := run_rowSelections d t i.columns 0 i.rows {} hfits
  refine ⟨lists, hwrites, ?_⟩
  have hlength := length_lists hwrites
  have hlists := items_ne_nil hwrites hcolumns
  clear hwrites
  generalize Bindings.placeAll _ _ = b at hrun ⊢
  cases lists with
  | nil =>
    rw [← hlength] at hrows
    cases hrows
  | cons first others =>
    have hselection : i.selection.run {} = (.ok (some { fromDual first with
        branches := others.map fun items => ⟨true, fromDual items⟩ }), b) := by
      rw [run_selection, run_rowUnion hrows hsource, hrun, Except.map, unionOf_fromDual]
      rfl
    have hselect := select_union hlists
    have herror := congrArg Outline.error hselect
    constructor
    · rw [Emit.insertedTemplate, hselection]
      dsimp only
      rw [SelectTree.template_ofQuery .outer 0 _ herror, hselect]
    · rw [hselection]
    · intro t
      rw [Emit.run_inserted, hselection]
      dsimp only
      rw [Emit.run_sqlOf, hselect]
      rfl

/-! ## Compiled rows -/

section compile
variable {d : Dialect} {q : Query} {i : Insertion Query} {z : Template} {b : Bindings}

/-- The columns, then the table, then what stands behind the head are written one after another. -/
theorem run_statement (h : q.InsertsRows i) (hz : Fills d i z b) (t : AliasTable) : ∃ sql p,
    (Emit.statement d q).run { aliases := t } = (.ok sql, p) ∧
    p.bindings.entries = z.entries b.next b.entries ∧
    Template.Settled d p.aliases (StatementTree.insertHead i.table i.columns ++ z) := by
  let names := Template.joined ", " (i.columns.map fun name => [.identifier name])
  have hnames := Template.marks_names ", " i.columns
  let known := Template.aliases d (names.aliases d t) [.identifier i.table]
  have hstart : Template.after d (names.after d { aliases := t }) [.identifier i.table]
      = { aliases := known } := by
    rw [Template.after_of_marks_nil d _ _ rfl, Template.after_of_marks_nil d _ _ hnames]
  have hrun : ∃ sql, (Emit.statement d q).run { aliases := t }
      = (.ok sql, z.after d { aliases := known, bindings := b }) := by
    refine ⟨"INSERT INTO " ++ Template.text d (names.aliases d t) 0 [.identifier i.table] ++ " ("
      ++ names.text d t 0 ++ (") " ++ z.text d known b.next), ?_⟩
    rw [Emit.statement_insert h.kind, h.insertion, Emit.insertion_eq_fills d i h.table]
    simp only [Emit.run_bind, Emit.run_pure, Template.run_fill]
    rw [hstart, hz.run]
    simp only [Emit.run_bind, Emit.run_pure, Template.run_fill]
    rfl
  obtain ⟨sql, hrun⟩ := hrun
  refine ⟨sql, _, hrun, rfl, ?_⟩
  have hall : (z.after d { aliases := known, bindings := b }).aliases
      = Template.aliases d t (names ++ [.identifier i.table] ++ z) := by
    rw [Template.aliases_append, Template.aliases_append]
    rfl
  have hsettled := Template.settled_aliases d t (names ++ [.identifier i.table] ++ z)
  rw [← hall] at hsettled
  generalize (z.after d _).aliases = final at hsettled ⊢
  obtain ⟨hhead, hz⟩ := Template.settled_append.mp hsettled
  obtain ⟨hnames, htable⟩ := Template.settled_append.mp hhead
  have hsql (text : String) : Piece.aliases d final (.sql text) = final := rfl
  have htable := List.forall_mem_singleton.mp htable
  rw [StatementTree.insertHead]
  refine Template.settled_append.mpr ⟨Template.settled_append.mpr ⟨?_, ?_⟩, hz⟩
  · exact List.forall_mem_cons.mpr ⟨hsql _, List.forall_mem_cons.mpr ⟨htable,
      List.forall_mem_cons.mpr ⟨hsql _, hnames⟩⟩⟩
  · exact List.forall_mem_singleton.mpr (hsql _)

theorem texts_names {t : AliasTable} {names : List String} (n : Nat)
    (h : ∀ s ∈ names.map fun name => [Piece.identifier name], Template.Settled d t s) :
    Template.texts d t n (names.map fun name => [Piece.identifier name])
      = names.map (d.written t) := by
  induction names generalizing n with
  | nil => rfl
  | cons name names ih =>
    obtain ⟨hname, hnames⟩ := List.forall_mem_cons.mp h
    have htext : Template.text d t n [.identifier name] = d.written t name := by
      show d.written t name ++ "" = _
      rw [String.append_empty]
    rw [List.map_cons, Template.texts, htext, hname.aliases, ih _ hnames, List.map_cons]

/-- The text of the head under a table that knows its names. -/
theorem text_insertHead {t : AliasTable} {table : String} {columns : List String} (n : Nat)
    (h : Template.Settled d t (StatementTree.insertHead table columns)) :
    (StatementTree.insertHead table columns).text d t n
      = Emit.insertHead (d.written t table) (columns.map (d.written t)) ++ " " := by
  have hclose : ") " = ")" ++ " " := rfl
  obtain ⟨hhead, -⟩ := Template.settled_append.mp h
  obtain ⟨-, hhead⟩ := List.forall_mem_cons.mp hhead
  obtain ⟨htable, hhead⟩ := List.forall_mem_cons.mp hhead
  obtain ⟨-, hjoined⟩ := List.forall_mem_cons.mp hhead
  have hnames := texts_names n (Template.Settled.of_joined hjoined)
  rw [StatementTree.insertHead, Template.text_append]
  show "INSERT INTO " ++ (d.written t table ++ (" (" ++ Template.text d
    ((Piece.identifier table).aliases d t) n (Template.joined ", " _))) ++ (") " ++ "") = _
  rw [htable, Template.text_joined, hnames, Emit.insertHead, hclose, String.append_empty]
  simp only [String.append_assoc]

theorem compile_of_fills (h : q.InsertsRows i) (hz : Fills d i z b) (t : AliasTable) : ∃ c,
    (d.compile t q).result = .ok c ∧ c.bindings = z.entries b.next b.entries ∧
    Template.Settled d (d.compile t q).aliases z ∧
    c.sql = Emit.insertHead (d.written (d.compile t q).aliases i.table)
        (i.columns.map (d.written (d.compile t q).aliases))
      ++ " " ++ z.text d (d.compile t q).aliases b.next := by
  obtain ⟨sql, p, hrun, hentries, hsettled⟩ := run_statement h hz t
  have haliases : (d.compile t q).aliases = p.aliases := by
    rw [Dialect.aliases_compile, hrun]
  have hresult := d.result_compile t q
  rw [hrun] at hresult
  dsimp only [Except.map] at hresult
  refine ⟨_, hresult, hentries, ?_, ?_⟩
  · rw [haliases]
    exact (Template.settled_append.mp hsettled).2
  · have htree : q.tree = .ofInsertion i := by
      unfold Query.tree
      rw [h.kind, h.insertion]
    have hstart : (StatementTree.ofInsertion i).start = b.next := hz.start
    have hsql := sql_compile d t q _ hresult
    rw [htree, hstart, Emit.template_ofInsertion, hz.template, haliases] at hsql
    rw [haliases]
    obtain ⟨hhead, -⟩ := Template.settled_append.mp hsettled
    have hmarks : (StatementTree.insertHead i.table i.columns).marks
        = Template.placeholders [] := by
      rw [StatementTree.insertHead, Template.marks_append, Template.marks_sql_cons,
        Template.marks_identifier_cons, Template.marks_sql_cons, Template.marks_names]
      rfl
    rw [hsql, Template.text_append, text_insertHead _ hhead, hhead.aliases,
      Template.scalars_of_marks hmarks]
    rfl

end compile

/-! ## Rows of items -/

/-- What stands behind the head of an insertion whose rows have these items. -/
def rowsText (d : Dialect) (t : AliasTable) (columns : List String) :
    List (List (List Token)) → String
  | [row] => "VALUES (" ++ ", ".intercalate (row.map textOf) ++ ")"
  | rows => " UNION ALL ".intercalate (rows.map (rowText d t columns))

theorem rowsText_of_many {d : Dialect} {t : AliasTable} {columns : List String}
    {rows : List (List (List Token))} (h : 2 ≤ rows.length) :
    rowsText d t columns rows = " UNION ALL ".intercalate (rows.map (rowText d t columns)) := by
  match rows with
  | [] => cases h
  | [row] => exact absurd h (by rw [List.length_singleton]; omega)
  | first :: second :: others => rfl

end Insertion

open Insertion in
/-- The statement inserts rows of items, with the names of the given table: each row has an item
for each column; the placeholders are numbered without gaps, and each stands in exactly one item;
with the values in their places the items are the expressions of the rows, and null where a row is
short. -/
structure Dialect.Inserts (d : Dialect) (t : AliasTable) (i : Insertion Query) (c : CompiledQuery)
    (items : List (List (List Token))) : Prop where
  sql : c.sql = Emit.insertHead (d.written t i.table) (i.columns.map (d.written t))
    ++ " " ++ rowsText d t i.columns items
  rows : items.length = i.rows.length
  columns : ∀ row ∈ items, row.length = i.columns.length
  keys : c.bindings.map Binding.key
    = (List.range c.bindings.length).map fun n => .named (Bindings.placeholderName n)
  once : (items.flatten.flatten.filterMap Token.number?).Perm (List.range c.bindings.length)
  parts : items.map (·.map (·.map (Token.resolve c.bindings)))
    = i.rows.map fun row => (cells i.columns row).map fun cell => (cellTemplate cell).parts d t

section inserts
variable {d : Dialect} {t : AliasTable} {i : Insertion Query} {c : CompiledQuery}

open Insertion in
/-- The items of one of the rows. -/
theorem Dialect.Inserts.parts_of_mem_zip {items : List (List (List Token))}
    (h : d.Inserts t i c items) {p : List Expr × List (List Token)} (hp : p ∈ i.rows.zip items) :
    p.2.map (·.map (Token.resolve c.bindings))
      = (cells i.columns p.1).map fun cell => (cellTemplate cell).parts d t := by
  obtain ⟨r, hr, rfl⟩ := List.mem_iff_getElem.mp hp
  have hlength := hr
  rw [List.length_zip, Nat.lt_min] at hlength
  have hparts := congrArg (·[r]?) h.parts
  simp only [List.getElem?_map, List.getElem?_eq_getElem hlength.1,
    List.getElem?_eq_getElem hlength.2, Option.map_some, Option.some.injEq] at hparts
  rw [List.getElem_zip]
  exact hparts

namespace Insertion

theorem length_cells (columns : List String) (row : List Expr) :
    (cells columns row).length = columns.length := by
  rw [cells, List.length_map, List.length_range]

/-- Drafts of the rows, numbered in two passes, are items that are inserted. -/
theorem inserts_number {xs : List (List (List Draft))} {early late : List Value}
    (hearly : Draft.scalars true xs.flatten.flatten = early)
    (hlate : Draft.scalars false xs.flatten.flatten = late)
    (hparts : xs.map (·.map (·.map Draft.part))
      = i.rows.map fun row => (cells i.columns row).map fun cell => (cellTemplate cell).parts d t)
    (hbindings : c.bindings = placed 0 (early ++ late))
    (hsql : c.sql = Emit.insertHead (d.written t i.table) (i.columns.map (d.written t))
      ++ " " ++ rowsText d t i.columns (Draft.numberRows 0 early.length xs)) :
    d.Inserts t i c (Draft.numberRows 0 early.length xs) := by
  have hresolved : (Draft.numberRows 0 early.length xs).map
      (·.map (·.map (Token.resolve c.bindings))) = xs.map (·.map (·.map Draft.part)) := by
    rw [hbindings]
    apply Draft.resolve_numberRows
    · rw [hearly]
      exact List.prefix_append early late
    · refine ⟨[], ?_⟩
      rw [hlate, List.drop_left, List.append_nil]
  have hitems := hresolved.trans hparts
  refine ⟨hsql, ?_, ?_, ?_, ?_, hitems⟩
  · have hlength := congrArg List.length hitems
    rw [List.length_map, List.length_map] at hlength
    exact hlength
  · intro row hrow
    have hmem := List.mem_map_of_mem (f := (·.map (·.map (Token.resolve c.bindings)))) hrow
    rw [hitems] at hmem
    obtain ⟨cs, -, hcs⟩ := List.mem_map.mp hmem
    have hlength := congrArg List.length hcs
    rw [List.length_map, List.length_map, length_cells] at hlength
    exact hlength.symm
  · rw [hbindings, Bindings.keys_placed, Bindings.length_placed, List.range_eq_range']
  · have hperm := Draft.placeholders_number 0 early.length xs.flatten.flatten
    have hrange : List.range' 0 early.length ++ List.range' early.length late.length
        = List.range c.bindings.length := by
      rw [hbindings, Bindings.length_placed, List.length_append, List.range_eq_range',
        ← List.range'_append_1, Nat.zero_add]
    rw [← Draft.flatten_numberRows, hearly, hlate, hrange] at hperm
    exact hperm

theorem cells_eq {columns : List String} {row : List Expr} (h : row.length ≤ columns.length) :
    cells columns row
      = row.map some ++ List.replicate (columns.length - row.length) none := by
  induction columns generalizing row with
  | nil =>
    rw [List.eq_nil_of_length_eq_zero (Nat.le_zero.mp h)]
    rfl
  | cons column columns ih =>
    rw [cells_cons]
    cases row with
    | nil =>
      rw [List.tail_nil, ih (Nat.zero_le _)]
      rfl
    | cons e row =>
      rw [List.tail_cons, ih (Nat.le_of_succ_le_succ h), List.length_cons, List.length_cons,
        Nat.add_sub_add_right]
      rfl

theorem writeAll_cells (cs : List (Option Expr)) (e : Nat) : Template.WriteAll d t e
    (cs.map cellTemplate) (cs.map fun c => ((cellTemplate c).parts d t).map Part.draft) := by
  induction cs with
  | nil => exact .nil e
  | cons c cs ih =>
    obtain ⟨vs, hmarks⟩ := marks_cellTemplate c
    refine .cons (Template.writes_parts hmarks) ?_
    rw [scalars_true_draft]
    exact ih

theorem rowValues_eq {columns : List String} {row : List Expr}
    (h : row.length ≤ columns.length) : StatementTree.rowValues columns [row] =
      .sql "VALUES (" ::
        (Template.joined ", " ((cells columns row).map cellTemplate) ++ [.sql ")"]) := by
  rw [cells_eq h, List.map_append, List.map_map, List.map_replicate]
  rfl

/-- The rows are compiled to items, and their names are known afterwards. -/
def CompilesRows (d : Dialect) (t : AliasTable) (q : Query) (i : Insertion Query) : Prop :=
  ∃ c items, (d.compile t q).result = .ok c ∧ d.Inserts (d.compile t q).aliases i c items ∧
    ∀ row ∈ i.rows, ∀ cell ∈ cells i.columns row,
      Template.Settled d (d.compile t q).aliases (cellTemplate cell)

theorem compilesRows_of_one {q : Query} (h : q.InsertsRows i) (t : AliasTable) {row : List Expr}
    (hrows : i.rows = [row]) : CompilesRows d t q i := by
  have hfits := h.fits row (by rw [hrows]; exact List.mem_singleton_self row)
  obtain ⟨c, hresult, hbindings, hsettled, hsql⟩ :=
    compile_of_fills h (fills_of_one d h.noSource hrows hfits) t
  generalize hfinal : (d.compile t q).aliases = final at hsettled hsql
  rw [rowValues_eq hfits] at hbindings hsettled hsql
  obtain ⟨-, hsettled⟩ := List.forall_mem_cons.mp hsettled
  obtain ⟨hjoined, -⟩ := Template.settled_append.mp hsettled
  have hcells : ∀ s ∈ (cells i.columns row).map cellTemplate, Template.Settled d final s :=
    hjoined.of_joined
  have hwrites := writeAll_cells (d := d) (t := final) (cells i.columns row) 0
  let x := (cells i.columns row).map fun c => ((cellTemplate c).parts d final).map Part.draft
  have hearly : Draft.scalars true [x].flatten.flatten = [] := by
    rw [List.flatten_singleton]
    exact scalars_true_flatten _ _
  have hmarks : Template.marks (.sql "VALUES (" ::
      (Template.joined ", " ((cells i.columns row).map cellTemplate) ++ [.sql ")"]))
      = Template.placeholders (Draft.scalars false [x].flatten.flatten) := by
    rw [Template.marks_sql_cons, Template.marks_append, Template.marks_joined, hwrites.marks,
      List.flatten_singleton]
    exact List.append_nil _
  rw [Template.entries_of_marks hmarks] at hbindings
  have hclose (t : AliasTable) (n : Nat) : Template.text d t n [.sql ")"] = ")" := by
    show ")" ++ "" = _
    rw [String.append_empty]
  have htext : Template.text d final 0 (.sql "VALUES (" ::
      (Template.joined ", " ((cells i.columns row).map cellTemplate) ++ [.sql ")"]))
      = rowsText d final i.columns (Draft.numberRows 0 0 [x]) := by
    show "VALUES (" ++ Template.text d final 0 (_ ++ _) = _
    rw [Template.text_append, Template.text_joined, hwrites.texts_eq hcells, hclose,
      ← String.append_assoc]
    rfl
  rw [htext] at hsql
  refine ⟨c, Draft.numberRows 0 0 [x], hresult, ?_, ?_⟩
  · rw [hfinal]
    have hpart (cs : List (Option Expr)) :
        (cs.map fun c => ((cellTemplate c).parts d final).map Part.draft).map (·.map Draft.part)
          = cs.map fun c => (cellTemplate c).parts d final := by
      rw [List.map_map]
      exact List.map_congr_left fun c _ => part_draft _
    refine inserts_number hearly rfl ?_ hbindings hsql
    rw [hrows, List.map_singleton, List.map_singleton, hpart]
  · rw [hfinal, hrows]
    exact List.forall_mem_singleton.mpr (List.forall_mem_map.mp hcells)

theorem compilesRows_of_many {q : Query} (h : q.InsertsRows i) (t : AliasTable)
    (hrows : 2 ≤ i.rows.length) : CompilesRows d t q i := by
  -- the lists of items do not depend on the table, so the final one may be taken from the start
  obtain ⟨lists, hwrites, hz⟩ :=
    fills_of_many d (d.compile t q).aliases h.noSource h.columns hrows h.fits
  obtain ⟨c, hresult, hbindings, hsettled, hsql⟩ := compile_of_fills h hz t
  generalize hfinal : (d.compile t q).aliases = final at hwrites hbindings hsettled hsql
  have hlists : ∀ s ∈ lists.map rowTemplate, Template.Settled d final s :=
    hsettled.of_joined
  generalize hearly : Draft.scalars true (i.rows.map (rowDraft d final i.columns)).flatten.flatten
    = early at hbindings hsql
  have hmarks : (Template.joined " UNION ALL " (lists.map rowTemplate)).marks = _ :=
    (Template.marks_joined _ _).trans (marks_rows hwrites)
  have hbindings : c.bindings = placed 0 (early ++ Draft.scalars false
      (i.rows.map (rowDraft d final i.columns)).flatten.flatten) := by
    rw [hbindings, Template.entries_of_marks hmarks, Bindings.placed_append]
    rfl
  have hstart : (Bindings.placeAll {} early).next = early.length := Nat.zero_add _
  have hlength : 2 ≤ (Draft.numberRows 0 early.length
      (i.rows.map (rowDraft d final i.columns))).length := by
    rw [Draft.length_numberRows, List.length_map]
    exact hrows
  rw [hstart, Template.text_joined, texts_rows hwrites hlists, ← rowsText_of_many hlength] at hsql
  refine ⟨c, Draft.numberRows 0 early.length (i.rows.map (rowDraft d final i.columns)), hresult,
    ?_, ?_⟩
  · rw [hfinal]
    refine inserts_number hearly rfl ?_ hbindings hsql
    rw [List.map_map]
    refine List.map_congr_left fun row _ => ?_
    show ((cells i.columns row).map _).map _ = _
    rw [List.map_map]
    exact List.map_congr_left fun c _ => part_cellDraft d final c
  · rw [hfinal]
    exact settled_rows hwrites hlists

/-- The rows of an insertion are compiled to items, and their names are known afterwards. -/
theorem compilesRows {q : Query} (h : q.InsertsRows i) (t : AliasTable) :
    CompilesRows d t q i := by
  match hrows : i.rows with
  | [] => exact absurd hrows h.rows
  | [row] => exact compilesRows_of_one h t hrows
  | first :: second :: others =>
    apply compilesRows_of_many h t
    rw [hrows, List.length_cons, List.length_cons]
    omega

end Insertion

end inserts

/-! ## Rows of their own -/

/-- The names of a template are written as before under a table that extends one that knows them. -/
theorem Template.parts_of_extends {d : Dialect} {t t' : AliasTable} {s : Template}
    (hs : Settled d t s) (h : t.Extends t') : s.parts d t' = s.parts d t := by
  induction s with
  | nil => rfl
  | cons x s ih =>
    obtain ⟨hx, hrest⟩ := List.forall_mem_cons.mp hs
    have ih := ih hrest
    cases x with
    | identifier name =>
      have hextends : ((Piece.identifier name).aliases d t).Extends t' := by
        rw [hx]
        exact h
      have hname : d.written t' name = d.written t name :=
        (piece_of_extends d (.identifier name) 0 hextends).1
      rw [parts, parts, hname, ih]
    | _ => simp only [parts, ih]

/-- The query with a single row. -/
def Query.insertOnly (q : Query) (row : List Expr) : Query :=
  { q with insertion := q.insertion.map fun i => { i with rows := [row] } }

theorem Query.InsertsRows.insertOnly {q : Query} {i : Insertion Query} (h : q.InsertsRows i)
    {row : List Expr} (hrow : row ∈ i.rows) :
    (q.insertOnly row).InsertsRows { i with rows := [row] } where
  kind := h.kind
  insertion := by rw [Query.insertOnly, h.insertion]; rfl
  noSource := h.noSource
  table := h.table
  columns := h.columns
  rows := List.cons_ne_nil _ _
  fits := List.forall_mem_singleton.mpr (h.fits row hrow)

/-- **Rows that are inserted together are rows inserted one at a time.**  An insertion of rows
compiles, and so does each of its rows alone at any later time.  With the values in place of the
placeholders the items are the same, although they are numbered in different ways. -/
theorem compile_rows_together (d : Dialect) (t : AliasTable) {q : Query} {i : Insertion Query}
    (h : q.InsertsRows i) : ∃ c items,
    (d.compile t q).result = .ok c ∧ d.Inserts (d.compile t q).aliases i c items ∧
    ∀ p ∈ i.rows.zip items, ∀ t', (d.compile t q).aliases.Extends t' →
      let alone := d.compile t' (q.insertOnly p.1)
      ∃ c' row, alone.result = .ok c' ∧
        d.Inserts alone.aliases { i with rows := [p.1] } c' [row] ∧
        row.map (·.map (Token.resolve c'.bindings))
          = p.2.map (·.map (Token.resolve c.bindings)) := by
  obtain ⟨c, items, hresult, hinserts, hsettled⟩ := Insertion.compilesRows h t
  refine ⟨c, items, hresult, hinserts, ?_⟩
  rintro ⟨cs, tokens⟩ hp t' hextends alone
  have hrow : cs ∈ i.rows := (List.of_mem_zip hp).1
  obtain ⟨c', rows, hresult', hinserts', -⟩ :=
    Insertion.compilesRows (d := d) (h.insertOnly hrow) t'
  obtain ⟨row, rfl⟩ := List.length_eq_one_iff.mp hinserts'.rows
  refine ⟨c', row, hresult', hinserts', ?_⟩
  have hlater : (d.compile t q).aliases.Extends alone.aliases := by
    rw [Dialect.aliases_compile d t']
    exact hextends.trans (Emit.spells_statement d t' (q.insertOnly cs)).1
  have hmany := hinserts.parts_of_mem_zip hp
  have hone := hinserts'.parts_of_mem_zip List.mem_cons_self
  refine hone.trans (Eq.trans ?_ hmany.symm)
  exact List.map_congr_left fun cell hcell =>
    Template.parts_of_extends (hsettled cs hrow cell hcell) hlater

/-- A short row, nulls, raw text that looks like a placeholder, and scalars inside a function, with
a column that is too long for the server. -/
def interleaved : Insertion Query where
  table := "books"
  columns := ["id", "the_title_of_the_book_as_it_is_printed", "note"]
  rows := [
    [.function "f" [.value (.int 1), .value .null], .value (.int 2)],
    [.value (.int 3), .column "the_title_of_the_book_as_it_is_printed", .value .null],
    [.raw ":c0", .value (.text "x"), .function "g" [.value (.int 4)]]]

def interleavedRows : Query := { kind := .insert, insertion := some interleaved }

theorem insertsRows_interleaved : interleavedRows.InsertsRows interleaved :=
  ⟨rfl, rfl, rfl, by decide, by decide, by decide, by decide⟩

theorem compile_rows_together_interleaved : interleavedRows.InsertsRows interleaved ∧
    ∃ c items, (({} : Dialect).compile {} interleavedRows).result = .ok c ∧
      ({} : Dialect).Inserts (({} : Dialect).compile {} interleavedRows).aliases interleaved c
        items ∧
      c.bindings.map Binding.value = [.int 2, .int 3, .text "x", .int 1, .int 4] ∧
      ∀ p ∈ interleaved.rows.zip items,
        let alone := ({} : Dialect).compile (({} : Dialect).compile {} interleavedRows).aliases
          (interleavedRows.insertOnly p.1)
        ∃ c' row, alone.result = .ok c' ∧
          ({} : Dialect).Inserts alone.aliases { interleaved with rows := [p.1] } c' [row] ∧
          row.map (·.map (Token.resolve c'.bindings))
            = p.2.map (·.map (Token.resolve c.bindings)) := by
  obtain ⟨c, items, hresult, hinserts, halone⟩ :=
    compile_rows_together {} {} insertsRows_interleaved
  have hvalues : (({} : Dialect).compile {} interleavedRows).result.toOption.map
      (·.bindings.map Binding.value) = some [.int 2, .int 3, .text "x", .int 1, .int 4] := by
    decide +kernel
  rw [hresult] at hvalues
  exact ⟨insertsRows_interleaved, c, items, hresult, hinserts, Option.some.inj hvalues,
    fun p hp => halone p hp _ (.refl _)⟩

end RownumSql
