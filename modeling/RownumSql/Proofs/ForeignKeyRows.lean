import Mathlib.Data.List.Nodup
import RownumSql.Table.Reflection

/-!
# Rows of foreign keys

The catalog answers one row for each column of a foreign key.  Reflection makes a foreign key of
every row on its own and puts it under the name in the row, so that of several rows with one name
the last is left: a foreign key keeps its columns if it has one, and loses all but one if it has
more.

    t.constraints.get? n  is the foreign key of the last row named n          (describe_foreignKeys)
    all columns of all rows are kept ↔ no two rows have the same name      (keepsForeignKeys_iff)
-/

namespace RownumSql.Catalog

open RownumSql.Text (lower)

/-! ## Rows that make a foreign key -/

/-- What a row of the catalog tells about a foreign key. -/
structure ForeignKeyRow where
  name : String
  column : String
  owner : String
  table : String
  /-- The column that is referred to. -/
  referenced : String
  rule : Option String

namespace ForeignKeyRow

/-- What a row tells, if it has all the texts that a foreign key needs. -/
def ofRow? (row : Row) : Option ForeignKeyRow := do
  let name ← textField? row "CONSTRAINT_NAME"
  let column ← textField? row "COLUMN_NAME"
  let owner ← textField? row "REFERENCED_OWNER"
  let table ← textField? row "REFERENCED_TABLE_NAME"
  let referenced ← textField? row "REFERENCED_COLUMN_NAME"
  pure { name, column, owner, table, referenced, rule := textField? row "DELETE_RULE" }

/-- The foreign key that a row makes of its own column. -/
def constraint (k : ForeignKeyRow) : Constraint :=
  .foreign [lower k.column] ⟨k.owner ++ "." ++ k.table, [lower k.referenced]⟩
    (some ((k.rule.map actionOfRule).getD .setNull))

end ForeignKeyRow

/-- The rows that have the given name, in order. -/
def named (n : String) (keys : List ForeignKeyRow) : List ForeignKeyRow :=
  keys.filter fun k => k.name = n

/-- Under every name among the rows, the table has a foreign key with the columns of all rows of
that name and the columns that these refer to, in the order of the rows. -/
def KeepsForeignKeys (keys : List ForeignKeyRow) (t : Table) : Prop :=
  ∀ k ∈ keys, ∃ c r, t.constraints.get? k.name = some c ∧ c.kind = .foreign ∧
    c.columns = (named k.name keys).map (fun k => lower k.column) ∧
    c.references = some r ∧
    r.columns = (named k.name keys).map (fun k => lower k.referenced)

/-! ## One row and any number of them -/

theorem requiredText_of_textField? {row : Row} {name s : String}
    (h : textField? row name = some s) : requiredText row name = .ok s := by
  rw [requiredText, h]

/-- A row puts its own foreign key under its name. -/
theorem addForeignKey_of_ofRow? {row : Row} {k : ForeignKeyRow}
    (h : ForeignKeyRow.ofRow? row = some k) (t : Table) :
    addForeignKey t row = .ok (t.addConstraint k.name k.constraint) := by
  simp only [ForeignKeyRow.ofRow?, Option.bind_eq_bind, Option.bind_eq_some_iff,
    Option.pure_def, Option.some.injEq] at h
  obtain ⟨name, hname, column, hcolumn, owner, howner, table, htable, referenced, hreferenced, rfl⟩
    := h
  unfold addForeignKey
  rw [requiredText_of_textField? hname, requiredText_of_textField? howner,
    requiredText_of_textField? htable, requiredText_of_textField? hcolumn,
    requiredText_of_textField? hreferenced]
  rfl

/-- The table with the foreign keys of rows put in one after another. -/
def addKeys (t : Table) (keys : List ForeignKeyRow) : Table :=
  keys.foldl (fun t k => t.addConstraint k.name k.constraint) t

theorem foldlM_addForeignKey {rows : List Row} {keys : List ForeignKeyRow}
    (h : rows.mapM ForeignKeyRow.ofRow? = some keys) (t : Table) :
    rows.foldlM addForeignKey t = .ok (addKeys t keys) := by
  induction rows generalizing t keys with
  | nil =>
    cases h
    rfl
  | cons row rest ih =>
    rw [List.mapM_cons] at h
    simp only [Option.bind_eq_bind, Option.bind_eq_some_iff, Option.pure_def,
      Option.some.injEq] at h
    obtain ⟨k, hk, others, hothers, rfl⟩ := h
    rw [List.foldlM_cons, addForeignKey_of_ofRow? hk]
    exact ih hothers (t.addConstraint k.name k.constraint)

/-- Of several rows with one name the last is left. -/
theorem get?_addKeys (keys : List ForeignKeyRow) (t : Table) (n : String) :
    (addKeys t keys).constraints.get? n =
      (((named n keys).getLast?.map ForeignKeyRow.constraint).or (t.constraints.get? n)) := by
  induction keys generalizing t with
  | nil => rfl
  | cons k rest ih =>
    have hstep : (t.addConstraint k.name k.constraint).constraints.get? n =
        if n = k.name then some k.constraint else t.constraints.get? n :=
      OrderedMap.get?_insert t.constraints k.name k.constraint n
    show (addKeys (t.addConstraint k.name k.constraint) rest).constraints.get? n = _
    rw [ih, hstep]
    by_cases hn : k.name = n
    · have hnamed : named n (k :: rest) = k :: named n rest := by simp [named, hn]
      rw [if_pos hn.symm, hnamed, List.getLast?_cons]
      cases (named n rest).getLast? <;> rfl
    · have hnamed : named n (k :: rest) = named n rest := by simp [named, hn]
      rw [if_neg (Ne.symm hn), hnamed]

theorem describe_eq (name : String) (columns indexes rows : List Row) :
    describe name columns indexes rows =
      describe name columns indexes [] >>= fun t => rows.foldlM addForeignKey t := by
  simp only [describe, List.foldlM_nil, bind_pure, bind_assoc]

/-- Rows of foreign keys come on top of what the other rows describe. -/
theorem describe_foreignKeys {name : String} {columns indexes rows : List Row} {t : Table}
    {keys : List ForeignKeyRow} (ht : describe name columns indexes [] = .ok t)
    (hrows : rows.mapM ForeignKeyRow.ofRow? = some keys) :
    describe name columns indexes rows = .ok (addKeys t keys) := by
  rw [describe_eq, ht]
  exact foldlM_addForeignKey hrows t

/-! ## Which columns are kept -/

theorem mem_named {k : ForeignKeyRow} {keys : List ForeignKeyRow} (hk : k ∈ keys) :
    k ∈ named k.name keys :=
  List.mem_filter.mpr ⟨hk, decide_eq_true rfl⟩

theorem count_name (n : String) (keys : List ForeignKeyRow) :
    (keys.map (·.name)).count n = (named n keys).length := by
  rw [List.count_eq_countP, List.countP_map, List.countP_eq_length_filter]
  rfl

/-- All columns are kept if and only if every name stands in a single row. -/
theorem keepsForeignKeys_iff (keys : List ForeignKeyRow) (t : Table) :
    KeepsForeignKeys keys (addKeys t keys) ↔ (keys.map (·.name)).Nodup := by
  constructor
  · intro hkeeps
    rw [List.nodup_iff_count_le_one]
    intro n
    rw [count_name]
    cases hlast : (named n keys).getLast? with
    | none => simp [List.getLast?_eq_none_iff.mp hlast]
    | some last =>
      obtain ⟨hmem, hname⟩ := List.mem_filter.mp (List.mem_of_getLast? hlast)
      rw [decide_eq_true_iff] at hname
      obtain ⟨c, r, hget, -, hcolumns, -⟩ := hkeeps last hmem
      rw [hname, get?_addKeys, hlast] at hget
      -- the constraint that is left is that of one row
      cases hget
      have hlength := congrArg List.length hcolumns
      rw [hname, List.length_map] at hlength
      exact Nat.le_of_eq hlength.symm
  · intro hnodup k hk
    have hone : named k.name keys = [k] := by
      have hle : (named k.name keys).length ≤ 1 := by
        rw [← count_name]
        exact List.nodup_iff_count_le_one.mp hnodup k.name
      have hmem := mem_named hk
      match hnamed : named k.name keys with
      | [] =>
        rw [hnamed] at hmem
        cases hmem
      | [only] =>
        rw [hnamed] at hmem
        rw [List.mem_singleton.mp hmem]
      | _ :: _ :: _ =>
        rw [hnamed] at hle
        simp at hle
    refine ⟨k.constraint, ⟨k.owner ++ "." ++ k.table, [lower k.referenced]⟩, ?_, rfl, ?_, rfl, ?_⟩
    · rw [get?_addKeys, hone]
      rfl
    · rw [hone]
      rfl
    · rw [hone]
      rfl

/-- **A foreign key keeps one column.**  Where the other rows describe a table, rows of foreign keys
that lack nothing describe one too.  Under each of their names it has the foreign key of the last
row of that name, so that all columns are kept if and only if no name occurs in two rows. -/
theorem describe_keepsForeignKeys_iff {name : String} {columns indexes rows : List Row}
    {t : Table} {keys : List ForeignKeyRow} (ht : describe name columns indexes [] = .ok t)
    (hrows : rows.mapM ForeignKeyRow.ofRow? = some keys) :
    ∃ described, describe name columns indexes rows = .ok described ∧
      (∀ n, described.constraints.get? n =
        ((named n keys).getLast?.map ForeignKeyRow.constraint).or (t.constraints.get? n)) ∧
      (KeepsForeignKeys keys described ↔ (keys.map (·.name)).Nodup) :=
  ⟨addKeys t keys, describe_foreignKeys ht hrows, get?_addKeys keys t, keepsForeignKeys_iff keys t⟩

/-- The row of a column of a foreign key to a table of books. -/
def bookRow (name column referenced : String) : Row :=
  OrderedMap.ofList
    [("CONSTRAINT_NAME", .text name), ("COLUMN_NAME", .text column),
     ("REFERENCED_OWNER", .text "APP"), ("REFERENCED_TABLE_NAME", .text "BOOKS"),
     ("REFERENCED_COLUMN_NAME", .text referenced), ("DELETE_RULE", .text "CASCADE")]

/-- What the row of a column of a foreign key to a table of books tells. -/
def bookKey (name column referenced : String) : ForeignKeyRow :=
  { name, column, owner := "APP", table := "BOOKS", referenced, rule := some "CASCADE" }

/-- Two foreign keys of one column each, beside a primary key. -/
theorem describe_keepsForeignKeys_iff_twoNames :
    let indexes : List Row := [OrderedMap.ofList
      [("COLUMN_NAME", .text "ID"), ("CONSTRAINT_TYPE", .text "P")]]
    let rows := [bookRow "FK_BOOK" "BOOK_ID" "ID", bookRow "FK_SEQUEL" "SEQUEL_ID" "ID"]
    let keys := [bookKey "FK_BOOK" "BOOK_ID" "ID", bookKey "FK_SEQUEL" "SEQUEL_ID" "ID"]
    ∃ described, describe "loans" [] indexes rows = .ok described ∧
      described.constraints.get? "primary" = some (.primary ["id"]) ∧
      KeepsForeignKeys keys described := by
  intro indexes rows keys
  have hother : ∃ t, describe "loans" [] indexes [] = .ok t ∧
      t.constraints.get? "primary" = some (.primary ["id"]) :=
    ⟨_, rfl, by decide +kernel⟩
  obtain ⟨t, ht, hprimary⟩ := hother
  have hrows : rows.mapM ForeignKeyRow.ofRow? = some keys := rfl
  obtain ⟨described, hdescribed, hget, hiff⟩ := describe_keepsForeignKeys_iff ht hrows
  refine ⟨described, hdescribed, ?_, hiff.mpr (by decide)⟩
  rw [hget]
  exact hprimary

/-- The two columns of one foreign key: the second row takes the place of the first. -/
theorem describe_loses_column :
    let rows := [bookRow "FK_BOOK" "BOOK_ID" "ID", bookRow "FK_BOOK" "EDITION" "EDITION"]
    let keys := [bookKey "FK_BOOK" "BOOK_ID" "ID", bookKey "FK_BOOK" "EDITION" "EDITION"]
    rows.mapM ForeignKeyRow.ofRow? = some keys ∧
    ∃ described, describe "loans" [] [] rows = .ok described ∧
      (described.constraints.get? "FK_BOOK").map (·.columns) = some ["edition"] ∧
      ¬ KeepsForeignKeys keys described := by
  intro rows keys
  have hrows : rows.mapM ForeignKeyRow.ofRow? = some keys := rfl
  have hcolumns : ((addKeys { name := "loans" } keys).constraints.get? "FK_BOOK").map (·.columns)
      = some ["edition"] := by decide +kernel
  refine ⟨hrows, _, describe_foreignKeys rfl hrows, hcolumns, ?_⟩
  intro hkeeps
  obtain ⟨c, r, hget, -, hkept, -⟩ := hkeeps _ List.mem_cons_self
  have hboth : c.columns = ["edition"] := by
    change (addKeys { name := "loans" } keys).constraints.get? "FK_BOOK" = some c at hget
    rw [hget] at hcolumns
    exact Option.some.inj hcolumns
  rw [hboth] at hkept
  exact absurd (congrArg List.length hkept) (by decide)

end RownumSql.Catalog
