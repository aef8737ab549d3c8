import RownumSql.Proofs.ReflectedTables

/-!
# Rows of keys

The catalog answers one row for each column of a primary or unique key, in any order.  Reflection
puts the column of a row behind the columns of its key, or begins a key with it, so that a table has
the keys of the rows in the order in which they first occur, each with the columns of all its rows.

    reflection fails ↔ some row lacks a name that it needs
    m.keys = (the keys of the rows).eraseDups
    m.get? key = the kind of the first row of the key, the columns of all       (describe_keyRows)
-/

namespace RownumSql.Catalog

open RownumSql.Text (lower)

/-! ## What a row tells -/

/-- A row of a primary key without the name of its column, or a row of a unique key without that or
without the name of the key. -/
def LacksName (row : Row) : Prop :=
  textField? row "CONSTRAINT_TYPE" = some "P" ∧ textField? row "COLUMN_NAME" = none ∨
  textField? row "CONSTRAINT_TYPE" = some "U" ∧
    (textField? row "CONSTRAINT_NAME" = none ∨ textField? row "COLUMN_NAME" = none)

instance (row : Row) : Decidable (LacksName row) := inferInstanceAs (Decidable (_ ∨ _))

/-- A column of a key. -/
structure KeyColumn where
  key : String
  kind : ConstraintKind
  column : String
deriving DecidableEq

namespace KeyColumn

/-- The column that a row tells of: one of the key `primary`, or one of the unique key that the row
names.  A row of any other constraint tells of none. -/
def ofRow? (row : Row) : Option KeyColumn :=
  if textField? row "CONSTRAINT_TYPE" = some "P" then do
    let column ← textField? row "COLUMN_NAME"
    pure ⟨"primary", .primary, lower column⟩
  else if textField? row "CONSTRAINT_TYPE" = some "U" then do
    let key ← textField? row "CONSTRAINT_NAME"
    let column ← textField? row "COLUMN_NAME"
    pure ⟨key, .unique, lower column⟩
  else none

/-- The columns of one key, in order. -/
def named (key : String) (ks : List KeyColumn) : List KeyColumn := ks.filter fun k => k.key = key

/-- The constraints are the keys of the columns, in the order in which they first occur: each has
the kind of its first column, and all its columns in order. -/
structure Grouped (ks : List KeyColumn) (m : OrderedMap Constraint) : Prop where
  keys : m.keys = (ks.map (·.key)).eraseDups
  get? : ∀ key first rest, named key ks = first :: rest →
    m.get? key = some { kind := first.kind, columns := (first :: rest).map (·.column) }

/-- The constraints with a column behind those of its key, or with a key that begins with it. -/
def addTo (m : OrderedMap Constraint) (k : KeyColumn) : OrderedMap Constraint :=
  if m.contains k.key then m.modify k.key fun c => { c with columns := c.columns ++ [k.column] }
  else m.insert k.key { kind := k.kind, columns := [k.column] }

/-! ## Columns one after another -/

variable {ks : List KeyColumn} {m : OrderedMap Constraint}

theorem grouped_nil : Grouped [] ∅ where
  keys := rfl
  get? _ _ _ h := nomatch h

theorem named_concat (key : String) (ks : List KeyColumn) (k : KeyColumn) :
    named key (ks ++ [k]) = named key ks ++ if k.key = key then [k] else [] := by
  unfold named
  rw [List.filter_append, List.filter_singleton]
  simp

theorem named_eq_nil_iff {key : String} : named key ks = [] ↔ key ∉ ks.map (·.key) := by
  simp [named]

theorem Grouped.contains_iff (h : Grouped ks m) (key : String) :
    m.contains key ↔ key ∈ ks.map (·.key) := by
  rw [m.contains_iff, h.keys, List.mem_eraseDups]

theorem keys_addTo (m : OrderedMap Constraint) (k : KeyColumn) :
    (addTo m k).keys = if k.key ∈ m.keys then m.keys else m.keys ++ [k.key] := by
  unfold addTo
  by_cases h : k.key ∈ m.keys
  · rw [if_pos ((m.contains_iff k.key).mpr h), OrderedMap.keys_modify, if_pos h]
  · rw [if_neg (mt (m.contains_iff k.key).mp h), OrderedMap.keys_insert]

theorem get?_addTo_of_ne (m : OrderedMap Constraint) {k : KeyColumn} {key : String}
    (h : key ≠ k.key) : (addTo m k).get? key = m.get? key := by
  unfold addTo
  split
  · rw [OrderedMap.get?_modify, if_neg h]
  · rw [OrderedMap.get?_insert, if_neg h]

/-- A column more keeps the constraints grouped. -/
theorem Grouped.addTo (h : Grouped ks m) (k : KeyColumn) : Grouped (ks ++ [k]) (addTo m k) := by
  constructor
  · rw [keys_addTo, h.keys, List.map_append, List.map_singleton, OrderedMap.eraseDups_concat]
    simp only [List.mem_eraseDups]
  · intro key first rest hnamed
    rw [named_concat] at hnamed
    by_cases hkey : k.key = key
    · subst hkey
      have hthere := h.contains_iff k.key
      rw [if_pos rfl] at hnamed
      unfold KeyColumn.addTo
      cases hold : named k.key ks with
      | nil =>
        -- the first column of a new key
        rw [hold] at hnamed
        cases hnamed
        rw [if_neg (mt hthere.mp (named_eq_nil_iff.mp hold)), OrderedMap.get?_insert, if_pos rfl]
        rfl
      | cons head tail =>
        -- a further column of a key that is there
        have hmem : k.key ∈ ks.map (·.key) := by
          by_contra hnew
          rw [named_eq_nil_iff.mpr hnew] at hold
          cases hold
        rw [hold] at hnamed
        cases hnamed
        rw [if_pos (hthere.mpr hmem), OrderedMap.get?_modify, if_pos rfl,
          h.get? k.key first tail hold]
        simp
    · rw [if_neg hkey, List.append_nil] at hnamed
      rw [get?_addTo_of_ne m (Ne.symm hkey)]
      exact h.get? key first rest hnamed

theorem Grouped.foldl_addTo (h : Grouped ks m) (more : List KeyColumn) :
    Grouped (ks ++ more) (more.foldl KeyColumn.addTo m) := by
  induction more generalizing ks m with
  | nil =>
    rw [List.append_nil]
    exact h
  | cons k rest ih =>
    rw [List.foldl_cons, List.append_cons]
    exact ih (h.addTo k)

end KeyColumn

/-! ## Rows one after another -/

section rows
variable {row : Row} {t : Table}

theorem keyOfRow_primary (h : textField? row "CONSTRAINT_TYPE" = some "P") :
    keyOfRow row = .ok (some ("primary", .primary)) := by
  rw [keyOfRow, h]
  rfl

theorem keyOfRow_unique (h : textField? row "CONSTRAINT_TYPE" = some "U") :
    keyOfRow row =
      (requiredText row "CONSTRAINT_NAME").map fun name => some (name, .unique) := by
  rw [keyOfRow, h]
  rfl

theorem keyOfRow_other (hp : textField? row "CONSTRAINT_TYPE" ≠ some "P")
    (hu : textField? row "CONSTRAINT_TYPE" ≠ some "U") : keyOfRow row = .ok none := by
  unfold keyOfRow
  split
  · next type htype =>
    rw [htype] at hp hu
    rw [if_neg (mt (congrArg some) hp), if_neg (mt (congrArg some) hu)]
  · rfl

theorem requiredText_of_none {name : String} (h : textField? row name = none) :
    ∃ e, requiredText row name = .error e := by
  rw [requiredText, h]
  exact ⟨_, rfl⟩

theorem addKeyColumn_of_lacksName (h : LacksName row) : ∃ e, addKeyColumn t row = .error e := by
  unfold addKeyColumn
  rcases h with ⟨htype, hcolumn⟩ | ⟨htype, hname | hcolumn⟩
  · obtain ⟨e, he⟩ := requiredText_of_none hcolumn
    rw [keyOfRow_primary htype]
    exact ⟨e, by rw [he]; rfl⟩
  · obtain ⟨e, he⟩ := requiredText_of_none hname
    rw [keyOfRow_unique htype]
    exact ⟨e, by rw [he]; rfl⟩
  · obtain ⟨e, he⟩ := requiredText_of_none hcolumn
    rw [keyOfRow_unique htype]
    cases requiredText row "CONSTRAINT_NAME" with
    | error e' => exact ⟨e', rfl⟩
    | ok name => exact ⟨e, by rw [he]; rfl⟩

/-- A row that lacks no name puts its column to the key, if it tells of one. -/
theorem addKeyColumn_of_not_lacksName (h : ¬ LacksName row) :
    addKeyColumn t row = .ok { t with
      constraints := ((KeyColumn.ofRow? row).map (KeyColumn.addTo t.constraints)).getD
        t.constraints } := by
  simp only [LacksName, not_or, not_and, ← ne_eq, Option.ne_none_iff_exists'] at h
  unfold addKeyColumn KeyColumn.ofRow?
  by_cases hprimary : textField? row "CONSTRAINT_TYPE" = some "P"
  · obtain ⟨column, hcolumn⟩ := h.1 hprimary
    rw [keyOfRow_primary hprimary, requiredText_of_textField? hcolumn, if_pos hprimary, hcolumn]
    show (if _ then _ else _) = Except.ok { t with constraints := KeyColumn.addTo _ _ }
    unfold KeyColumn.addTo
    split <;> rfl
  · by_cases hunique : textField? row "CONSTRAINT_TYPE" = some "U"
    · obtain ⟨⟨name, hname⟩, column, hcolumn⟩ := h.2 hunique
      rw [keyOfRow_unique hunique, requiredText_of_textField? hname,
        requiredText_of_textField? hcolumn, if_neg hprimary, if_pos hunique, hname, hcolumn]
      show (if _ then _ else _) = Except.ok { t with constraints := KeyColumn.addTo _ _ }
      unfold KeyColumn.addTo
      split <;> rfl
    · rw [keyOfRow_other hprimary hunique, if_neg hprimary, if_neg hunique]
      rfl

theorem foldlM_addKeyColumn_of_lacksName {rows : List Row} (h : ∃ row ∈ rows, LacksName row) :
    ∃ e, rows.foldlM addKeyColumn t = .error e := by
  induction rows generalizing t with
  | nil => simp at h
  | cons row rest ih =>
    rw [List.foldlM_cons]
    by_cases hrow : LacksName row
    · obtain ⟨e, he⟩ := addKeyColumn_of_lacksName hrow
      exact ⟨e, by rw [he]; rfl⟩
    · rw [addKeyColumn_of_not_lacksName hrow]
      exact ih (by simpa [hrow] using h)

theorem foldlM_addKeyColumn {rows : List Row} (h : ∀ row ∈ rows, ¬ LacksName row) :
    rows.foldlM addKeyColumn t = .ok { t with
      constraints := (rows.filterMap KeyColumn.ofRow?).foldl KeyColumn.addTo t.constraints } := by
  induction rows generalizing t with
  | nil => rfl
  | cons row rest ih =>
    obtain ⟨hrow, hrest⟩ := List.forall_mem_cons.mp h
    rw [List.foldlM_cons, addKeyColumn_of_not_lacksName hrow]
    refine (ih hrest).trans ?_
    rw [List.filterMap_cons]
    cases KeyColumn.ofRow? row <;> rfl

end rows

theorem constraints_of_columns {name : String} {columns : List Row} {t : Table}
    (h : describe name columns [] [] = .ok t) : t.constraints = ∅ := by
  have hcolumns : columns.foldlM addColumn { name } = .ok t := by
    simpa [describe] using h
  refine of_foldlM (P := fun t => t.constraints = ∅) ?_ rfl hcolumns
  intro t t' row ht hrow
  obtain ⟨_, _, rfl, -⟩ := addColumn_eq_ok hrow
  exact ht

/-- **Rows of keys are grouped without loss.**  Where the rows of columns describe a table, rows of
keys fail if and only if one of them lacks a name.  Otherwise the table has, beside these columns,
exactly the keys of the rows in the order in which they first occur, each with the kind of its first
row and the columns of all its rows, however rows of different keys are mixed. -/
theorem describe_keyRows {name : String} {columns rows : List Row} {t : Table}
    (ht : describe name columns [] [] = .ok t) :
    ((∃ e, describe name columns rows [] = .error e) ↔ ∃ row ∈ rows, LacksName row) ∧
    ((∀ row ∈ rows, ¬ LacksName row) → ∃ constraints,
      describe name columns rows [] = .ok { t with constraints } ∧
      KeyColumn.Grouped (rows.filterMap KeyColumn.ofRow?) constraints) := by
  have hdescribe : describe name columns rows [] = rows.foldlM addKeyColumn t := by
    have hcolumns : columns.foldlM addColumn { name } = .ok t := by
      simpa [describe] using ht
    simp only [describe, hcolumns, List.foldlM_nil, bind_pure]
    rfl
  rw [hdescribe]
  constructor
  · constructor
    · rintro ⟨e, he⟩
      by_contra hrows
      rw [foldlM_addKeyColumn fun row hrow hlacks => hrows ⟨row, hrow, hlacks⟩] at he
      cases he
    · exact foldlM_addKeyColumn_of_lacksName
  · intro hrows
    refine ⟨_, foldlM_addKeyColumn hrows, ?_⟩
    rw [constraints_of_columns ht]
    exact KeyColumn.grouped_nil.foldl_addTo _

def keyRow (type name column : String) : Row :=
  OrderedMap.ofList [("CONSTRAINT_TYPE", .text type), ("CONSTRAINT_NAME", .text name),
    ("COLUMN_NAME", .text column)]

/-- A unique key of two columns around the row of the primary key and that of a check, which has no
column. -/
theorem describe_keyRows_mixed :
    let columns : List Row :=
      [OrderedMap.ofList [("COLUMN_NAME", .text "ISBN"), ("DATA_TYPE", .text "VARCHAR2")]]
    let rows : List Row := [keyRow "U" "UK_EDITION" "ISBN", keyRow "P" "PK_BOOK" "ID",
      OrderedMap.ofList [("CONSTRAINT_TYPE", .text "C")], keyRow "U" "UK_EDITION" "PRINTING"]
    (∀ row ∈ rows, ¬ LacksName row) ∧
    ∃ t constraints, describe "books" columns [] [] = .ok t ∧
      describe "books" columns rows [] = .ok { t with constraints } ∧
      constraints.keys = ["UK_EDITION", "primary"] ∧
      constraints.get? "UK_EDITION" = some (.unique ["isbn", "printing"]) ∧
      constraints.get? "primary" = some (.primary ["id"]) := by
  intro columns rows
  have hlacks : ∀ row ∈ rows, ¬ LacksName row := by decide +kernel
  have ht : ∃ t, describe "books" columns [] [] = .ok t := ⟨_, rfl⟩
  obtain ⟨t, ht⟩ := ht
  have hks : rows.filterMap KeyColumn.ofRow? = [⟨"UK_EDITION", .unique, "isbn"⟩,
      ⟨"primary", .primary, "id"⟩, ⟨"UK_EDITION", .unique, "printing"⟩] := by decide +kernel
  obtain ⟨constraints, hdescribe, hgrouped⟩ := (describe_keyRows ht).2 hlacks
  rw [hks] at hgrouped
  refine ⟨hlacks, t, constraints, ht, hdescribe, ?_, ?_, ?_⟩
  · rw [hgrouped.keys]
    decide
  · exact hgrouped.get? "UK_EDITION" _ _ rfl
  · exact hgrouped.get? "primary" _ _ rfl

end RownumSql.Catalog
