import Mathlib.Data.List.Nodup
import RownumSql.Table.Reflection

/-!
# Respelled rows

Clients spell the fields of a catalog row in capital or in small letters, and give them in an order
of their own.  Reflection takes the field with the exact name, or else the first whose name differs
in the case of ASCII letters only.  Where no two names of a row differ in case only, both are the
one field with that name up to case, so that neither spelling nor order counts:

    row.Unambiguous → row.Respells row' → field? row = field? row'            (field?_respelled)
    describe name columns keys foreignKeys  is the same for respelled rows   (describe_respelled)
-/

namespace RownumSql

/-! ## Names without case -/

/-- A name with its ASCII letters small. -/
def foldName (name : String) : List Char := name.toList.map Char.toLower

/-- The fields of a row under their names without case. -/
def Row.folded (row : Row) : List (List Char × Value) :=
  row.entries.map fun e => (foldName e.1, e.2)

/-- No two names of the row differ in the case of ASCII letters only. -/
def Row.Unambiguous (row : Row) : Prop := (row.folded.map Prod.fst).Nodup

/-- The rows have the same fields, in any order and with any case in the names. -/
def Row.Respells (row row' : Row) : Prop := row.folded.Perm row'.folded

namespace Row

theorem Unambiguous.of_respells {row row' : Row} (h : row.Unambiguous) (hr : row.Respells row') :
    row'.Unambiguous :=
  (hr.map Prod.fst).nodup_iff.mp h

theorem lookup_folded_perm {row row' : Row} (h : row.Unambiguous) (hr : row.Respells row')
    (key : List Char) : row.folded.lookup key = row'.folded.lookup key := by
  apply Option.ext
  intro v
  rw [OrderedMap.lookup_eq_some_iff h, OrderedMap.lookup_eq_some_iff (h.of_respells hr)]
  exact hr.mem_iff

/-- The first field whose name differs in case only is the first with the name without case. -/
theorem find?_sameIgnoringCase (es : List (String × Value)) (name : String) :
    (es.find? fun e => Text.sameIgnoringCase e.1 name).map Prod.snd =
      (es.map fun e => (foldName e.1, e.2)).lookup (foldName name) := by
  induction es with
  | nil => rfl
  | cons e rest ih =>
    have hcomm : Text.sameIgnoringCase e.1 name = (foldName name == foldName e.1) :=
      BEq.comm
    rw [List.find?_cons, List.map_cons, List.lookup_cons, hcomm]
    cases foldName name == foldName e.1 with
    | true => rfl
    | false => exact ih

end Row

/-! ## Fields -/

namespace Catalog

/-- In an unambiguous row the exact name and the name without case lead to the same field. -/
theorem field?_eq_lookup {row : Row} (h : row.Unambiguous) (name : String) :
    field? row name = (row.folded.lookup (foldName name)).filter fun v => !v.isNull := by
  unfold field?
  rw [Row.find?_sameIgnoringCase]
  cases hget : row.get? name with
  | none => rfl
  | some v =>
    have hmem : (name, v) ∈ row.entries := (OrderedMap.lookup_eq_some_iff row.distinct).mp hget
    have hlookup : row.folded.lookup (foldName name) = some v :=
      (OrderedMap.lookup_eq_some_iff h).mpr (List.mem_map_of_mem hmem)
    rw [hlookup]

theorem field?_respelled {row row' : Row} (h : row.Unambiguous) (hr : row.Respells row') :
    field? row = field? row' := by
  funext name
  rw [field?_eq_lookup h, field?_eq_lookup (h.of_respells hr), Row.lookup_folded_perm h hr]

/-! ## Rows that are read by their fields -/

section fields
variable {row row' : Row} (h : field? row = field? row') (t : Table)
include h

theorem textField?_congr : textField? row = textField? row' := by
  unfold textField?
  rw [h]

theorem numberField?_congr : numberField? row = numberField? row' := by
  unfold numberField?
  rw [h]

theorem requiredText_congr : requiredText row = requiredText row' := by
  unfold requiredText
  rw [textField?_congr h]

theorem addColumn_congr : addColumn t row = addColumn t row' := by
  unfold addColumn
  rw [requiredText_congr h, textField?_congr h, numberField?_congr h, h]

theorem addKeyColumn_congr : addKeyColumn t row = addKeyColumn t row' := by
  unfold addKeyColumn keyOfRow
  rw [requiredText_congr h, textField?_congr h]

theorem addForeignKey_congr : addForeignKey t row = addForeignKey t row' := by
  unfold addForeignKey
  rw [requiredText_congr h, textField?_congr h]

end fields

/-- Steps that read a row by its fields come to the same over rows with the same fields. -/
theorem foldlM_respelled {add : Table → Row → Except SqlError Table}
    (hadd : ∀ {row row' : Row}, field? row = field? row' → ∀ t, add t row = add t row')
    {rows rows' : List Row} (hrows : ∀ row ∈ rows, row.Unambiguous)
    (hr : List.Forall₂ Row.Respells rows rows') (t : Table) :
    rows.foldlM add t = rows'.foldlM add t := by
  induction hr generalizing t with
  | nil => rfl
  | @cons row row' rest rest' hrow _ ih =>
    obtain ⟨hunambiguous, hrest⟩ := List.forall_mem_cons.mp hrows
    rw [List.foldlM_cons, List.foldlM_cons, hadd (field?_respelled hunambiguous hrow) t]
    exact bind_congr fun next => ih hrest next

/-- **Reflection does not depend on how fields are spelled or ordered.**  If no row has two names
that differ in the case of ASCII letters only, then other rows with the same fields, in any order
and with any case in their names, describe the same table, or fail with the same error. -/
theorem describe_respelled {name : String}
    {columns columns' indexes indexes' foreignKeys foreignKeys' : List Row}
    (hrows : ∀ row ∈ columns ++ indexes ++ foreignKeys, row.Unambiguous)
    (hcolumns : List.Forall₂ Row.Respells columns columns')
    (hindexes : List.Forall₂ Row.Respells indexes indexes')
    (hforeignKeys : List.Forall₂ Row.Respells foreignKeys foreignKeys') :
    describe name columns indexes foreignKeys = describe name columns' indexes' foreignKeys' := by
  simp only [List.forall_mem_append] at hrows
  obtain ⟨⟨hcolumn, hindex⟩, hforeignKey⟩ := hrows
  unfold describe
  rw [foldlM_respelled addColumn_congr hcolumn hcolumns]
  refine bind_congr fun t => ?_
  rw [foldlM_respelled addKeyColumn_congr hindex hindexes]
  exact bind_congr fun t => foldlM_respelled addForeignKey_congr hforeignKey hforeignKeys t

/-- A column and its primary key, from one client in capital letters and from another in small ones
with the fields in another order; the precision is a text. -/
theorem describe_respelled_smallLetters :
    let columns : List Row := [OrderedMap.ofList [("COLUMN_NAME", .text "ID"),
      ("DATA_TYPE", .text "NUMBER"), ("DATA_PRECISION", .text "10"), ("NULLABLE", .text "N")]]
    let columns' : List Row := [OrderedMap.ofList [("nullable", .text "N"),
      ("data_precision", .text "10"), ("column_name", .text "ID"), ("data_type", .text "NUMBER")]]
    let keys : List Row := [OrderedMap.ofList
      [("CONSTRAINT_TYPE", .text "P"), ("COLUMN_NAME", .text "ID")]]
    let keys' : List Row := [OrderedMap.ofList
      [("Column_Name", .text "ID"), ("Constraint_Type", .text "P")]]
    (∀ row ∈ columns ++ keys ++ [], row.Unambiguous) ∧
    List.Forall₂ Row.Respells columns columns' ∧ List.Forall₂ Row.Respells keys keys' ∧
    ∃ T, describe "books" columns keys [] = .ok T ∧ describe "books" columns' keys' [] = .ok T ∧
      T.columns.entries =
        [("id", { type := some .integer, length := some 10, nullable := false })] ∧
      T.constraints.entries = [("primary", .primary ["id"])] := by
  intro columns columns' keys keys'
  have hrows : ∀ row ∈ columns ++ keys ++ [], row.Unambiguous := by
    unfold Row.Unambiguous
    decide
  have hcolumns : List.Forall₂ Row.Respells columns columns' := by
    refine .cons ?_ .nil
    unfold Row.Respells
    decide
  have hkeys : List.Forall₂ Row.Respells keys keys' := by
    refine .cons ?_ .nil
    unfold Row.Respells
    decide
  have hdescribe : ∃ T, describe "books" columns keys [] = .ok T ∧
      T.columns.entries =
        [("id", { type := some .integer, length := some 10, nullable := false })] ∧
      T.constraints.entries = [("primary", .primary ["id"])] :=
    ⟨_, rfl, by decide +kernel, by decide +kernel⟩
  obtain ⟨T, hT, hentries⟩ := hdescribe
  refine ⟨hrows, hcolumns, hkeys, T, hT, ?_, hentries⟩
  rw [← describe_respelled hrows hcolumns hkeys .nil]
  exact hT

end Catalog

end RownumSql
