import RownumSql.SqlError
import RownumSql.Table
import RownumSql.Text.Basic
import RownumSql.Text.LetterCase

/-!
# Reflection

A table is put together from the rows that the catalog answers: one for each column, one for each
column of a key, one for each foreign key.
-/

namespace RownumSql

open RownumSql.Text

namespace Catalog

/-! ## Fields -/

/-- The value of a field, unless it is null.  The exact name counts first, and a name that differs
only in the case of ASCII letters second. -/
def field? (row : Row) (name : String) : Option Value :=
  let found := match row.get? name with
    | some v => some v
    | none => (row.entries.find? fun (e : String × Value) => sameIgnoringCase e.1 name).map Prod.snd
  found.filter fun v => !v.isNull

def textField? (row : Row) (name : String) : Option String := (field? row name).bind Value.text?

def numberField? (row : Row) (name : String) : Option UInt32 :=
  (field? row name).bind Value.uint32?

/-- The text in a field that has to be there. -/
def requiredText (row : Row) (name : String) : Except SqlError String :=
  match textField? row name with
  | some s => .ok s
  | none => .error (.database ("Catalog row is missing " ++ name))

/-! ## Columns -/

/-- The column of a native type with its sizes. -/
def columnOfType (native : String) (length precision : Option UInt32) (scale : UInt32) : Column :=
  if native = "DATE" then { type := some .dateTime }
  else if ["TIMESTAMP", "TIMESTAMP(6)", "TIMESTAMP(9)"].contains native then
    { type := some .timestamp }
  else if native = "NUMBER" then
    match precision with
    | none => { type := some .decimal, length }
    | some p =>
      if p = 1 then { type := some .boolean }
      else if 0 < scale then { type := some .decimal, length := some p, precision := some scale }
      else { type := some .integer, length := some p }
  else if native = "FLOAT" then { type := some .decimal, length := precision }
  else if ["CHAR", "VARCHAR2", "NVARCHAR2", "CLOB"].contains native then
    { type := some .string, length }
  else if native = "LONG" then { type := some .string }
  else if native = "LONG RAW" then { type := some .binary }
  else if ["RAW", "BLOB"].contains native then { type := some .binary, length }
  else {}

/-- The table with the column of a row added. -/
def addColumn (t : Table) (row : Row) : Except SqlError Table := do
  let name ← requiredText row "COLUMN_NAME"
  let native ← requiredText row "DATA_TYPE"
  let column := columnOfType native (numberField? row "DATA_LENGTH")
    (numberField? row "DATA_PRECISION") ((numberField? row "DATA_SCALE").getD 0)
  pure (t.addColumn (lower name)
    { column with
      nullable := textField? row "NULLABLE" = some "Y"
      default := field? row "DATA_DEFAULT" })

/-! ## Keys -/

/-- The name and kind of the key that a row belongs to; other constraints are not reflected. -/
def keyOfRow (row : Row) : Except SqlError (Option (String × ConstraintKind)) :=
  match textField? row "CONSTRAINT_TYPE" with
  | some type =>
    if type = "P" then .ok (some ("primary", .primary))
    else if type = "U" then
      (requiredText row "CONSTRAINT_NAME").map fun name => some (name, .unique)
    else .ok none
  | none => .ok none

/-- The table with the column of a row added to its key. -/
def addKeyColumn (t : Table) (row : Row) : Except SqlError Table := do
  match ← keyOfRow row with
  | none => pure t
  | some (name, kind) => do
    let column := lower (← requiredText row "COLUMN_NAME")
    if t.constraints.contains name then
      pure { t with
        constraints := t.constraints.modify name fun c => { c with columns := c.columns ++ [column] } }
    else pure (t.addConstraint name { kind, columns := [column] })

/-! ## Foreign keys -/

/-- The action that a rule names; it is to set null where the rule is unknown. -/
def actionOfRule (rule : String) : Action :=
  let name := String.ofList (upperChars (trimBlank rule.toList))
  if name = "CASCADE" then .cascade
  else if name = "NO ACTION" then .noAction
  else if name = "RESTRICT" then .restrict
  else .setNull

/-- The table with the foreign key of a row added. -/
def addForeignKey (t : Table) (row : Row) : Except SqlError Table := do
  let name ← requiredText row "CONSTRAINT_NAME"
  let owner ← requiredText row "REFERENCED_OWNER"
  let table ← requiredText row "REFERENCED_TABLE_NAME"
  let delete := ((textField? row "DELETE_RULE").map actionOfRule).getD .setNull
  let column ← requiredText row "COLUMN_NAME"
  let referenced ← requiredText row "REFERENCED_COLUMN_NAME"
  let references : Reference := ⟨owner ++ "." ++ table, [lower referenced]⟩
  pure (t.addConstraint name (.foreign [lower column] references (some delete)))

/-! ## Tables -/

/-- The table that the rows of the three catalog queries describe. -/
def describe (name : String) (columns indexes foreignKeys : List Row) : Except SqlError Table := do
  let t ← columns.foldlM addColumn { name }
  let t ← indexes.foldlM addKeyColumn t
  foreignKeys.foldlM addForeignKey t

end Catalog

end RownumSql
