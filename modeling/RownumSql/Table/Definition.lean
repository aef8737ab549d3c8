import RownumSql.Dialect
import RownumSql.SqlError
import RownumSql.Table

/-!
# Table definitions

The statements that create and empty a table and that add and drop its foreign keys.
-/

namespace RownumSql

/-- A step that quotes names and may fail; the aliases that it made stay also when it fails. -/
abbrev Define := ExceptT SqlError (StateM AliasTable)

namespace Define

/-- Quotes a name, unless the dialect does not quote. -/
def quote (d : Dialect) (name : String) : Define String :=
  if d.quotes then ExceptT.lift (d.quote name) else pure name

def quoteAll (d : Dialect) (names : List String) : Define String := do
  let quotedNames ← names.mapM (quote d)
  pure (", ".intercalate quotedNames)

/-! ## Columns -/

/-- The native type of a column, without its size. -/
def nativeType (type : ColumnType) (fixed : Bool) : Except SqlError String :=
  match type with
  | .integer | .bigInteger | .boolean | .decimal => .ok " NUMBER"
  | .binary => .ok " BLOB"
  | .float => .ok " FLOAT"
  | .text => .ok " CLOB"
  | .date | .time | .dateTime => .ok " DATE"
  | .timestamp => .ok " TIMESTAMP(6)"
  | .uuid => .ok " VARCHAR2(36)"
  | .string => .ok (if fixed then " CHAR" else " VARCHAR2")
  | .json => .error (.unsupportedType type.name)

/-- The size of a column; texts have 255 characters unless they say otherwise. -/
def sizeText (c : Column) (type : ColumnType) : String :=
  let one (n : UInt32) : String := "(" ++ toString n.toNat ++ ")"
  match type with
  | .integer => (c.length.map one).getD ""
  | .string => one (c.length.getD 255)
  | .float | .decimal =>
    if c.length.isSome || c.precision.isSome then
      "(" ++ toString (c.length.getD 0).toNat ++ "," ++ toString (c.precision.getD 0).toNat ++ ")"
    else ""
  | _ => ""

def column (d : Dialect) (t : Table) (name : String) : Define String := do
  let some c := t.columns.get? name | throw (.invalidQuery ("Unknown column " ++ name))
  let quotedName ← quote d name
  let some type := c.type | throw (.unsupportedType "untyped")
  let typeText ← liftExcept (nativeType type c.fixed)
  let null := if c.nullable then "" else " NOT NULL"
  let default := match c.default with
    | some v => " DEFAULT " ++ d.spelling.literal v
    | none => ""
  pure (quotedName ++ typeText ++ sizeText c type ++ null ++ default)
where
  /-- Takes over the outcome of a step without state. -/
  liftExcept {α : Type} : Except SqlError α → Define α
    | .ok a => pure a
    | .error e => throw e

/-! ## Constraints -/

/-- The delete rules that a server knows. -/
def deleteRule : Option Action → String
  | some .cascade => " ON DELETE " ++ Action.cascade.sql
  | some .setNull => " ON DELETE " ++ Action.setNull.sql
  | _ => ""

/-- The words in front of the columns of a constraint. -/
def constraintHead (d : Dialect) (name : String) : ConstraintKind → Define String
  | .primary => pure "PRIMARY KEY"
  | .unique => do
    let quotedName ← quote d name
    pure ("CONSTRAINT " ++ quotedName ++ " UNIQUE")
  | .foreign => do
    let quotedName ← quote d name
    pure ("CONSTRAINT " ++ quotedName)

def constraint (d : Dialect) (t : Table) (name : String) : Define String := do
  let some c := t.constraints.get? name | throw (.invalidQuery ("Unknown constraint " ++ name))
  let head ← constraintHead d name c.kind
  let columns ← quoteAll d c.columns
  if c.kind ≠ .foreign then pure (head ++ " (" ++ columns ++ ")")
  else do
    let some r := c.references
      | throw (.invalidQuery ("Foreign key " ++ name ++ " has no referenced table"))
    let table ← quote d r.table
    let referenced ← quoteAll d r.columns
    pure (head ++ " FOREIGN KEY (" ++ columns ++ ") REFERENCES " ++ table ++ " (" ++ referenced
      ++ ")" ++ deleteRule c.delete)

/-! ## Indexes -/

/-- The definition of an index: there is none in this dialect. -/
def index (_ : Dialect) (_ : Table) (_ : String) : Define String := throw (.unsupported "indexSql")

/-! ## Statements -/

def comment (d : Dialect) (table name text : String) : Define String := do
  let quotedName ← quote d name
  pure ("COMMENT ON COLUMN " ++ table ++ "." ++ quotedName ++ " IS "
    ++ d.spelling.literal (.text text))

def commented (t : Table) : List (String × String) :=
  t.columns.entries.filterMap fun e => e.2.comment.map (e.1, ·)

/-- The statements that create a table and comment on its columns. -/
def createTable (d : Dialect) (t : Table) : Define (List String) := do
  let columns ← t.columns.keys.mapM (column d t)
  let constraints ← t.constraints.keys.mapM (constraint d t)
  let indexes ← t.indexes.keys.mapM (index d t)
  let table ← quote d t.name
  let comments ← (commented t).mapM fun e => comment d table e.1 e.2
  let create := "CREATE TABLE " ++ table ++ " (\n" ++ ",\n".intercalate (columns ++ constraints)
    ++ "\n)"
  pure (create :: indexes ++ comments)

def truncateTable (d : Dialect) (t : Table) : Define (List String) := do
  let table ← quote d t.name
  pure ["TRUNCATE TABLE " ++ table]

def addForeignKeys (d : Dialect) (t : Table) : Define (List String) := do
  let table ← quote d t.name
  t.foreignKeys.mapM fun e => do
    let definition ← constraint d t e.1
    pure ("ALTER TABLE " ++ table ++ " ADD " ++ definition ++ ";")

def dropForeignKeys (d : Dialect) (t : Table) : Define (List String) := do
  let table ← quote d t.name
  t.foreignKeys.mapM fun e => do
    let name ← quote d e.1
    pure ("ALTER TABLE " ++ table ++ " DROP CONSTRAINT " ++ name ++ ";")

end Define

end RownumSql
