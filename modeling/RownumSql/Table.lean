import RownumSql.Value

/-!
# Tables

The description of a table: its columns, constraints and indexes by name, in order.  Reflection
produces it and table definitions are written from it.
-/

namespace RownumSql

/-! ## Columns -/

/-- Logical column types. -/
inductive ColumnType where
  | integer
  | bigInteger
  | boolean
  | binary
  | float
  | decimal
  | string
  | text
  | date
  | time
  | dateTime
  | timestamp
  | uuid
  | json
deriving DecidableEq, Repr

namespace ColumnType

def name : ColumnType → String
  | integer => "integer"
  | bigInteger => "biginteger"
  | boolean => "boolean"
  | binary => "binary"
  | float => "float"
  | decimal => "decimal"
  | string => "string"
  | text => "text"
  | date => "date"
  | time => "time"
  | dateTime => "datetime"
  | timestamp => "timestamp"
  | uuid => "uuid"
  | json => "json"

def names : List (String × ColumnType) :=
  [integer, bigInteger, boolean, binary, float, decimal, string, text, date, time, dateTime,
   timestamp, uuid, json].map fun t => (t.name, t)

end ColumnType

/-- A column. -/
structure Column where
  /-- The logical type; none if the native type has no counterpart. -/
  type : Option ColumnType := none
  length : Option UInt32 := none
  /-- Places after the point. -/
  precision : Option UInt32 := none
  nullable : Bool := true
  default : Option Value := none
  /-- Whether texts are filled up to the length. -/
  fixed : Bool := false
  comment : Option String := none
deriving DecidableEq

/-! ## Constraints and indexes -/

/-- Kinds of constraint. -/
inductive ConstraintKind where
  | primary
  | unique
  | foreign
deriving DecidableEq, Repr

namespace ConstraintKind

def name : ConstraintKind → String
  | primary => "primary"
  | unique => "unique"
  | foreign => "foreign"

def names : List (String × ConstraintKind) :=
  [primary, unique, foreign].map fun k => (k.name, k)

end ConstraintKind

/-- What happens to a row when the row that it refers to goes. -/
inductive Action where
  | cascade
  | setNull
  | noAction
  | restrict
  | setDefault
deriving DecidableEq, Repr

namespace Action

def sql : Action → String
  | cascade => "CASCADE"
  | setNull => "SET NULL"
  | noAction => "NO ACTION"
  | restrict => "RESTRICT"
  | setDefault => "SET DEFAULT"

def name : Action → String
  | cascade => "cascade"
  | setNull => "set_null"
  | noAction => "no_action"
  | restrict => "restrict"
  | setDefault => "set_default"

def names : List (String × Action) :=
  [cascade, setNull, noAction, restrict, setDefault].map fun a => (a.name, a)

end Action

/-- The columns of another table that a foreign key refers to. -/
structure Reference where
  table : String
  columns : List String
deriving DecidableEq, Repr

/-- A constraint. -/
structure Constraint where
  kind : ConstraintKind
  columns : List String
  references : Option Reference := none
  update : Option Action := none
  delete : Option Action := none
deriving DecidableEq, Repr

namespace Constraint

def primary (columns : List String) : Constraint := { kind := .primary, columns }

def unique (columns : List String) : Constraint := { kind := .unique, columns }

/-- A foreign key; an update of the row that is referred to sets the columns to null. -/
def foreign (columns : List String) (references : Reference) (delete : Option Action) :
    Constraint :=
  { kind := .foreign, columns, references := some references, update := some .setNull, delete }

end Constraint

/-- Kinds of index. -/
inductive IndexKind where
  | index
  | fulltext
deriving DecidableEq, Repr

namespace IndexKind

def name : IndexKind → String
  | index => "index"
  | fulltext => "fulltext"

def names : List (String × IndexKind) := [index, fulltext].map fun k => (k.name, k)

end IndexKind

/-- An index. -/
structure Index where
  kind : IndexKind := .index
  columns : List String
deriving DecidableEq, Repr

/-! ## Tables -/

/-- A table. -/
structure Table where
  name : String
  columns : OrderedMap Column := ∅
  constraints : OrderedMap Constraint := ∅
  indexes : OrderedMap Index := ∅
deriving DecidableEq

namespace Table

/-- Adds or replaces a column. -/
def addColumn (t : Table) (name : String) (c : Column) : Table :=
  { t with columns := t.columns.insert name c }

/-- Adds or replaces a constraint. -/
def addConstraint (t : Table) (name : String) (c : Constraint) : Table :=
  { t with constraints := t.constraints.insert name c }

/-- Adds or replaces an index. -/
def addIndex (t : Table) (name : String) (i : Index) : Table :=
  { t with indexes := t.indexes.insert name i }

/-- The columns of the first primary key. -/
def primaryKey? (t : Table) : Option (List String) :=
  (t.constraints.values.find? fun c => c.kind = .primary).map (·.columns)

def foreignKeys (t : Table) : List (String × Constraint) :=
  t.constraints.entries.filter fun e => e.2.kind = .foreign

end Table

end RownumSql
