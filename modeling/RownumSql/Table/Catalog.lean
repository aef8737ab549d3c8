import RownumSql.Dialect

/-!
# Queries to the catalog

The SQL that asks the server for its tables and for the columns, keys and foreign keys of one of
them: in the views of the user, or in those of everybody where an owner is named.
-/

namespace RownumSql

open RownumSql.Text

/-- A query to the catalog, with its values by name. -/
structure CatalogQuery where
  sql : String
  params : List (String × Value)
deriving DecidableEq

/-- A table and its owner, as the catalog spells them. -/
structure CatalogName where
  table : String
  owner : Option String
deriving DecidableEq, Repr

namespace Dialect

/-- The name before the first point is the owner; without one the schema of the session is. -/
def catalogName (d : Dialect) (name : String) : CatalogName :=
  let cs := name.toList
  let front := cs.takeWhile (· ≠ '.')
  match cs.drop front.length with
  | [] => ⟨upper name, d.schema.map upper⟩
  | _ :: rest => ⟨upper (String.ofList rest), some (upper (String.ofList front))⟩

def listTables (d : Dialect) : CatalogQuery :=
  let column := if d.quotes then "table_name" else "LOWER(table_name)"
  match d.schema with
  | none => ⟨"SELECT " ++ column ++ " FROM sys.user_tables", []⟩
  | some schema =>
    ⟨"SELECT " ++ column ++ " FROM sys.all_tables WHERE owner = :bindOwner",
     [("bindOwner", .text (upper schema))]⟩

/-- A query about one table: in the views of the user, or in those of everybody. -/
def aboutTable (d : Dialect) (name fields own all : String) : CatalogQuery :=
  match d.catalogName name with
  | ⟨table, none⟩ => ⟨fields ++ own, [("bindTable", .text table)]⟩
  | ⟨table, some owner⟩ =>
    ⟨fields ++ all, [("bindTable", .text table), ("bindOwner", .text owner)]⟩

def describeColumns (d : Dialect) (name : String) : CatalogQuery :=
  d.aboutTable name
    ("SELECT COLUMN_NAME, DATA_TYPE, DATA_LENGTH, DATA_PRECISION, DATA_SCALE, NULLABLE, "
      ++ "DATA_DEFAULT")
    " FROM user_tab_columns WHERE table_name = :bindTable"
    " FROM all_tab_columns WHERE table_name = :bindTable AND owner = :bindOwner"

def describeIndexes (d : Dialect) (name : String) : CatalogQuery :=
  d.aboutTable name
    ("SELECT cc.table_name, cc.column_name, cc.constraint_name, c.constraint_type, "
      ++ "i.index_name, i.uniqueness")
    (" FROM user_cons_columns cc "
      ++ "LEFT JOIN user_indexes i ON(i.index_name = cc.constraint_name) "
      ++ "LEFT JOIN user_constraints c ON(c.constraint_name = cc.constraint_name) "
      ++ "WHERE cc.table_name = :bindTable")
    (" FROM all_cons_columns cc "
      ++ "LEFT JOIN all_indexes i ON(i.index_name = cc.constraint_name AND cc.owner = i.owner) "
      ++ "LEFT JOIN all_constraints c ON(c.constraint_name = cc.constraint_name "
      ++ "AND c.owner = cc.owner) "
      ++ "WHERE cc.table_name = :bindTable AND cc.owner = :bindOwner")

def describeForeignKeys (d : Dialect) (name : String) : CatalogQuery :=
  d.aboutTable name
    ("SELECT cc.column_name, cc.constraint_name, r.owner AS REFERENCED_OWNER, "
      ++ "r.table_name AS REFERENCED_TABLE_NAME, r.column_name AS REFERENCED_COLUMN_NAME, "
      ++ "c.delete_rule")
    (" FROM user_cons_columns cc "
      ++ "JOIN user_constraints c ON(c.constraint_name = cc.constraint_name) "
      ++ "JOIN user_cons_columns r ON(r.constraint_name = c.r_constraint_name) "
      ++ "WHERE c.constraint_type = 'R' AND cc.table_name = :bindTable")
    (" FROM all_cons_columns cc "
      ++ "JOIN all_constraints c ON(c.constraint_name = cc.constraint_name "
      ++ "AND c.owner = cc.owner) "
      ++ "JOIN all_cons_columns r ON(r.constraint_name = c.r_constraint_name "
      ++ "AND r.owner = c.r_owner) "
      ++ "WHERE c.constraint_type = 'R' AND cc.table_name = :bindTable AND cc.owner = :bindOwner")

end Dialect

end RownumSql
