import RownumSql.Text.Numeral

/-!
# Errors

What can go wrong between a query and its rows, and the message that each cause is reported with.
-/

namespace RownumSql

/-- The causes of failure. -/
inductive SqlError where
  /-- The dialect has no such operation. -/
  | unsupported (operation : String)
  /-- No native type for a column type. -/
  | unsupportedType (name : String)
  /-- An inserted row has more values than there are columns. -/
  | shapeMismatch (row columns values : Nat)
  /-- The query has no SQL in its present shape. -/
  | invalidQuery (reason : String)
  /-- The database answered with something unusable. -/
  | database (reason : String)
  /-- The session was lost or refused. -/
  | connection (reason : String)
  /-- The server rejected a statement. -/
  | execution (reason : String)
  /-- A settings file does not hold settings. -/
  | settings (reason : String)
  /-- A file could not be read. -/
  | file (reason : String)
deriving DecidableEq, Repr

namespace SqlError

def message : SqlError → String
  | unsupported operation =>
    "Unsupported operation: " ++ operation ++ " has not been implemented"
  | unsupportedType name => "Column type " ++ name ++ " not yet implemented"
  | shapeMismatch row columns values =>
    "Insert row " ++ toString row ++ " has " ++ toString values ++ " values but only "
      ++ toString columns ++ " columns"
  | invalidQuery reason => "Invalid query: " ++ reason
  | database reason => "Database error: " ++ reason
  | connection reason => "Connection error: " ++ reason
  | execution reason => "Execution error: " ++ reason
  | settings reason => "Configuration error: " ++ reason
  | file reason => "IO error: " ++ reason

/-! ## Queries that cannot be compiled -/

def insertWithoutValues : SqlError := invalidQuery "INSERT without a values clause"

/-- An insertion has an empty table name. -/
def insertWithoutTable : SqlError := invalidQuery "INSERT without a target table"

/-- An insertion has neither rows nor a source query. -/
def insertWithoutRows : SqlError := invalidQuery "INSERT without rows or a source query"

def updateWithoutTable : SqlError := invalidQuery "UPDATE without a target table"

def updateWithoutAssignments : SqlError := invalidQuery "UPDATE without assignments"

def deleteWithoutTable : SqlError := invalidQuery "DELETE without a target table"

/-- The row numbers of a union branch cannot be projected away, for its items have no names. -/
def unnamedBranch : SqlError :=
  unsupported "OFFSET on a UNION branch without named select items"

end SqlError

end RownumSql
