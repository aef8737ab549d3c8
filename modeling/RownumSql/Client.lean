import RownumSql.Binding
import RownumSql.SqlError

/-!
# Clients

The seam to whatever talks to the server.  A client prepares statements, and a statement takes
values, runs, and hands out rows.  Calls run in a monad of the client's choice; a statement is
handed back by every call, also by one that fails.
-/

namespace RownumSql

/-- A statement of a client. -/
class NativeStatement (m : outParam (Type → Type)) (T : Type) where
  /-- Binds a value; positions count from zero. -/
  bindValue : T → BindKey → Value → m (Except SqlError Unit × T)
  execute : T → m (Except SqlError Unit × T)
  /-- The next row, if there is one. -/
  fetch : T → m (Except SqlError (Option Row) × T)
  /-- The number of rows that the last execution touched. -/
  rowCount : T → Nat
  /-- Drops the rows that are left. -/
  closeCursor : T → m (Except SqlError Unit × T)
  /-- A bound on the number of rows that are left. -/
  unread : T → Nat

/-- A session of a client. -/
class NativeConnection (m : outParam (Type → Type)) (T : outParam Type) (C : Type) where
  prepare : C → String → m (Except SqlError T)
  /-- Runs a statement without rows, and gives the number of rows that it touched. -/
  exec : C → String → m (Except SqlError Nat)
  /-- The table that was inserted into last. -/
  lastInsertedTable : C → Option String
  /-- The last number of a sequence; without a name, of that of the last inserted table. -/
  lastInsertId : C → Option String → m (Except SqlError Value)

end RownumSql
