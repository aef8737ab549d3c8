import RownumSql.Client
import RownumSql.Identifier.AliasTable
import RownumSql.Statement.Page

/-!
# Cursors

A statement of a client with what a caller is promised: rows may be held in memory, row numbers are
dropped, and fields come under the names that the caller used.
-/

namespace RownumSql

/-- A prepared statement and the rows of it that are held. -/
structure Cursor (T : Type) where
  native : T
  /-- The SQL as the caller wrote it. -/
  sql : String
  /-- Whether all rows are read when the statement is run. -/
  buffers : Bool := true
  /-- The rows that were read and not yet handed out. -/
  held : Option (List Row) := none
  /-- Whether the number of a row is dropped. -/
  dropsRowNumber : Bool := false
  rowCount : Nat := 0

namespace Cursor

variable {m : Type → Type} [Monad m] {T : Type} [NativeStatement m T]

/-! ## Binding -/

def bindKey (c : Cursor T) (key : BindKey) (v : Value) : m (Except SqlError Unit × Cursor T) := do
  let (r, native) ← NativeStatement.bindValue c.native key v
  pure (r, { c with native })

/-- Binds a value under a name, with or without a colon in front. -/
def bindNamed (c : Cursor T) (name : String) (v : Value) :
    m (Except SqlError Unit × Cursor T) :=
  c.bindKey (.ofName name) v

/-- Binds values, up to the first that is refused. -/
def bindAll (c : Cursor T) : List Binding → m (Except SqlError Unit × Cursor T)
  | [] => pure (.ok (), c)
  | b :: rest => do
    let (r, c) ← c.bindKey b.key b.value
    match r with
    | .error e => pure (.error e, c)
    | .ok () => c.bindAll rest

/-- Binds anonymous parameters in order. -/
def bindParams (c : Cursor T) (params : List Value) : m (Except SqlError Unit × Cursor T) :=
  c.bindAll (params.zipIdx.map fun p => ⟨.position p.2, p.1⟩)

/-! ## Running -/

/-- Reads rows until there are none, at most as many as the count. -/
def drain : Nat → T → m (Except SqlError (List Row) × T)
  | 0, native => pure (.ok [], native)
  | n + 1, native => do
    let (r, native) ← NativeStatement.fetch native
    match r with
    | .error e => pure (.error e, native)
    | .ok none => pure (.ok [], native)
    | .ok (some row) => do
      let (rows, native) ← drain n native
      pure (rows.map (row :: ·), native)

/-- Runs the statement; rows of an earlier run are dropped. -/
def execute (c : Cursor T) : m (Except SqlError Unit × Cursor T) := do
  let (r, native) ← NativeStatement.execute c.native
  let c := { c with native, held := none }
  match r with
  | .error e => pure (.error e, c)
  | .ok () =>
    if c.buffers then do
      let (rows, native) ← drain (NativeStatement.unread native + 1) native
      let c := { c with native }
      match rows with
      | .error e => pure (.error e, c)
      | .ok rows => pure (.ok (), { c with held := some rows, rowCount := rows.length })
    else pure (.ok (), { c with rowCount := NativeStatement.rowCount native })

/-! ## Fetching -/

/-- The next row as the client gave it. -/
def nextRow (c : Cursor T) : m (Except SqlError (Option Row) × Cursor T) :=
  match c.held with
  | some (row :: rest) => pure (.ok (some row), { c with held := some rest })
  | some [] => pure (.ok none, c)
  | none => do
    let (r, native) ← NativeStatement.fetch c.native
    pure (r, { c with native })

/-- The row without the first field that carries the row number, under the caller's names. -/
def presentRow (c : Cursor T) (aliases : AliasTable) (row : Row) : Row :=
  aliases.restore <|
    if c.dropsRowNumber then row.eraseFirst fun key => Text.sameIgnoringCase key rowNumberColumn
    else row

/-- The values of the row without the last, which is the row number. -/
def presentValues (c : Cursor T) (row : Row) : List Value :=
  if c.dropsRowNumber then row.values.dropLast else row.values

/-- The next row by field. -/
def fetchRow (c : Cursor T) (aliases : AliasTable) :
    m (Except SqlError (Option Row) × Cursor T) := do
  let (r, c) ← c.nextRow
  pure (r.map (Option.map (c.presentRow aliases)), c)

/-- The next row by position. -/
def fetchValues (c : Cursor T) : m (Except SqlError (Option (List Value)) × Cursor T) := do
  let (r, c) ← c.nextRow
  pure (r.map (Option.map c.presentValues), c)

/-- Rows by field until there are none, at most as many as the count. -/
def fetchRows (aliases : AliasTable) : Nat → Cursor T → m (Except SqlError (List Row) × Cursor T)
  | 0, c => pure (.ok [], c)
  | n + 1, c => do
    let (r, c) ← c.fetchRow aliases
    match r with
    | .error e => pure (.error e, c)
    | .ok none => pure (.ok [], c)
    | .ok (some row) => do
      let (rows, c) ← fetchRows aliases n c
      pure (rows.map (row :: ·), c)

/-- A bound on the number of rows that are left. -/
def unread (c : Cursor T) : Nat :=
  match c.held with
  | some rows => rows.length
  | none => NativeStatement.unread c.native

/-- All rows that are left, by field. -/
def fetchAll (c : Cursor T) (aliases : AliasTable) : m (Except SqlError (List Row) × Cursor T) :=
  fetchRows aliases (c.unread + 1) c

/-- Drops the rows that are left. -/
def close (c : Cursor T) : m (Except SqlError Unit × Cursor T) := do
  let (r, native) ← NativeStatement.closeCursor c.native
  pure (r, { c with native, held := none })

end Cursor

end RownumSql
