import RownumSql.Client.Cursor
import RownumSql.Settings
import RownumSql.Statement.Compile
import RownumSql.Table.Catalog
import RownumSql.Table.Reflection

/-!
# Sessions

A session of a client together with its settings and its table of aliases.  The aliases that a step
made stay also when the step fails.
-/

namespace RownumSql

/-- A session. -/
structure Session (C : Type) where
  client : C
  settings : Settings
  aliases : AliasTable

namespace Session

variable {m : Type → Type} [Monad m] {T C : Type} [NativeStatement m T] [NativeConnection m T C]

/-! ## Connecting -/

/-- The failure of a statement that was run on connecting. -/
def connectError : SqlError → SqlError
  | .connection reason => .connection reason
  | e => .connection ("session init failed: " ++ e.message)

/-- Runs statements up to the first that fails. -/
def runAll (client : C) : List String → m (Except SqlError Unit)
  | [] => pure (.ok ())
  | sql :: rest => do
    match ← NativeConnection.exec client sql with
    | .error e => pure (.error e)
    | .ok _ => runAll client rest

/-- A session over a client, once the statements of the settings have been run. -/
def connect (client : C) (settings : Settings) : m (Except SqlError (Session C)) := do
  match ← runAll client settings.sessionInit with
  | .error e => pure (.error (connectError e))
  | .ok () => pure (.ok ⟨client, settings, settings.aliases⟩)

def dialect (s : Session C) : Dialect := s.settings.dialect

/-! ## Statements -/

/-- Prepares SQL; a selection that reads from no table is made to read from `DUAL`. -/
def prepareSql (s : Session C) (sql : String) : m (Except SqlError (Cursor T)) := do
  let native ← NativeConnection.prepare s.client (Dialect.addDual sql)
  pure (native.map fun native => { native, sql, buffers := s.settings.buffersResults })

/-- Compiles and prepares a query, its values bound. -/
def prepare (s : Session C) (q : Query) : m (Except SqlError (Cursor T) × Session C) := do
  let compilation := s.dialect.compile s.aliases q
  let s := { s with aliases := compilation.aliases }
  match compilation.result with
  | .error e => pure (.error e, s)
  | .ok compiled => do
    match ← s.prepareSql compiled.sql with
    | .error e => pure (.error e, s)
    | .ok cursor => do
      let (r, cursor) ← cursor.bindAll compiled.bindings
      let cursor := { cursor with
        dropsRowNumber := compiled.rowNumberColumn
        buffers := cursor.buffers && compiled.buffered }
      pure (r.map fun () => cursor, s)

def execute (s : Session C) (q : Query) : m (Except SqlError (Cursor T) × Session C) := do
  let (r, s) ← s.prepare q
  match r with
  | .error e => pure (.error e, s)
  | .ok cursor => do
    let (r, cursor) ← Cursor.execute cursor
    pure (r.map fun () => cursor, s)

/-! ## Catalog -/

def catalogRows (s : Session C) (q : CatalogQuery) : m (Except SqlError (List Row)) := do
  match ← s.prepareSql q.sql with
  | .error e => pure (.error e)
  | .ok cursor => do
    let (r, cursor) ← Cursor.bindAll (T := T) cursor (q.params.map fun p => ⟨.ofName p.1, p.2⟩)
    match r with
    | .error e => pure (.error e)
    | .ok () => do
      let (r, cursor) ← Cursor.execute cursor
      match r with
      | .error e => pure (.error e)
      | .ok () => do
        let (rows, cursor) ← Cursor.fetchAll cursor s.aliases
        match rows with
        | .error e => pure (.error e)
        | .ok rows => do
          let (r, _) ← Cursor.close cursor
          pure (r.map fun () => rows)

/-- The names of all tables: the first field of each row, where it is a text. -/
def listTables (s : Session C) : m (Except SqlError (List String)) := do
  let rows ← s.catalogRows s.dialect.listTables
  pure (rows.map fun rows => rows.filterMap fun row => row.values.head?.bind Value.text?)

def describeTable (s : Session C) (name : String) : m (Except SqlError Table) := do
  match ← s.catalogRows (s.dialect.describeColumns name) with
  | .error e => pure (.error e)
  | .ok columns => do
    match ← s.catalogRows (s.dialect.describeIndexes name) with
    | .error e => pure (.error e)
    | .ok indexes => do
      match ← s.catalogRows (s.dialect.describeForeignKeys name) with
      | .error e => pure (.error e)
      | .ok foreignKeys => pure (Catalog.describe name columns indexes foreignKeys)

/-! ## Other statements -/

/-- Runs a statement without rows. -/
def run (s : Session C) (sql : String) : m (Except SqlError Unit) := do
  let r ← NativeConnection.exec s.client sql
  pure (r.map fun _ => ())

/-- The last number of a sequence.  The name of the table that was inserted into last stands for
no sequence, and leaves it to the client. -/
def lastInsertId (s : Session C) (sequence : Option String) : m (Except SqlError Value) :=
  NativeConnection.lastInsertId s.client
    (sequence.filter fun name => NativeConnection.lastInsertedTable s.client ≠ some name)

def disableForeignKeys (s : Session C) : m (Except SqlError Unit) :=
  s.run s.dialect.disableForeignKeys

def enableForeignKeys (s : Session C) : m (Except SqlError Unit) :=
  s.run s.dialect.enableForeignKeys

def savepoint (s : Session C) (level : UInt32) : m (Except SqlError Unit) :=
  s.run (s.dialect.spelling.savepoint level)

/-- Goes back to a savepoint. -/
def rollback (s : Session C) (level : UInt32) : m (Except SqlError Unit) :=
  s.run (s.dialect.spelling.rollback level)

/-- Releases a savepoint, on servers that can. -/
def release (s : Session C) (level : UInt32) : m (Except SqlError Unit) :=
  match s.dialect.spelling.release? level with
  | some sql => s.run sql
  | none => pure (.ok ())

end Session

end RownumSql
