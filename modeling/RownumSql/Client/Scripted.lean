import RownumSql.Client
import RownumSql.Statement.Page
import RownumSql.Text.Basic

/-!
# Scripted clients

A client without a server: it answers statements with rows that were laid down for them, fails where
it was told to, and keeps a log of the calls that it got.
-/

namespace RownumSql.Scripted

open RownumSql.Text

/-! ## Scripts -/

/-- Kinds of call that can fail. -/
inductive CallKind where
  | prepare
  | exec
  | lastInsertId
  | bind
  | execute
  | fetch
  | close
deriving DecidableEq, Repr

def CallKind.names : List (String × CallKind) :=
  [("prepare", .prepare), ("exec", .exec), ("last_insert_id", .lastInsertId), ("bind", .bind),
   ("execute", .execute), ("fetch", .fetch), ("close", .close)]

/-- The rows for statements whose SQL contains a text. -/
structure Response where
  pattern : String
  rows : List Row := []
  /-- The number of rows that the statement touches, if it is not that of the rows. -/
  affected : Option Nat := none

/-- A failure of the calls of a kind that mention a text. -/
structure Failure where
  kind : CallKind
  pattern : String := ""
  /-- The number of fetches that still go well. -/
  after : Nat := 0
  error : SqlError

/-- What a client answers. -/
structure Script where
  responses : List Response := []
  failures : List Failure := []
  lastInsertedTable : Option String := none
  lastInsertId : Value := .int 42

/-- A call that a client got. -/
inductive Call where
  | prepare (sql : String)
  | exec (sql : String)
  | lastInsertId (sequence : Option String)
  | bind (key : BindKey) (v : Value)
  | execute
  | fetch
  | close

/-- A step of a client, with the log of calls, latest last. -/
abbrev Logged := StateM (List Call)

def note (call : Call) : Logged Unit := modify (· ++ [call])

def mentions (text pattern : String) : Bool := containsText pattern.toList text.toList

/-- The failure of a call, if it is to fail. -/
def Script.check (s : Script) (kind : CallKind) (text : String) (done : Nat) :
    Except SqlError Unit :=
  match s.failures.find? fun f => f.kind = kind && mentions text f.pattern && f.after ≤ done with
  | some f => .error f.error
  | none => .ok ()

/-! ## Statements -/

/-- A prepared statement. -/
structure Statement where
  script : Script
  sql : String
  bound : List Binding := []
  rows : List Row := []
  fetches : Nat := 0
  affected : Nat := 0

namespace Statement

/-- The whole number that was last bound under a name. -/
def boundInt? (s : Statement) (name : String) : Option Int :=
  ((s.bound.reverse.find? fun b => b.key = .named name).bind fun b => b.value.int?).map
    Int64.toInt

/-- The rows with their numbers, if the SQL asks for them. -/
def numberRows (s : Statement) (rows : List Row) : List Row :=
  if mentions s.sql ("ROWNUM " ++ rowNumberColumn) then
    rows.zipIdx.map fun r => r.1.insert rowNumberColumn (.int (Int64.ofNat (r.2 + 1)))
  else rows

/-- The rows inside the window that the bindings ask for. -/
def window (s : Statement) (rows : List Row) : List Row :=
  let kept := match s.boundInt? PageNames.outer.maxRow with
    | some n => rows.take n.toNat
    | none => rows
  (s.numberRows kept).drop ((s.boundInt? PageNames.outer.offset).getD 0).toNat

/-- The statement with the rows of its response. -/
def answer (s : Statement) : Statement :=
  match s.script.responses.find? fun r => mentions s.sql r.pattern with
  | some r =>
    let rows := s.window r.rows
    { s with rows, fetches := 0, affected := r.affected.getD rows.length }
  | none => { s with rows := [], fetches := 0, affected := 0 }

end Statement

instance : NativeStatement Logged Statement where
  bindValue s key v := do
    note (.bind key v)
    match s.script.check .bind key.text 0 with
    | .error e => pure (.error e, s)
    | .ok () => pure (.ok (), { s with bound := s.bound ++ [⟨key, v⟩] })
  execute s := do
    note .execute
    match s.script.check .execute s.sql 0 with
    | .error e => pure (.error e, s)
    | .ok () => pure (.ok (), s.answer)
  fetch s := do
    note .fetch
    match s.script.check .fetch s.sql s.fetches with
    | .error e => pure (.error e, s)
    | .ok () =>
      pure (.ok s.rows.head?, { s with rows := s.rows.tail, fetches := s.fetches + 1 })
  rowCount s := s.affected
  closeCursor s := do
    note .close
    match s.script.check .close s.sql 0 with
    | .error e => pure (.error e, s)
    | .ok () => pure (.ok (), { s with rows := [] })
  unread s := s.rows.length

instance : NativeConnection Logged Statement Script where
  prepare script sql := do
    note (.prepare sql)
    pure ((script.check .prepare sql 0).map fun () => { script, sql })
  exec script sql := do
    note (.exec sql)
    pure ((script.check .exec sql 0).map fun () => 0)
  lastInsertedTable script := script.lastInsertedTable
  lastInsertId script sequence := do
    note (.lastInsertId sequence)
    pure ((script.check .lastInsertId (sequence.getD "") 0).map fun () => script.lastInsertId)

end RownumSql.Scripted
