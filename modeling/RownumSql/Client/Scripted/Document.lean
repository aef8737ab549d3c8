import RownumSql.Client.Scripted

/-!
# Documents of scripts

What a scripted client is told, read from a document.
-/

namespace RownumSql.Scripted

def Response.ofDocument? (d : Document) : Option Response := do
  let fields ← d.fields? .json ["match", "rows", "affected"]
  let affected ← Document.optional? fields "affected" Document.uint64?
  pure
    { pattern := ← Document.required? fields "match" Document.text?
      rows := ← Document.defaulted? fields "rows" (Document.list? Row.ofDocument?) []
      affected := affected.map UInt64.toNat }

/-- The error of a kind; of an unknown kind, that the server rejects the statement. -/
def errorOfKind (kind message : String) : SqlError :=
  if kind = "Connection" then .connection message
  else if kind = "Database" then .database message
  else if kind = "Io" then .file message
  else .execution message

/-- The failure of a document, if it is of a kind of call that there is. -/
def Failure.ofDocument? (d : Document) : Option (Option Failure) := do
  let fields ← d.fields? .json ["at", "match", "kind", "message", "after"]
  let call ← Document.required? fields "at" Document.text?
  let pattern ← Document.defaulted? fields "match" Document.text? ""
  let kind ← Document.required? fields "kind" Document.text?
  let message ← Document.required? fields "message" Document.text?
  let after ← Document.defaulted? fields "after" Document.uint64? 0
  pure ((CallKind.names.lookup call).map fun call =>
    { kind := call, pattern, after := after.toNat, error := errorOfKind kind message })

def Script.ofDocument? (d : Document) : Option Script := do
  let fields ← d.fields? .json ["responses", "failures", "last_inserted_table", "last_insert_id"]
  let failures ← Document.defaulted? fields "failures" (Document.list? Failure.ofDocument?) []
  let lastInsertId ← Document.optional? fields "last_insert_id" Value.ofDocument?
  pure
    { responses :=
        ← Document.defaulted? fields "responses" (Document.list? Response.ofDocument?) []
      failures := failures.filterMap id
      lastInsertedTable := ← Document.optional? fields "last_inserted_table" Document.text?
      lastInsertId := lastInsertId.getD (.int 42) }

end RownumSql.Scripted
