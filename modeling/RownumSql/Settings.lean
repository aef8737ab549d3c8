import RownumSql.Dialect
import RownumSql.Document.Toml.Reader
import RownumSql.File
import RownumSql.SqlError

/-!
# Settings

What a session can be told: in a file of the working directory, in one of the user, or nowhere, for
every setting has a default.
-/

namespace RownumSql

/-- The settings of a session. -/
structure Settings where
  /-- Words up to this length are left alone. -/
  maxIdentifierLength : UInt64 := 30
  /-- What an alias begins with. -/
  aliasStem : String := "XXAUTO_SHORTENED_ID"
  /-- Whether identifiers are put between double quotes. -/
  quotes : Bool := true
  /-- The owner of the tables, if it is not the user of the session. -/
  schema : Option String := none
  /-- Whether rows are held in memory. -/
  buffersResults : Bool := true
  /-- Statements that are run after connecting. -/
  init : List String := []
deriving DecidableEq, Repr

namespace Settings

/-- Has dates written as text in one form only. -/
def dateFormats : String :=
  "ALTER SESSION SET NLS_DATE_FORMAT='YYYY-MM-DD HH24:MI:SS' "
    ++ "NLS_TIMESTAMP_FORMAT='YYYY-MM-DD HH24:MI:SS' "
    ++ "NLS_TIMESTAMP_TZ_FORMAT='YYYY-MM-DD HH24:MI:SS'"

/-- The statements that are run after connecting, in order. -/
def sessionInit (s : Settings) : List String := dateFormats :: s.init

def dialect (s : Settings) : Dialect := ⟨s.quotes, s.schema⟩

/-- The table of aliases that a session with these settings begins with. -/
def aliases (s : Settings) : AliasTable :=
  { maxLength := s.maxIdentifierLength.toNat, stem := s.aliasStem }

def ofDocument? (f : Document.Format) (d : Document) : Option Settings := do
  let fields ← d.fields? f
    ["max_identifier_length", "shortened_prefix", "quote_identifiers", "schema", "buffer_results",
     "init"]
  pure
    { maxIdentifierLength :=
        ← Document.defaulted? fields "max_identifier_length" Document.uint64? 30
      aliasStem :=
        ← Document.defaulted? fields "shortened_prefix" Document.text? "XXAUTO_SHORTENED_ID"
      quotes := ← Document.defaulted? fields "quote_identifiers" Document.bool? true
      schema := ← Document.optional? fields "schema" Document.text?
      buffersResults := ← Document.defaulted? fields "buffer_results" Document.bool? true
      init := ← Document.defaulted? fields "init" (Document.list? Document.text?) [] }

def toDocument (s : Settings) : Document :=
  .table
    [("max_identifier_length", .int s.maxIdentifierLength.toNat),
     ("shortened_prefix", .text s.aliasStem),
     ("quote_identifiers", .bool s.quotes),
     ("schema", .ofText? s.schema),
     ("buffer_results", .bool s.buffersResults),
     ("init", .ofTexts s.init)]

/-! ## Files -/

def load {m : Type → Type} [Monad m] (files : Files m) (path : String) :
    m (Except SqlError Settings) := do
  match ← files.read path with
  | .error fault => pure (.error (.file fault.message))
  | .ok text =>
    match (Toml.document? text).bind (ofDocument? .toml) with
    | some s => pure (.ok s)
    | none => pure (.error (.settings path))

/-- The files that settings are looked for in: that of the working directory, and that of the
user. -/
def searchPaths (userDirectory : Option String) : List String :=
  "qail-oracle.toml" :: (userDirectory.map (· ++ "/qail/oracle.toml")).toList

/-- The first of the paths that exists. -/
def firstExisting {m : Type → Type} [Monad m] (files : Files m) : List String → m (Option String)
  | [] => pure none
  | path :: rest => do
    if ← files.exist path then pure (some path) else firstExisting files rest

/-- The settings of the first file that exists, or the defaults. -/
def loadFirst {m : Type → Type} [Monad m] (files : Files m) (paths : List String) :
    m (Except SqlError Settings) := do
  match ← firstExisting files paths with
  | some path => load files path
  | none => pure (.ok {})

end Settings

end RownumSql
