import RownumSql.CommandLine.Help
import RownumSql.Document.Json.Printer
import RownumSql.Settings
import RownumSql.Statement.Compile
import RownumSql.Table.Definition
import RownumSql.Table.Document

/-!
# Commands

What each command shows, and how a run ends.
-/

namespace RownumSql.CommandLine

/-! ## Runs -/

/-- What a run leaves. -/
structure Outcome where
  exit : UInt32
  stdout : String
  stderr : String
deriving DecidableEq, Repr

/-- What a command has shown, and the message of what stopped it. -/
structure Shown where
  lines : List String
  failure : Option String := none
deriving DecidableEq, Repr

def linesText (lines : List String) : String := String.join (lines.map (· ++ "\n"))

/-- A run that ends as a command did. -/
def Shown.outcome (s : Shown) : Outcome :=
  match s.failure with
  | none => ⟨0, linesText s.lines, ""⟩
  | some message => ⟨1, linesText s.lines, "Error: " ++ message ++ "\n"⟩

/-- The message of an error and of what caused it. -/
def chainMessage : SqlError → String
  | .file reason => (SqlError.file reason).message ++ ": " ++ reason
  | e => e.message

/-- The lines that list the aliases; none if there are none. -/
def aliasLines (t : AliasTable) : List String :=
  if t.entries.isEmpty then []
  else "" :: "Shortened identifiers:" :: t.entries.map fun e => "  " ++ e.1 ++ " ← " ++ e.2

/-! ## Commands -/

def queryLines (format : Format) (c : CompiledQuery) (aliases : AliasTable) : List String :=
  match format with
  | .json => [Json.indented 0 c.toDocument]
  | .sql =>
    let bindings := if c.bindings.isEmpty then []
      else "" :: "Bindings:" ::
        c.bindings.map fun b => "  " ++ b.key.text ++ " = " ++ b.value.plainText
    "Generated SQL:" :: Dialect.addDual c.sql :: bindings ++ aliasLines aliases

def showQuery (settings : Settings) (format : Format) (q : Query) : Shown :=
  let compilation := settings.dialect.compile settings.aliases q
  match compilation.result with
  | .error e => ⟨[], some (chainMessage e)⟩
  | .ok c => ⟨queryLines format c compilation.aliases, none⟩

def showTable (settings : Settings) (constraints truncate : Bool) (t : Table) : Shown :=
  let d := settings.dialect
  let statements := if truncate then Define.truncateTable d t else Define.createTable d t
  match statements.run settings.aliases with
  | (.error e, _) => ⟨[], some (chainMessage e)⟩
  | (.ok texts, aliases) =>
    let lines := texts.map (· ++ ";")
    if !constraints then ⟨lines ++ aliasLines aliases, none⟩
    else match (Define.addForeignKeys d t).run aliases with
      | (.error e, _) => ⟨lines ++ [""], some (chainMessage e)⟩
      | (.ok texts, aliases) => ⟨lines ++ "" :: texts ++ aliasLines aliases, none⟩

def shortenLines : List String → AliasTable → List String
  | [], _ => []
  | s :: rest, t =>
    let (short, t) := (AliasTable.shorten s).run t
    let line := if short = s then "  = " ++ s else "  " ++ short ++ " ← " ++ s
    line :: shortenLines rest t

variable {m : Type → Type} [Monad m]

def readDocument {α : Type} (files : Files m) (path : String) (read : Document → Option α) :
    m (Except String α) := do
  match ← files.read path with
  | .error fault => pure (.error ("Cannot read " ++ path ++ ": " ++ fault.message))
  | .ok text =>
    match (Toml.document? text).bind read with
    | some a => pure (.ok a)
    | none => pure (.error ("Invalid document " ++ path))

/-- Carries out a command under the given settings. -/
def runCommand (files : Files m) (settings : Settings) : Command → m Shown
  | .compile file format => do
    match ← readDocument files file (Query.ofDocument? .toml) with
    | .error message => pure ⟨[], some message⟩
    | .ok q => pure (showQuery settings format q)
  | .define file constraints truncate => do
    match ← readDocument files file (Table.ofDocument? .toml) with
    | .error message => pure ⟨[], some message⟩
    | .ok t => pure (showTable settings constraints truncate t)
  | .shorten identifiers => pure ⟨shortenLines identifiers settings.aliases, none⟩
  | .foreignKeys enable =>
    let d := settings.dialect
    pure ⟨[if enable then d.enableForeignKeys else d.disableForeignKeys], none⟩

/-- The settings of a run: those of the named file, or of the first that exists. -/
def runSettings (files : Files m) (paths : List String) (named : Option String) :
    m (Except SqlError Settings) :=
  match named with
  | some path => Settings.load files path
  | none => Settings.loadFirst files paths

/-- Runs a command line.  Settings are looked for in `paths` unless a file is named, by an option
or by `named`. -/
def run (files : Files m) (paths : List String) (named : Option String) (words : List String) :
    m Outcome := do
  match readInvocation named words with
  | .error .version => pure ⟨0, "qail-oracle 0.3.0\n", ""⟩
  | .error (.help topic) => pure ⟨0, linesText (helpLines named topic), ""⟩
  | .error .usage => pure ⟨2, "", linesText [usageLine none]⟩
  | .ok invocation => do
    match ← runSettings files paths invocation.settings with
    | .error e => pure (Shown.outcome ⟨[], some (chainMessage e)⟩)
    | .ok settings => do
      let shown ← runCommand files settings invocation.command
      pure shown.outcome

end RownumSql.CommandLine
