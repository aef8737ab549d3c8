import RownumSql.Identifier.AliasTable
import RownumSql.Text.LetterCase
import RownumSql.Text.Basic

/-!
# The dialect

How SQL is spelled for a server that numbers rows with `ROWNUM` and has neither a limit clause nor
truth values: quoted identifiers, literals, savepoints, the table `DUAL`, and the block that
switches foreign keys.
-/

namespace RownumSql

open RownumSql.Text

/-! ## Spellings on which servers differ -/

/-- The words of a server. -/
structure Spelling where
  yes : String
  no : String
  /-- Whether savepoints can be released. -/
  releases : Bool

namespace Spelling

/-- The words that most servers know. -/
def common : Spelling := ⟨"TRUE", "FALSE", true⟩

/-- The words of a server without truth values and without the release of savepoints. -/
def rownum : Spelling := ⟨"1", "0", false⟩

/-- The literal of a truth value. -/
def bool (s : Spelling) (b : Bool) : String := if b then s.yes else s.no

def literal (s : Spelling) (v : Value) : String := v.literal s.bool

def savepoint (_ : Spelling) (level : UInt32) : String :=
  "SAVEPOINT LEVEL" ++ toString level.toNat

/-- The statement that goes back to a savepoint. -/
def rollback (_ : Spelling) (level : UInt32) : String :=
  "ROLLBACK TO SAVEPOINT LEVEL" ++ toString level.toNat

/-- The statement that releases a savepoint, if there is one. -/
def release? (s : Spelling) (level : UInt32) : Option String :=
  if s.releases then some ("RELEASE SAVEPOINT LEVEL" ++ toString level.toNat) else none

/-- Whether constraints can be added and dropped after a table is made. -/
def dynamicConstraints (_ : Spelling) : Bool := true

end Spelling

/-! ## The dialect of a session -/

/-- What a session may choose. -/
structure Dialect where
  /-- Whether identifiers are put between double quotes. -/
  quotes : Bool := true
  /-- The owner of the tables, if it is not the user of the session. -/
  schema : Option String := none
deriving DecidableEq, Repr

namespace Dialect

def spelling (_ : Dialect) : Spelling := .rownum

/-- A character of an identifier that is more than a word. -/
def isPlainChar (c : Char) : Bool :=
  AliasTable.isWordChar c || c = '.' || c = '*' || c = '$' || c = '#'

/-- Whether the text is an identifier; all else is an expression and stays as it is. -/
def isPlain (s : String) : Bool := !s.toList.isEmpty && s.toList.all isPlainChar

/-- The parts of an identifier between points. -/
def parts (s : String) : List String := (s.toList.splitOn '.').map String.ofList

/-- One part of an identifier, shortened and quoted; a star stays as it is. -/
def quotePart (d : Dialect) (part : String) : StateM AliasTable String :=
  if part = "*" then pure part
  else do
    let short ← AliasTable.shorten part
    pure (if d.quotes then quoted '"' short else short)

/-- The parts of an identifier, shortened and quoted one after another. -/
def quoteParts (d : Dialect) : List String → StateM AliasTable (List String)
  | [] => pure []
  | part :: rest => do
    let first ← d.quotePart part
    let others ← d.quoteParts rest
    pure (first :: others)

/-- An identifier, shortened and quoted part by part. -/
def quote (d : Dialect) (name : String) : StateM AliasTable String :=
  if !isPlain name then pure name
  else do
    let quotedParts ← d.quoteParts (parts name)
    pure (".".intercalate quotedParts)

/-! ## Statements of its own -/

/-- Selects from the table `DUAL` when a selection reads from no table. -/
def addDual (sql : String) : String :=
  let statement := lowerChars (trimBlank sql.toList)
  if !"select".toList.isPrefixOf statement || containsText " from ".toList statement then sql
  else sql ++ " FROM DUAL"

/-- The block that does something to every foreign key of the schema. -/
def foreignKeyBlock (d : Dialect) (action : String) : String :=
  let fromWhere := match d.schema with
    | some schema =>
      "from sys.all_constraints\n                where owner = "
        ++ d.spelling.literal (.text (upper schema)) ++ " and constraint_type = 'R'"
    | none => "from sys.user_constraints\n                where constraint_type = 'R'"
  "declare\n            cursor c is select owner, table_name, constraint_name\n                "
    ++ fromWhere
    ++ ";\n            begin\n                for r in c loop\n"
    ++ "                    execute immediate 'alter table \"' || r.owner || '\".\"' || "
    ++ "r.table_name || '\" " ++ action ++ " constraint \"' || r.constraint_name || '\"';\n"
    ++ "                end loop;\n            end;"

def disableForeignKeys (d : Dialect) : String := d.foreignKeyBlock "disable"

def enableForeignKeys (d : Dialect) : String := d.foreignKeyBlock "enable"

end Dialect

end RownumSql
