import RownumSql.Document
import RownumSql.Number.Layout

/-!
# JSON text of a document

The compact form without any blanks, and the indented form with two blanks to a level.
-/

namespace RownumSql.Json

open RownumSql.Number RownumSql.Text

def hexDigit (n : Nat) : Char := Nat.digitChar (n % 16)

/-- A character inside a JSON string. -/
def escape (c : Char) : List Char :=
  if c = '"' then ['\\', '"']
  else if c = '\\' then ['\\', '\\']
  else if c = '\n' then ['\\', 'n']
  else if c = '\r' then ['\\', 'r']
  else if c = '\t' then ['\\', 't']
  else if c.toNat = 0x8 then ['\\', 'b']
  else if c.toNat = 0xc then ['\\', 'f']
  else if c.toNat < 0x20 then ['\\', 'u', '0', '0', hexDigit (c.toNat / 16), hexDigit c.toNat]
  else [c]

def quote (s : String) : String := String.ofList ('"' :: s.toList.flatMap escape ++ ['"'])

/-- A number, or null for one that JSON cannot write. -/
def numberText (x : Binary64) : String :=
  if x.isFinite then String.ofList (Layout.json.renderFinite x) else "null"

/-- The text of a document that is neither a list nor a table. -/
def scalarText : Document → String
  | .bool true => "true"
  | .bool false => "false"
  | .int n => toString n
  | .float x => numberText x
  | .text s => quote s
  | _ => "null"

/-! ## Compact -/

mutual
def compact : Document → String
  | .list items => "[" ++ ",".intercalate (compactItems items) ++ "]"
  | .table entries => "\x7b" ++ ",".intercalate (compactEntries entries) ++ "\x7d"
  | d => scalarText d

def compactItems : List Document → List String
  | [] => []
  | d :: ds => compact d :: compactItems ds

def compactEntries : List (String × Document) → List String
  | [] => []
  | (k, d) :: es => (quote k ++ ":" ++ compact d) :: compactEntries es
end

/-! ## Indented -/

def newLine (level : Nat) : String := String.ofList ('\n' :: List.replicate (2 * level) ' ')

/-- Parts one to a line between brackets; nothing between the brackets if there are no parts. -/
def block (level : Nat) (left right : String) (parts : List String) : String :=
  if parts.isEmpty then left ++ right
  else left ++ newLine (level + 1) ++ ("," ++ newLine (level + 1)).intercalate parts
    ++ newLine level ++ right

mutual
def indented (level : Nat) : Document → String
  | .list items => block level "[" "]" (indentedItems (level + 1) items)
  | .table entries => block level "\x7b" "\x7d" (indentedEntries (level + 1) entries)
  | d => scalarText d

def indentedItems (level : Nat) : List Document → List String
  | [] => []
  | d :: ds => indented level d :: indentedItems level ds

def indentedEntries (level : Nat) : List (String × Document) → List String
  | [] => []
  | (k, d) :: es => (quote k ++ ": " ++ indented level d) :: indentedEntries level es
end

end RownumSql.Json
