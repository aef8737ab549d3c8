import RownumSql.Document.Toml.Scalar
import RownumSql.Document.Toml.Table

/-!
# Reading TOML

Values, and the lines of a text with its headers and keys.  Lists and inline tables nested deeper
than `maxDepth` are refused.
-/

namespace RownumSql.Toml

/-- The deepest nesting of lists and inline tables that is read. -/
def maxDepth : Nat := 79

/-- A reader takes what it reads off the front of the text. -/
abbrev Reader (α : Type) := List Char → Option (α × List Char)

/-! ## Values -/

/-- Items up to a closing bracket, with commas between and perhaps one at the end. -/
def readItems (item : Reader Document) : Nat → Reader (List Document)
  | 0, _ => none
  | n + 1, cs =>
    match skipLines cs.length cs with
    | ']' :: rest => some ([], rest)
    | cs => do
      let (d, cs) ← item cs
      match skipLines cs.length cs with
      | ',' :: rest => (readItems item n rest).map fun (ds, rest) => (d :: ds, rest)
      | ']' :: rest => pure ([d], rest)
      | _ => none

/-- A key, an equals sign and a value. -/
def readPair (item : Reader Document) : Reader (List String × Document) := fun cs => do
  let (path, cs) ← readKey cs
  match cs with
  | '=' :: cs => (item (skipSpace cs)).map fun (d, rest) => ((path, d), rest)
  | _ => none

/-- The pairs of an inline table up to its closing brace, put into the table. -/
def readPairs (item : Reader Document) : Nat → Growing → Reader Growing
  | 0, _, _ => none
  | n + 1, t, cs => do
    let ((path, d), cs) ← readPair item cs
    let t ← putValue path d t
    match skipSpace cs with
    | ',' :: rest => readPairs item n t rest
    | '\x7d' :: rest => pure (t, rest)
    | _ => none

/-- A value whose lists and inline tables hold what `inner` reads. -/
def readValueWith (inner : Option (Reader Document)) : Reader Document := fun cs =>
  match cs with
  | '"' :: _ => (readString cs).map fun (s, rest) => (.text s, rest)
  | '\'' :: _ => (readString cs).map fun (s, rest) => (.text s, rest)
  | '[' :: rest => do
    let item ← inner
    (readItems item (rest.length + 1) rest).map fun (ds, rest) => (.list ds, rest)
  | '\x7b' :: rest => do
    let item ← inner
    match skipSpace rest with
    | '\x7d' :: rest => pure (.table [], rest)
    | rest =>
      (readPairs item (rest.length + 1) ⟨.headed, []⟩ rest).map fun (t, rest) =>
        (.table (entryDocuments t.entries), rest)
  | _ => readScalar cs

/-- A value of at most the given depth. -/
def readValue : Nat → Reader Document
  | 0 => readValueWith none
  | n + 1 => readValueWith (some (readValue n))

/-! ## Lines -/

/-- The tree so far, and the path of the table that was opened last. -/
structure State where
  root : Growing := ⟨.headed, []⟩
  opened : List String := []

/-- A header, from after its first bracket to the end of its line. -/
def readHeader (s : State) : List Char → Option (State × List Char)
  | '[' :: cs => do
    let (path, cs) ← readKey cs
    match cs with
    | ']' :: ']' :: cs => pure ({ root := ← openSeries path s.root, opened := path }, ← endLine? cs)
    | _ => none
  | cs => do
    let (path, cs) ← readKey cs
    match cs with
    | ']' :: cs => pure ({ root := ← openTable path s.root, opened := path }, ← endLine? cs)
    | _ => none

/-- One line: blank, a header, or a key with its value. -/
def readLine (s : State) (cs : List Char) : Option (State × List Char) :=
  match skipSpace cs with
  | '[' :: cs => readHeader s cs
  | cs =>
    match endLine? cs with
    | some rest => some (s, rest)
    | none => do
      let ((path, d), cs) ← readPair (readValue maxDepth) cs
      let root ← putInto s.opened path d s.root
      pure ({ s with root }, ← endLine? cs)

def readLines : Nat → State → List Char → Option State
  | _, s, [] => some s
  | 0, _, _ => none
  | n + 1, s, cs => do
    let (s, rest) ← readLine s cs
    readLines n s rest

/-- The table that a whole text denotes; a byte order mark in front does not count. -/
def document? (text : String) : Option Document :=
  let cs := match text.toList with
    | '\ufeff' :: cs => cs
    | cs => cs
  (readLines (cs.length + 1) {} cs).map fun s => .table (entryDocuments s.root.entries)

end RownumSql.Toml
