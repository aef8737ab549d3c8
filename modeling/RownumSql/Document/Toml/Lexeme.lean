import RownumSql.Document.Json.Reader

/-!
# Lexemes of TOML

Blanks, comments and line ends, the four kinds of string, and keys.
-/

namespace RownumSql.Toml

open RownumSql.Text
open RownumSql.Json (hexNumber? char?)

/-! ## Between the lexemes -/

/-- The text without spaces and tabs in front. -/
def skipSpace (cs : List Char) : List Char := cs.dropWhile fun c => c = ' ' || c = '\t'

/-- A character that may stand in a comment. -/
def isCommentChar (c : Char) : Bool := c = '\t' || (0x20 ≤ c.toNat && c.toNat ≠ 0x7f)

/-- The text after a comment, if it starts with one. -/
def skipComment : List Char → List Char
  | '#' :: cs => cs.dropWhile isCommentChar
  | cs => cs

/-- The text after the end of a line. -/
def lineEnd? : List Char → Option (List Char)
  | '\n' :: cs => some cs
  | '\r' :: '\n' :: cs => some cs
  | _ => none

/-- The text after blanks, a comment, and the end of the line or of the text. -/
def endLine? (cs : List Char) : Option (List Char) :=
  match skipComment (skipSpace cs) with
  | [] => some []
  | cs => lineEnd? cs

/-- The text after blanks, comments and line ends, as they may stand inside a list. -/
def skipLines : Nat → List Char → List Char
  | 0, cs => cs
  | n + 1, cs =>
    match lineEnd? (skipComment (skipSpace cs)) with
    | some rest => skipLines n rest
    | none => skipSpace cs

/-! ## Strings -/

/-- A character that may stand in a string as it is; the quote of the string is seen to first. -/
def isPlainChar (c : Char) : Bool := c = '\t' || (0x20 ≤ c.toNat && c.toNat ≠ 0x7f)

/-- A code point of `width` hexadecimal digits. -/
def readCodePoint (width : Nat) (cs : List Char) : Option (Char × List Char) := do
  let ds := cs.take width
  guard (ds.length = width)
  pure (← char? (← hexNumber? ds), cs.drop width)

/-- What follows a backslash. -/
def readEscape : List Char → Option (Char × List Char)
  | '"' :: cs => some ('"', cs)
  | '\\' :: cs => some ('\\', cs)
  | 'b' :: cs => some (Char.ofNat 0x8, cs)
  | 'f' :: cs => some (Char.ofNat 0xc, cs)
  | 'n' :: cs => some ('\n', cs)
  | 'r' :: cs => some ('\r', cs)
  | 't' :: cs => some ('\t', cs)
  | 'u' :: cs => readCodePoint 4 cs
  | 'U' :: cs => readCodePoint 8 cs
  | _ => none

/-- The rest of a string on one line; only a double quote brings escapes. -/
def readLineString (quote : Char) : Nat → List Char → List Char → Option (String × List Char)
  | 0, _, _ => none
  | n + 1, acc, c :: cs =>
    if c = quote then some (String.ofList acc.reverse, cs)
    else if c = '\\' && quote = '"' then do
      let (e, rest) ← readEscape cs
      readLineString quote n (e :: acc) rest
    else if isPlainChar c then readLineString quote n (c :: acc) cs
    else none
  | _, _, [] => none

/-- The text without blanks and line ends in front. -/
def skipBlankLines : List Char → List Char
  | '\r' :: '\n' :: cs => skipBlankLines cs
  | c :: cs => if c = ' ' || c = '\t' || c = '\n' then skipBlankLines cs else c :: cs
  | [] => []

/-- After a backslash, blanks up to the end of the line and all blank lines that follow. -/
def skipFold? (cs : List Char) : Option (List Char) := (lineEnd? (skipSpace cs)).map skipBlankLines

/-- The rest of a string over several lines.  Three quotes end it, and up to two more in front of
those are part of it. -/
def readBlockString (quote : Char) : Nat → List Char → List Char → Option (String × List Char)
  | 0, _, _ => none
  | n + 1, acc, cs =>
    let run := min 5 (cs.takeWhile (· = quote)).length
    if 3 ≤ run then
      some (String.ofList (List.replicate (run - 3) quote ++ acc).reverse, cs.drop run)
    else match cs with
      | [] => none
      | c :: rest =>
        if c = '\\' && quote = '"' then
          match skipFold? rest with
          | some rest => readBlockString quote n acc rest
          | none => do
            let (e, rest) ← readEscape rest
            readBlockString quote n (e :: acc) rest
        else match lineEnd? cs with
          | some rest => readBlockString quote n ('\n' :: acc) rest
          | none => if isPlainChar c then readBlockString quote n (c :: acc) rest else none

/-- A string on one line, from its opening quote on. -/
def readKeyString : List Char → Option (String × List Char)
  | '"' :: cs => readLineString '"' (cs.length + 1) [] cs
  | '\'' :: cs => readLineString '\'' (cs.length + 1) [] cs
  | _ => none

/-- A string of any kind, from its opening quote on; a line end after three quotes is dropped. -/
def readString : List Char → Option (String × List Char)
  | '"' :: '"' :: '"' :: cs =>
    let body := (lineEnd? cs).getD cs
    readBlockString '"' (body.length + 1) [] body
  | '\'' :: '\'' :: '\'' :: cs =>
    let body := (lineEnd? cs).getD cs
    readBlockString '\'' (body.length + 1) [] body
  | cs => readKeyString cs

/-! ## Keys -/

/-- A character of a key without quotes. -/
def isBareKeyChar (c : Char) : Bool := c.isAlphanum || c = '_' || c = '-'

def readKeyPart (cs : List Char) : Option (String × List Char) :=
  match cs with
  | '"' :: _ => readKeyString cs
  | '\'' :: _ => readKeyString cs
  | _ =>
    let bare := cs.takeWhile isBareKeyChar
    if bare.isEmpty then none else some (String.ofList bare, cs.drop bare.length)

/-- The parts of a key between points, with blanks around them. -/
def readKeyParts : Nat → List Char → Option (List String × List Char)
  | 0, _ => none
  | n + 1, cs => do
    let (part, cs) ← readKeyPart (skipSpace cs)
    match skipSpace cs with
    | '.' :: cs => (readKeyParts n cs).map fun (parts, rest) => (part :: parts, rest)
    | cs => pure ([part], cs)

/-- A key of any number of parts below the bound on nesting. -/
def readKey (cs : List Char) : Option (List String × List Char) :=
  (readKeyParts (cs.length + 1) cs).filter fun (parts, _) => parts.length < 80

end RownumSql.Toml
