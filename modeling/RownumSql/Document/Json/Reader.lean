import RownumSql.Document
import RownumSql.OrderedMap
import RownumSql.Text.Numeral

/-!
# Reading JSON

A whole number within 64 bits, signed or not, is read as such and every other number as the nearest
double; of a repeated key the last value counts.
-/

namespace RownumSql.Json

open RownumSql.Text

/-- A reader takes what it reads off the front of the text. -/
abbrev Reader (α : Type) := List Char → Option (α × List Char)

/-- The text without the blanks of JSON in front. -/
def skipSpace (cs : List Char) : List Char :=
  cs.dropWhile fun c => c = ' ' || c = '\n' || c = '\r' || c = '\t'

/-! ## Numbers -/

/-- A run of digits, at least one. -/
def readDigits (cs : List Char) : Option (List Char × List Char) :=
  let ds := cs.takeWhile isDigit
  if ds.isEmpty then none else some (ds, cs.drop ds.length)

/-- The digits after a point, if there is one. -/
def readFraction : List Char → Option (List Char × List Char)
  | '.' :: cs => readDigits cs
  | cs => some ([], cs)

/-- The digits of an exponent with its sign. -/
def readSigned : List Char → Option (Int × List Char)
  | '-' :: cs => (readDigits cs).map fun (ds, rest) => (-(digitsValue ds : Int), rest)
  | '+' :: cs => (readDigits cs).map fun (ds, rest) => ((digitsValue ds : Int), rest)
  | cs => (readDigits cs).map fun (ds, rest) => ((digitsValue ds : Int), rest)

/-- An exponent, if there is one. -/
def readExponent : List Char → Option (Option Int × List Char)
  | 'e' :: cs => (readSigned cs).map fun (n, rest) => (some n, rest)
  | 'E' :: cs => (readSigned cs).map fun (n, rest) => (some n, rest)
  | cs => some (none, cs)

/-- A whole number as a document: a double when it does not fit into 64 bits, or is minus zero. -/
def wholeNumber (negative : Bool) (n : Nat) : Document :=
  let i : Int := if negative then -(n : Int) else n
  if negative && n = 0 then .float (Binary64.zero true)
  else if Number.minInt64 ≤ i && i < UInt64.size then .int i
  else .float (Binary64.ofInt i)

/-- A number after its sign. -/
def readMagnitude (negative : Bool) : Reader Document := fun cs => do
  let (whole, cs) ← readDigits cs
  guard (whole.length = 1 || whole.head? ≠ some '0')
  let (fraction, cs) ← readFraction cs
  let (exponent, cs) ← readExponent cs
  if fraction.isEmpty && exponent.isNone then pure (wholeNumber negative (digitsValue whole), cs)
  else
    let digits := digitsValue (whole ++ fraction)
    let shift := exponent.getD 0 - fraction.length
    pure (.float (Binary64.ofDecimal negative digits shift), cs)

/-! ## Strings -/

def hexValue? (c : Char) : Option Nat :=
  if isDigit c then some (c.toNat - '0'.toNat)
  else if 'a' ≤ c && c ≤ 'f' then some (c.toNat - 'a'.toNat + 10)
  else if 'A' ≤ c && c ≤ 'F' then some (c.toNat - 'A'.toNat + 10)
  else none

/-- The number that hexadecimal digits denote. -/
def hexNumber? (cs : List Char) : Option Nat :=
  cs.foldlM (fun n c => (hexValue? c).map (16 * n + ·)) 0

/-- The character of a code point, if it has one. -/
def char? (n : Nat) : Option Char := if n.isValidChar then some (Char.ofNat n) else none

/-- What follows a backslash and `u`: one unit of four digits, or two that make a pair. -/
def readUnits : List Char → Option (Char × List Char)
  | a :: b :: c :: d :: cs => do
    let n ← hexNumber? [a, b, c, d]
    if 0xd800 ≤ n && n < 0xdc00 then
      match cs with
      | '\\' :: 'u' :: e :: f :: g :: h :: rest =>
        let low ← hexNumber? [e, f, g, h]
        guard (0xdc00 ≤ low && low < 0xe000)
        pure (← char? (0x10000 + (n - 0xd800) * 0x400 + (low - 0xdc00)), rest)
      | _ => none
    else pure (← char? n, cs)
  | _ => none

/-- What follows a backslash. -/
def readEscape : List Char → Option (Char × List Char)
  | '"' :: cs => some ('"', cs)
  | '\\' :: cs => some ('\\', cs)
  | '/' :: cs => some ('/', cs)
  | 'b' :: cs => some (Char.ofNat 0x8, cs)
  | 'f' :: cs => some (Char.ofNat 0xc, cs)
  | 'n' :: cs => some ('\n', cs)
  | 'r' :: cs => some ('\r', cs)
  | 't' :: cs => some ('\t', cs)
  | 'u' :: cs => readUnits cs
  | _ => none

/-- The characters of a string up to its closing quote. -/
def readStringTail : Nat → List Char → List Char → Option (String × List Char)
  | _, acc, '"' :: cs => some (String.ofList acc.reverse, cs)
  | n + 1, acc, '\\' :: cs => do
    let (c, rest) ← readEscape cs
    readStringTail n (c :: acc) rest
  | n + 1, acc, c :: cs => if c.toNat < 0x20 then none else readStringTail n (c :: acc) cs
  | _, _, _ => none

/-- A string after its opening quote. -/
def readString : Reader String := fun cs => readStringTail cs.length [] cs

/-! ## Lists and tables -/

/-- Items separated by commas up to a closing bracket. -/
def readItems (item : Reader Document) : Nat → Reader (List Document)
  | 0, _ => none
  | n + 1, cs => do
    let (d, cs) ← item cs
    match skipSpace cs with
    | ',' :: cs => (readItems item n cs).map fun (ds, rest) => (d :: ds, rest)
    | ']' :: cs => pure ([d], cs)
    | _ => none

/-- A key, a colon and a value. -/
def readEntry (item : Reader Document) : Reader (String × Document) := fun cs =>
  match skipSpace cs with
  | '"' :: cs => do
    let (key, cs) ← readString cs
    match skipSpace cs with
    | ':' :: cs => (item cs).map fun (d, rest) => ((key, d), rest)
    | _ => none
  | _ => none

/-- Entries separated by commas up to a closing brace. -/
def readEntries (item : Reader Document) : Nat → Reader (List (String × Document))
  | 0, _ => none
  | n + 1, cs => do
    let (e, cs) ← readEntry item cs
    match skipSpace cs with
    | ',' :: cs => (readEntries item n cs).map fun (es, rest) => (e :: es, rest)
    | '\x7d' :: cs => pure ([e], cs)
    | _ => none

/-- A value whose lists and tables hold what `inner` reads. -/
def readValueWith (inner : Option (Reader Document)) : Reader Document := fun cs =>
  match skipSpace cs with
  | 'n' :: 'u' :: 'l' :: 'l' :: cs => some (.null, cs)
  | 't' :: 'r' :: 'u' :: 'e' :: cs => some (.bool true, cs)
  | 'f' :: 'a' :: 'l' :: 's' :: 'e' :: cs => some (.bool false, cs)
  | '"' :: cs => (readString cs).map fun (s, rest) => (.text s, rest)
  | '-' :: cs => readMagnitude true cs
  | '[' :: cs => do
    let item ← inner
    match skipSpace cs with
    | ']' :: cs => pure (.list [], cs)
    | cs => (readItems item cs.length cs).map fun (ds, rest) => (.list ds, rest)
  | '\x7b' :: cs => do
    let item ← inner
    match skipSpace cs with
    | '\x7d' :: cs => pure (.table [], cs)
    | cs => (readEntries item cs.length cs).map fun (es, rest) =>
        (.table (OrderedMap.ofList es).entries, rest)
  | cs => readMagnitude false cs

/-- A value of at most the given depth. -/
def readValue : Nat → Reader Document
  | 0 => readValueWith none
  | n + 1 => readValueWith (some (readValue n))

/-- The document that a whole text denotes; it is not deeper than the text is long. -/
def document? (s : String) : Option Document :=
  match readValue s.length s.toList with
  | some (d, rest) => if (skipSpace rest).isEmpty then some d else none
  | none => none

end RownumSql.Json
