import RownumSql.Calendar.Reader
import RownumSql.Document
import RownumSql.Number.Layout
import RownumSql.OrderedMap
import RownumSql.Text.Basic

/-!
# Values

The scalars that are bound to a statement and read back from a row, the views on them, and their
texts.
-/

namespace RownumSql

open RownumSql.Text RownumSql.Calendar

/-- A scalar. -/
inductive Value where
  | null
  | bool (b : Bool)
  | int (n : Int64)
  | float (x : Binary64)
  | moment (t : Moment)
  | date (d : Date)
  | text (s : String)
deriving DecidableEq, Inhabited

/-- A row: field names and their values, in column order. -/
abbrev Row := OrderedMap Value

namespace Value

/-! ## Making values -/

/-- A whole number without sign; beyond the greatest signed number it stands at that. -/
def ofUInt64 (n : UInt64) : Value := int (Int64.ofInt (min n.toNat Number.maxInt64))

/-- A whole number within 64 signed bits, and the nearest double beyond. -/
def ofInt (n : Int) : Value :=
  if Number.fitsInt64 n then int (Int64.ofInt n) else float (Binary64.ofInt n)

/-! ## Views -/

def isNull : Value → Bool
  | null => true
  | _ => false

def text? : Value → Option String
  | text s => some s
  | _ => none

/-- A number as a signed one of 64 bits, the nearest bound if it is beyond. -/
def clampInt64 (n : Int) : Int64 := Int64.ofInt (max Number.minInt64 (min Number.maxInt64 n))

/-- The whole number that a value stands for: an integer, a whole double, or a text that spells
one. -/
def int? : Value → Option Int64
  | int n => some n
  | float x => x.toInt?.map clampInt64
  | text s => (readBounded? Number.minInt64 Number.maxInt64 (trimBlank s.toList)).map Int64.ofInt
  | _ => none

/-- The nonnegative whole number below `2 ^ 32` that a value stands for. -/
def uint32? (v : Value) : Option UInt32 := do
  let n ← v.int?
  if 0 ≤ n.toInt && n.toInt < UInt32.size then some (UInt32.ofNat n.toInt.toNat) else none

/-! ## Equality of contents -/

/-- Equality as numbers compare: the two zeros are equal, and the undefined number equals
nothing. -/
def same : Value → Value → Bool
  | float x, float y => x.same y
  | v, w => v == w

/-! ## Texts -/

/-- The text of a value in messages and listings. -/
def plainText : Value → String
  | null => "NULL"
  | bool true => "true"
  | bool false => "false"
  | int n => toString n.toInt
  | float x => Number.plainText x
  | moment t => "'" ++ String.ofList t.plainChars ++ "'"
  | date d => "'" ++ String.ofList d.chars ++ "'"
  | text s => "'" ++ s ++ "'"

/-- The SQL literal of a value; `bool` spells truth values. -/
def literal (spell : Bool → String) : Value → String
  | bool b => spell b
  | text s => quoted '\'' s
  | v => v.plainText

/-! ## Documents -/

/-- The document of a value; dates and moments become texts, and a number that is not finite
becomes null. -/
def toDocument : Value → Document
  | null => .null
  | bool b => .bool b
  | int n => .int n.toInt
  | float x => if x.isFinite then .float x else .null
  | moment t => .text (String.ofList t.chars)
  | date d => .text (String.ofList d.chars)
  | text s => .text s

/-- The value of a text: a moment if it reads as one, else a date if it reads as one. -/
def ofText (s : String) : Value :=
  match readMoment? s.toList with
  | some t => moment t
  | none =>
    match readDate? s.toList with
    | some d => date d
    | none => text s

/-- The value of a scalar document. -/
def ofDocument? : Document → Option Value
  | .null => some null
  | .bool b => some (bool b)
  | .int n => some (ofInt n)
  | .float x => some (float x)
  | .text s => some (ofText s)
  | _ => none

end Value

/-- The row of a table of scalars. -/
def Row.ofDocument? : Document → Option Row
  | .table entries => do
    let fields ← entries.mapM fun e => (Value.ofDocument? e.2).map (e.1, ·)
    pure (OrderedMap.ofList fields)
  | _ => none

end RownumSql
