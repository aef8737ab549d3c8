import RownumSql.Calendar.Date
import RownumSql.Document.Toml.Lexeme

/-!
# Numbers and times of TOML
-/

namespace RownumSql.Toml

open RownumSql.Text
open RownumSql.Json (hexValue?)

/-! ## Numbers -/

/-- A run of digits in which single underscores may stand between two digits. -/
def readDigitRun (digit : Char → Bool) : List Char → List Char × List Char
  | '_' :: c :: cs =>
    if digit c then let (ds, rest) := readDigitRun digit cs; (c :: ds, rest)
    else ([], '_' :: c :: cs)
  | c :: cs =>
    if digit c then let (ds, rest) := readDigitRun digit cs; (c :: ds, rest)
    else ([], c :: cs)
  | [] => ([], [])

/-- A run that starts with a digit. -/
def readDigits (digit : Char → Bool) (cs : List Char) : Option (List Char × List Char) :=
  match cs with
  | c :: _ => if digit c then some (readDigitRun digit cs) else none
  | [] => none

/-- Decimal digits without a zero in front, save for zero itself. -/
def readWhole : List Char → Option (List Char × List Char)
  | '0' :: cs => some (['0'], cs)
  | cs => readDigits isDigit cs

/-- A sign, if there is one; true for a minus. -/
def readSign : List Char → Bool × List Char
  | '-' :: cs => (true, cs)
  | '+' :: cs => (false, cs)
  | cs => (false, cs)

/-- The digits after a point, if there is one. -/
def readFraction : List Char → Option (List Char × List Char)
  | '.' :: cs => readDigits isDigit cs
  | cs => some ([], cs)

/-- An exponent, if there is one. -/
def readExponent : List Char → Option (Option Int × List Char)
  | c :: cs =>
    if c = 'e' || c = 'E' then do
      let (negative, cs) := readSign cs
      let (ds, rest) ← readDigits isDigit cs
      let n : Int := digitsValue ds
      pure (some (if negative then -n else n), rest)
    else some (none, c :: cs)
  | [] => some (none, [])

/-- A whole number, if it has 64 bits. -/
def int64? (negative : Bool) (n : Nat) : Option Document :=
  let i : Int := if negative then -(n : Int) else n
  if Number.fitsInt64 i then some (.int i) else none

/-- A decimal number after its sign.  Positive numbers beyond the greatest double are refused. -/
def readDecimal (negative : Bool) (cs : List Char) : Option (Document × List Char) := do
  let (whole, cs) ← readWhole cs
  let (fraction, cs) ← readFraction cs
  let (exponent, cs) ← readExponent cs
  if fraction.isEmpty && exponent.isNone then
    pure (← int64? negative (digitsValue whole), cs)
  else
    let shift := exponent.getD 0 - fraction.length
    let x := Binary64.ofDecimal negative (digitsValue (whole ++ fraction)) shift
    guard (x.isFinite || negative)
    pure (.float x, cs)

/-- A whole number in another base, after the mark of the base. -/
def readBased (base : Nat) (cs : List Char) : Option (Document × List Char) := do
  let (ds, rest) ← readDigits (fun c => (hexValue? c).any (· < base)) cs
  let n := ds.foldl (fun n c => base * n + (hexValue? c).getD 0) 0
  pure (← int64? false n, rest)

def readNumber : List Char → Option (Document × List Char)
  | '0' :: 'x' :: cs => readBased 16 cs
  | '0' :: 'o' :: cs => readBased 8 cs
  | '0' :: 'b' :: cs => readBased 2 cs
  | cs =>
    let (negative, cs) := readSign cs
    match cs with
    | 'i' :: 'n' :: 'f' :: cs => some (.float (Binary64.infinity negative), cs)
    | 'n' :: 'a' :: 'n' :: cs => some (.float (Binary64.nan negative), cs)
    | cs => readDecimal negative cs

/-! ## Times -/

/-- Exactly `width` digits that denote a number from `low` to `high`. -/
def readField (width low high : Nat) (cs : List Char) : Option (Nat × List Char) := do
  let ds := cs.take width
  guard (ds.length = width && ds.all isDigit)
  let n := digitsValue ds
  guard (low ≤ n && n ≤ high)
  pure (n, cs.drop width)

/-- The text after a given character. -/
def skipChar (mark : Char) : List Char → Option (List Char)
  | c :: cs => if c = mark then some cs else none
  | [] => none

/-- The text after a date. -/
def skipDate (cs : List Char) : Option (List Char) := do
  let (year, cs) ← readField 4 0 9999 cs
  let (month, cs) ← readField 2 1 12 (← skipChar '-' cs)
  let (_, cs) ← readField 2 1 (Calendar.daysIn year month) (← skipChar '-' cs)
  pure cs

/-- The text after a time of day. -/
def skipClock (cs : List Char) : Option (List Char) := do
  let (_, cs) ← readField 2 0 23 cs
  let (_, cs) ← readField 2 0 59 (← skipChar ':' cs)
  let (_, cs) ← readField 2 0 60 (← skipChar ':' cs)
  match cs with
  | '.' :: rest =>
    let ds := rest.takeWhile isDigit
    if ds.isEmpty then pure cs else pure (rest.drop ds.length)
  | _ => pure cs

/-- The text after the distance from universal time, if one is given. -/
def skipZone (cs : List Char) : List Char :=
  match cs with
  | [] => []
  | c :: rest =>
    if c = 'Z' || c = 'z' then rest
    else if c = '+' || c = '-' then
      let zone : Option (List Char) := do
        let (_, cs) ← readField 2 0 23 rest
        let (_, cs) ← readField 2 0 59 (← skipChar ':' cs)
        pure cs
      zone.getD cs
    else cs

/-- The text after a time that may follow a date. -/
def skipClockAfterDate (cs : List Char) : List Char :=
  match cs with
  | c :: rest =>
    if c = 'T' || c = 't' || c = ' ' then
      match skipClock rest with
      | some after => skipZone after
      | none => cs
    else cs
  | [] => []

/-- A date, a time of day, or both. -/
def readDateTime (cs : List Char) : Option (Document × List Char) :=
  match skipDate cs with
  | some rest => some (.dateTime, skipClockAfterDate rest)
  | none => (skipClock cs).map fun rest => (.dateTime, rest)

/-- A scalar that is not a string. -/
def readScalar (cs : List Char) : Option (Document × List Char) :=
  match cs with
  | 't' :: 'r' :: 'u' :: 'e' :: rest => some (.bool true, rest)
  | 'f' :: 'a' :: 'l' :: 's' :: 'e' :: rest => some (.bool false, rest)
  | _ => (readDateTime cs).or (readNumber cs)

end RownumSql.Toml
