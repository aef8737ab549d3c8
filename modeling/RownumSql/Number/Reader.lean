import RownumSql.Number.Binary64
import RownumSql.Text.Numeral

/-!
# Reading doubles

A double is written in decimal digits, with a point and an exponent where they are wanted, or by its
name; a sign may stand in front.  A number beyond the greatest double reads as infinity.
-/

namespace RownumSql.Number

open RownumSql.Text

/-- The digits after a point, if there is one, with what follows them. -/
def splitFraction : List Char → List Char × List Char
  | '.' :: cs => (cs.takeWhile isDigit, cs.dropWhile isDigit)
  | cs => ([], cs)

/-- The exponent that a text consists of; zero if it is empty. -/
def readExponent? : List Char → Option Int
  | [] => some 0
  | 'e' :: cs => readInt? cs
  | 'E' :: cs => readInt? cs
  | _ => none

/-- A double in decimal digits, at least one of them in front of the exponent. -/
def readDecimal? (negative : Bool) (cs : List Char) : Option Binary64 := do
  let whole := cs.takeWhile isDigit
  let (fraction, cs) := splitFraction (cs.dropWhile isDigit)
  guard (!(whole ++ fraction).isEmpty)
  let exponent ← readExponent? cs
  pure (Binary64.ofDecimal negative (digitsValue (whole ++ fraction)) (exponent - fraction.length))

/-- A double after its sign: the names may be in letters of either case. -/
def readMagnitude? (negative : Bool) (cs : List Char) : Option Binary64 :=
  let name := cs.map Char.toLower
  if name = "inf".toList || name = "infinity".toList then some (Binary64.infinity negative)
  else if name = "nan".toList then some (Binary64.nan negative)
  else readDecimal? negative cs

/-- A double and nothing else. -/
def readDouble? : List Char → Option Binary64
  | '-' :: cs => readMagnitude? true cs
  | '+' :: cs => readMagnitude? false cs
  | cs => readMagnitude? false cs

end RownumSql.Number
