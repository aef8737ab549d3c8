import RownumSql.Number.Shortest
import RownumSql.Text.Numeral

/-!
# Layouts of decimal text

How the digits of a number are set out: with a point among them, or as one digit, a fraction and an
exponent.  A layout is a record, and `render` follows it.
-/

namespace RownumSql.Number

open RownumSql.Text

/-- The decisions of a number format. -/
structure Layout where
  /-- Exponents of the leading digit that are written with a point only; `none` for all. -/
  positional : Option (Int × Int)
  /-- What follows the digits of a whole number. -/
  wholeMark : List Char
  /-- How a tie between two shortest decimals is settled. -/
  tie : Tie

/-- Numbers in SQL text: never an exponent, and whole numbers without a point. -/
def Layout.plain : Layout := ⟨none, [], .up⟩

/-- Numbers in JSON text: an exponent below `1e-5` and from `1e16` on, and a point in every other. -/
def Layout.json : Layout := ⟨some (-5, 15), ['.', '0'], .even⟩

/-- Digits with the point after the first `point` of them, zeros filling up on either side. -/
def placePoint (mark ds : List Char) (point : Int) : List Char :=
  if point ≤ 0 then '0' :: '.' :: (List.replicate (-point).toNat '0' ++ ds)
  else if (ds.length : Int) ≤ point then
    ds ++ List.replicate (point.toNat - ds.length) '0' ++ mark
  else ds.take point.toNat ++ '.' :: ds.drop point.toNat

/-- One digit, the others as a fraction, and a signed exponent. -/
def withExponent (ds : List Char) (e : Int) : List Char :=
  let fraction := if ds.length ≤ 1 then [] else '.' :: ds.drop 1
  let sign := if e < 0 then '-' else '+'
  ds.take 1 ++ fraction ++ 'e' :: sign :: numeral e.natAbs

def Layout.renderDecimal (l : Layout) (d : Decimal) : List Char :=
  let ds := numeral d.digits
  let point := (ds.length : Int) + d.exponent
  match l.positional with
  | none => placePoint l.wholeMark ds point
  | some (low, high) =>
    if low ≤ point - 1 && point - 1 ≤ high then placePoint l.wholeMark ds point
    else withExponent ds (point - 1)

def Layout.renderFinite (l : Layout) (x : Binary64) : List Char :=
  (if x.isNegative then ['-'] else [])
    ++ if x.isZero then '0' :: l.wholeMark else l.renderDecimal (shortest l.tie x)

def plainText (x : Binary64) : String :=
  if x.isFinite then String.ofList (Layout.plain.renderFinite x)
  else if x.isNaN then "NaN"
  else if x.isNegative then "-inf" else "inf"

end RownumSql.Number
