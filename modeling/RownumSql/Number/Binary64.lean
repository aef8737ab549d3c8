/-!
# Numbers of 64 bits

The bounds of the whole numbers, and double-precision numbers.  A number of the binary64 format is
its 64 bits.  A finite one denotes `± mantissa · 2 ^ scale`; `nearest` rounds a fraction to the
closest such value, a tie going to the even mantissa.
-/

namespace RownumSql

namespace Number

def minInt64 : Int := -9223372036854775808

def maxInt64 : Int := 9223372036854775807

/-- Whether a whole number lies within the bounds of the signed numbers. -/
def fitsInt64 (n : Int) : Bool := minInt64 ≤ n && n ≤ maxInt64

end Number

/-- A double-precision number, given by its bits. -/
structure Binary64 where
  bits : UInt64
deriving DecidableEq, Repr

namespace Binary64

/-! ## Parts -/

/-- Whether the sign bit is set. -/
def isNegative (x : Binary64) : Bool := Nat.pow 2 63 ≤ x.bits.toNat

/-- The eleven bits of the exponent. -/
def exponentField (x : Binary64) : Nat := x.bits.toNat / Nat.pow 2 52 % Nat.pow 2 11

/-- The fifty-two bits after the leading one. -/
def fraction (x : Binary64) : Nat := x.bits.toNat % Nat.pow 2 52

/-- Neither infinite nor undefined. -/
def isFinite (x : Binary64) : Bool := x.exponentField < 2047

def isNaN (x : Binary64) : Bool := x.exponentField = 2047 && x.fraction ≠ 0

def isZero (x : Binary64) : Bool := x.exponentField = 0 && x.fraction = 0

/-- The whole number that is scaled, for a finite number. -/
def mantissa (x : Binary64) : Nat :=
  if x.exponentField = 0 then x.fraction else Nat.pow 2 52 + x.fraction

/-- The power of two that scales the mantissa, for a finite number. -/
def scale (x : Binary64) : Int :=
  if x.exponentField = 0 then -1074 else (x.exponentField : Int) - 1075

/-! ## Construction -/

/-- The number with the given sign and the given lower 63 bits. -/
def ofBits (negative : Bool) (low : Nat) : Binary64 :=
  ⟨UInt64.ofNat (if negative then Nat.pow 2 63 + low else low)⟩

def zero (negative : Bool) : Binary64 := ofBits negative 0

def infinity (negative : Bool) : Binary64 := ofBits negative (2047 * Nat.pow 2 52)

/-- The undefined number of the given sign. -/
def nan (negative : Bool) : Binary64 := ofBits negative (2047 * Nat.pow 2 52 + Nat.pow 2 51)

/-- `num / den` to the nearest whole number, a tie going to the even one. -/
def roundDiv (num den : Nat) : Nat :=
  let q := num / den
  let twice := 2 * (num % den)
  if twice < den then q else if den < twice then q + 1 else q + q % 2

/-- `num / den · 2 ^ (-scale)` as a fraction of whole numbers. -/
def rescale (num den : Nat) (scale : Int) : Nat × Nat :=
  if 0 ≤ scale then (num, den * Nat.pow 2 scale.toNat) else (num * Nat.pow 2 (-scale).toNat, den)

/-- The number nearest to `± num / den`, for `num` and `den` positive. -/
def nearest (negative : Bool) (num den : Nat) : Binary64 :=
  let guess : Int := max ((num.log2 : Int) - den.log2 - 53) (-1074)
  let rough := rescale num den guess
  let scale := if Nat.pow 2 53 ≤ rough.1 / rough.2 then guess + 1 else guess
  let exact := rescale num den scale
  let low := (scale + 1074).toNat * Nat.pow 2 52 + roundDiv exact.1 exact.2
  if 2047 * Nat.pow 2 52 ≤ low then infinity negative else ofBits negative low

/-- The number nearest to `± digits · 10 ^ exponent`. -/
def ofDecimal (negative : Bool) (digits : Nat) (exponent : Int) : Binary64 :=
  if digits = 0 then zero negative
  else
    let size : Int := (Nat.toDigits 10 digits).length + exponent
    if 310 < size then infinity negative
    else if size < -330 then zero negative
    else if 0 ≤ exponent then nearest negative (digits * Nat.pow 10 exponent.toNat) 1
    else nearest negative digits (Nat.pow 10 (-exponent).toNat)

/-- The number nearest to a whole number. -/
def ofInt (n : Int) : Binary64 := ofDecimal (n < 0) n.natAbs 0

/-! ## Whole numbers -/

/-- The whole number that a finite number is equal to, if there is one. -/
def toInt? (x : Binary64) : Option Int :=
  if !x.isFinite then none
  else
    let magnitude : Option Nat :=
      let factor := Nat.pow 2 x.scale.natAbs
      if 0 ≤ x.scale then some (x.mantissa * factor)
      else if x.mantissa % factor = 0 then some (x.mantissa / factor)
      else none
    magnitude.map fun n => if x.isNegative then -(n : Int) else n

/-- Equality of numbers: the zeros are equal and the undefined number equals nothing. -/
def same (x y : Binary64) : Bool := !x.isNaN && !y.isNaN && (x == y || (x.isZero && y.isZero))

end Binary64

end RownumSql
