import RownumSql.Number.Binary64

/-!
# Shortest decimals

The decimal with the fewest digits that still reads back as a given number.

The reals that round to a positive `x` form an interval around it.  The decimal grids
`c · 10 ^ p` are tried from a coarse `p` down to finer ones; on each only the two neighbours of `x`
can matter, for if any grid point lies in the interval then one of these does.  The first grid with
a hit has the fewest digits; of two hits the nearer is taken, and a tie goes as asked for.
-/

namespace RownumSql.Number

/-- Where a decimal goes that is as near to the one below as to the one above. -/
inductive Tie where
  | up
  | even
deriving DecidableEq, Repr

/-- A positive decimal `digits · 10 ^ exponent`. -/
structure Decimal where
  digits : Nat
  exponent : Int
deriving DecidableEq, Repr

/-- A positive value with the bounds of the interval that rounds to it, in units of `2 ^ scale`. -/
structure Rounding where
  low : Nat
  mid : Nat
  high : Nat
  scale : Int
  closed : Bool

/-- The interval of a positive finite number. -/
def Rounding.of (x : Binary64) : Rounding where
  low := 4 * x.mantissa - (if x.fraction = 0 && 1 < x.exponentField then 1 else 2)
  mid := 4 * x.mantissa
  high := 4 * x.mantissa + 2
  scale := x.scale - 2
  closed := x.mantissa % 2 = 0

/-- `base ^ max exponent 0`. -/
def power (base : Nat) (exponent : Int) : Nat := Nat.pow base exponent.toNat

/-- The decimal of the grid `10 ^ p` that lies in the interval and is nearest to its middle. -/
def hitOnGrid (r : Rounding) (tie : Tie) (p : Int) : Option Nat :=
  -- a grid point `c` stands for `c * unit`, a bound `b` for `b * weight`
  let unit := power 10 p * power 2 (-r.scale)
  let weight := power 2 r.scale * power 10 (-p)
  let inside (c : Nat) : Bool :=
    let v := c * unit
    if r.closed then r.low * weight ≤ v && v ≤ r.high * weight
    else r.low * weight < v && v < r.high * weight
  let below := r.mid * weight / unit
  let rest := r.mid * weight % unit
  match inside below, inside (below + 1) with
  | false, false => none
  | true, false => some below
  | false, true => some (below + 1)
  | true, true =>
    if 2 * rest < unit then some below
    else if unit < 2 * rest then some (below + 1)
    else match tie with
      | .up => some (below + 1)
      | .even => some (below + below % 2)

/-- The first hit among the grids `10 ^ p, 10 ^ (p - 1), …`. -/
def firstHit (r : Rounding) (tie : Tie) (p : Int) : Nat → Decimal
  | 0 => ⟨r.mid, 0⟩
  | n + 1 =>
    match hitOnGrid r tie p with
    | some c => ⟨c, p⟩
    | none => firstHit r tie (p - 1) n

/-- The shortest decimal of a positive finite number.  The coarsest grid lies above the leading
digit, and seventeen digits always suffice, so two dozen grids are enough. -/
def shortest (tie : Tie) (x : Binary64) : Decimal :=
  let top : Int := (x.mantissa.log2 : Int) + x.scale + 1
  firstHit (Rounding.of x) tie (top * 30103 / 100000 + 1) 24

end RownumSql.Number
