import ConfigBinding.Decimal.Binary

/-!
# Shortest decimal digits

The fewest digits that read back as a given finite value: of the decimal grids `10 ^ k`, the
coarsest with a point among the reals that round to the value, and on it the nearest point. A point
that is as near on either side is chosen by the caller's rule.
-/

set_option autoImplicit false

namespace ConfigBinding.Decimal

/-- Which of two equally near decimals is taken. -/
inductive TieRule where
  | upward
  | toEven

/-- The digits `significand` in units of `10 ^ exponent`. -/
structure ShortDecimal where
  significand : Nat
  exponent : Int

/-- The reals that round to a value, in a common unit: the ends `low` and `high` are included when
`closed` holds. -/
structure RoundingInterval where
  low : Nat
  middle : Nat
  high : Nat
  unit : Ratio
  closed : Bool

/-- The reals that round to `mantissa · 2 ^ exponent`, in quarters of the value's unit. Below a
power of two the spacing is half as wide. -/
def BinaryFormat.interval (f : BinaryFormat) (mantissa : Nat) (exponent : Int) :
    RoundingInterval where
  low := 4 * mantissa -
    (if mantissa = Nat.pow 2 (f.precision - 1) ∧ f.minExponent < exponent then 1 else 2)
  middle := 4 * mantissa
  high := 4 * mantissa + 2
  unit := (⟨1, 1⟩ : Ratio).scale 2 (exponent - 2)
  closed := mantissa % 2 = 0

/-- The point of the grid `10 ^ k` chosen for the interval, if one lies in it: the two neighbours of
the middle are looked at. -/
def RoundingInterval.onGrid? (i : RoundingInterval) (tie : TieRule) (k : Int) : Option Nat :=
  let step := i.unit.scale 10 (-k)
  let below := i.middle * step.num / step.den
  let inside (point : Nat) : Bool :=
    let p := point * step.den
    let low := i.low * step.num
    let high := i.high * step.num
    if i.closed then low ≤ p && p ≤ high else low < p && p < high
  let rest := 2 * (i.middle * step.num % step.den)
  let roundUp : Bool :=
    match tie with
    | .upward => step.den ≤ rest
    | .toEven => step.den < rest || (rest == step.den && below % 2 == 1)
  match inside below, inside (below + 1) with
  | true, true => some (if roundUp then below + 1 else below)
  | true, false => some below
  | false, true => some (below + 1)
  | false, false => none

/-- The first of `fuel` grids from `10 ^ k` downwards with a point for the interval. -/
def RoundingInterval.coarsest (i : RoundingInterval) (tie : TieRule) : Nat → Int → ShortDecimal
  | 0, _ => ⟨0, 0⟩
  | fuel + 1, k =>
    match i.onGrid? tie k with
    | some point => ⟨point, k⟩
    | none => i.coarsest tie fuel (k - 1)

/-- A power of ten that is not below `2 ^ e`, and at most two powers too high. -/
def tenPowerAbove (e : Int) : Int :=
  e * 30103 / 100000 + 2

/-- The shortest digits of the positive value `mantissa · 2 ^ exponent`. -/
def BinaryFormat.shortest (f : BinaryFormat) (tie : TieRule) (mantissa : Nat) (exponent : Int) :
    ShortDecimal :=
  let top := tenPowerAbove (exponent + Int.ofNat mantissa.log2 + 1)
  (f.interval mantissa exponent).coarsest tie 30 top

end ConfigBinding.Decimal
