/-!
# Binary floating-point values

Values of a binary format in exact arithmetic: a finite value is a sign and
`mantissa · 2 ^ exponent` with whole mantissa and exponent, so that no rounding happens outside
`BinaryFormat.ofRatio`, which rounds a ratio to the nearest value of the format, a tie to the even
mantissa.
-/

set_option autoImplicit false

namespace ConfigBinding.Decimal

/-- A binary format: its number of mantissa bits, and the exponents of its least and its greatest
unit. -/
structure BinaryFormat where
  precision : Nat
  minExponent : Int
  maxExponent : Int

/-- The 64-bit format. -/
def BinaryFormat.double : BinaryFormat :=
  ⟨53, -1074, 971⟩

/-- The 32-bit format. -/
def BinaryFormat.single : BinaryFormat :=
  ⟨24, -149, 104⟩

/-- A binary floating-point value. A finite one is `± mantissa · 2 ^ exponent`. -/
inductive BinaryFloat where
  | finite (negative : Bool) (mantissa : Nat) (exponent : Int)
  | infinite (negative : Bool)
  | nan
  deriving DecidableEq, Repr

/-- The positive zero. -/
def BinaryFloat.zero : BinaryFloat :=
  .finite false 0 0

instance : Inhabited BinaryFloat := ⟨BinaryFloat.zero⟩

/-- A positive ratio of two numbers. -/
structure Ratio where
  num : Nat
  den : Nat

/-- The ratio times `base ^ exponent`. -/
def Ratio.scale (r : Ratio) (base : Nat) (exponent : Int) : Ratio :=
  if 0 ≤ exponent then ⟨r.num * Nat.pow base exponent.toNat, r.den⟩
  else ⟨r.num, r.den * Nat.pow base (-exponent).toNat⟩

/-- The whole part of the ratio. -/
def Ratio.floor (r : Ratio) : Nat :=
  r.num / r.den

/-- The whole number nearest to the ratio, the even one of two. -/
def Ratio.roundEven (r : Ratio) : Nat :=
  let q := r.num / r.den
  let twice := 2 * (r.num % r.den)
  if twice < r.den ∨ (twice = r.den ∧ q % 2 = 0) then q else q + 1

/-- The exponent of the unit in which a ratio is rounded: the mantissa then has all bits of the
format, unless the least unit of the format is coarser. -/
def BinaryFormat.unitExponent (f : BinaryFormat) (r : Ratio) : Int :=
  let magnitude : Int := Int.ofNat r.num.log2 - Int.ofNat r.den.log2
  let e := max f.minExponent (magnitude - Int.ofNat f.precision)
  if (r.scale 2 (-e)).floor < Nat.pow 2 f.precision then e else e + 1

/-- The value of the format nearest to a positive ratio. -/
def BinaryFormat.ofRatio (f : BinaryFormat) (negative : Bool) (r : Ratio) : BinaryFloat :=
  let e := f.unitExponent r
  let m := (r.scale 2 (-e)).roundEven
  let (m, e) :=
    if m = Nat.pow 2 f.precision then (Nat.pow 2 (f.precision - 1), e + 1) else (m, e)
  if m = 0 then .finite negative 0 0
  else if f.maxExponent < e then .infinite negative
  else .finite negative m e

/-- The value of the format nearest to `± significand · 10 ^ exponent`. Decimals far outside the
range of every format here are told by their number of digits alone. -/
def BinaryFormat.ofDecimal (f : BinaryFormat) (negative : Bool) (significand : Nat)
    (exponent : Int) : BinaryFloat :=
  if significand = 0 then .finite negative 0 0
  else
    let width := Int.ofNat (Nat.toDigits 10 significand).length + exponent
    if 400 < width then .infinite negative
    else if width < -400 then .finite negative 0 0
    else f.ofRatio negative ((⟨significand, 1⟩ : Ratio).scale 10 exponent)

end ConfigBinding.Decimal
