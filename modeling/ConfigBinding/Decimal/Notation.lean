import ConfigBinding.Decimal.Digits
import ConfigBinding.Decimal.Shortest

/-!
# Floating-point texts

How a floating-point value is written in decimal, given a style, and how a decimal text is read.
Both ends are exact: the shortest digits are laid out, and a text is rounded once.
-/

set_option autoImplicit false

namespace ConfigBinding.Decimal

/-- How floating-point values are written. A value whose digits read `0.d₁d₂… · 10 ^ p` is written
positionally when `minPoint ≤ p ≤ maxPoint`, else with an exponent. -/
structure FloatStyle where
  minPoint : Int
  maxPoint : Int
  tie : TieRule
  infinity : String
  nan : String

/-- Digits with a decimal point after the first `point` ones; a fraction is always present. -/
def positional (ds : List Char) (point : Int) : List Char :=
  if point ≤ 0 then '0' :: '.' :: List.replicate (-point).toNat '0' ++ ds
  else
    let n := point.toNat
    if ds.length ≤ n then ds ++ List.replicate (n - ds.length) '0' ++ ['.', '0']
    else ds.take n ++ '.' :: ds.drop n

/-- Digits with a decimal point after the first one, if more follow, and an exponent. -/
def scientific (ds : List Char) (point : Int) : List Char :=
  let fraction := if ds.length ≤ 1 then [] else '.' :: ds.drop 1
  ds.take 1 ++ fraction ++ 'e' :: (intText (point - 1)).toList

/-- The text of a magnitude. -/
def FloatStyle.magnitude (style : FloatStyle) (f : BinaryFormat) (mantissa : Nat)
    (exponent : Int) : List Char :=
  if mantissa = 0 then ['0', '.', '0']
  else
    let short := f.shortest style.tie mantissa exponent
    let ds := digits short.significand
    let point := Int.ofNat ds.length + short.exponent
    if style.minPoint ≤ point ∧ point ≤ style.maxPoint then positional ds point
    else scientific ds point

/-- The text of a value of format `f`. -/
def FloatStyle.render (style : FloatStyle) (f : BinaryFormat) : BinaryFloat → String
  | .nan => style.nan
  | .infinite negative => (if negative then "-" else "") ++ style.infinity
  | .finite negative mantissa exponent =>
    (if negative then "-" else "") ++ String.ofList (style.magnitude f mantissa exponent)

/-- A decimal text taken apart. -/
inductive FloatText where
  | decimal (negative : Bool) (significand : Nat) (exponent : Int)
  | infinity (negative : Bool)
  | nan
  deriving DecidableEq

/-- Splits one sign off the front of a text. -/
def splitSign : List Char → Bool × List Char
  | '-' :: cs => (true, cs)
  | '+' :: cs => (false, cs)
  | cs => (false, cs)

/-- A text that starts with no sign is left as it is. -/
theorem splitSign_plain {cs : List Char} (hminus : ∀ ds, cs ≠ '-' :: ds)
    (hplus : ∀ ds, cs ≠ '+' :: ds) : splitSign cs = (false, cs) := by
  unfold splitSign
  split
  · exact absurd rfl (hminus _)
  · exact absurd rfl (hplus _)
  · rfl

/-- The exponent at the end of a decimal, if there is one. -/
def readExponent? : List Char → Option Int
  | [] => some 0
  | c :: cs =>
    if c = 'e' ∨ c = 'E' then
      let (negative, ds) := splitSign cs
      if ds.isEmpty || !ds.all Char.isDigit then none
      else some (if negative then -Int.ofNat (value ds) else Int.ofNat (value ds))
    else none

/-- Reads digits with an optional point and an optional exponent; at least one digit is needed. -/
def readDecimal? (negative : Bool) (cs : List Char) : Option FloatText :=
  match splitPoint cs with
  | (whole, fraction, rest) =>
    if whole.isEmpty && fraction.isEmpty then none
    else
      (readExponent? rest).map fun e =>
        .decimal negative (value (whole ++ fraction)) (e - Int.ofNat fraction.length)

/-- Reads a decimal, or one of the words `inf`, `infinity` and `nan` in any case, after an optional
sign. -/
def FloatText.read? (cs : List Char) : Option FloatText :=
  let (negative, body) := splitSign cs
  let word := body.map Char.toLower
  if word = ['n', 'a', 'n'] then some .nan
  else if word = ['i', 'n', 'f'] ∨ word = ['i', 'n', 'f', 'i', 'n', 'i', 't', 'y'] then
    some (.infinity negative)
  else readDecimal? negative body

/-- The nearest value of a format. -/
def FloatText.toBinary (f : BinaryFormat) : FloatText → BinaryFloat
  | .decimal negative significand exponent => f.ofDecimal negative significand exponent
  | .infinity negative => .infinite negative
  | .nan => .nan

/-- Reads a text as the nearest value of a format. -/
def BinaryFormat.read? (f : BinaryFormat) (cs : List Char) : Option BinaryFloat :=
  (FloatText.read? cs).map (FloatText.toBinary f)

end ConfigBinding.Decimal
