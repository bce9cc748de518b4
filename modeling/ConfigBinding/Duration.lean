import ConfigBinding.Decimal.Digits

/-!
# Durations

A duration is a whole number of nanoseconds whose whole seconds fit 64 bits. Its text is a sequence
of terms, each a decimal number with a unit (`1h30m`, `1.5s`); a bare `0` needs no unit. A text is
read as a duration only if the nanoseconds fit a signed 64-bit count. A duration is shown in the
largest unit of which it holds at least one, up to seconds, as a decimal number without trailing
zeros.
-/

set_option autoImplicit false

namespace ConfigBinding

/-- A number of nanoseconds with fewer than `2 ^ 64` whole seconds. -/
structure Duration where
  nanos : Nat
  nanos_lt : nanos < 18446744073709551616 * 1000000000 := by omega
  deriving DecidableEq

namespace Duration

/-- The nanoseconds of the longest duration that is read. -/
def maxNanos : Nat :=
  9223372036854775807

theorem lt_of_le_maxNanos {n : Nat} (h : n ≤ maxNanos) : n < 18446744073709551616 * 1000000000 :=
  Nat.lt_of_le_of_lt h (by decide)

instance : Inhabited Duration := ⟨⟨0, by omega⟩⟩

/-- Why a text is no duration. -/
inductive Fault where
  | empty
  | noNumber
  | missingUnit
  | unknownUnit
  | overflow
  | negative
  deriving DecidableEq, Repr

/-- The words for a fault. -/
def Fault.reason : Fault → String
  | .empty => "empty duration"
  | .noNumber => "expected a number"
  | .missingUnit => "missing unit"
  | .unknownUnit => "unknown unit"
  | .overflow => "overflow"
  | .negative => "negative durations are not supported"

/-- The nanoseconds in one of a unit. Both the micro sign and the letter mu stand for micro. -/
def unitNanos? (unit : List Char) : Option Nat :=
  if unit = ['n', 's'] then some 1
  else if unit = ['u', 's'] ∨ unit = ['µ', 's'] ∨ unit = ['μ', 's'] then some 1000
  else if unit = ['m', 's'] then some 1000000
  else if unit = ['s'] then some 1000000000
  else if unit = ['m'] then some (60 * 1000000000)
  else if unit = ['h'] then some (3600 * 1000000000)
  else none

/-- The number of fraction digits that are looked at. -/
def maxFractionDigits : Nat :=
  18

/-- The parts of one term, as they are written. -/
structure Term where
  whole : List Char
  fraction : List Char
  unit : List Char

/-- The nanoseconds of a number with the given digits, in a unit of `scale` nanoseconds: the part
that a fraction adds is rounded down. -/
def termNanos (scale : Nat) (whole fraction : List Char) : Nat :=
  let kept := fraction.take maxFractionDigits
  Decimal.value whole * scale + Decimal.value kept * scale / Nat.pow 10 kept.length

/-- Whether a character can stand in a unit: a unit ends before the next digit or point. -/
def isUnitChar (c : Char) : Bool :=
  !(c == '.' || c.isDigit)

/-- Splits the first term off a text, without looking its unit up. -/
def splitTerm (cs : List Char) : Except Fault (Term × List Char) :=
  match Decimal.splitPoint cs with
  | (whole, fraction, rest) =>
    if whole.isEmpty && fraction.isEmpty then .error .noNumber
    else
      let unit := rest.takeWhile isUnitChar
      if unit.isEmpty then .error .missingUnit
      else .ok (⟨whole, fraction, unit⟩, rest.dropWhile isUnitChar)

/-- A term takes at least one character. -/
theorem splitTerm_shortens {cs rest : List Char} {term : Term}
    (h : splitTerm cs = .ok (term, rest)) : rest.length < cs.length := by
  have hle := Decimal.length_splitPoint_le cs
  unfold splitTerm at h
  split at h
  rename_i whole fraction tail heq
  rw [heq] at hle
  simp only at hle h
  split at h
  · cases h
  split at h
  · cases h
  · rename_i hunit
    injection h with h
    injection h with _ h
    subst h
    have hsplit : tail.takeWhile isUnitChar ++ tail.dropWhile isUnitChar = tail :=
      List.takeWhile_append_dropWhile
    have hlen := congrArg List.length hsplit
    rw [List.length_append] at hlen
    have : (tail.takeWhile isUnitChar).length ≠ 0 := by
      intro hzero
      exact hunit (by simp [List.length_eq_zero_iff.mp hzero])
    omega

/-- Adds the terms of a text to `total`, the nanoseconds read so far. -/
def readTerms (total : Nat) (cs : List Char) : Except Fault Nat :=
  if cs.isEmpty then .ok total
  else
    match _h : splitTerm cs with
    | .error fault => .error fault
    | .ok (term, rest) =>
      match unitNanos? term.unit with
      | none => .error .unknownUnit
      | some scale =>
        let sum := total + termNanos scale term.whole term.fraction
        if sum ≤ maxNanos then readTerms sum rest else .error .overflow
termination_by cs.length
decreasing_by exact splitTerm_shortens _h

/-- Reads a text after its sign. -/
def readUnsigned (cs : List Char) : Except Fault Nat :=
  if cs = ['0'] then .ok 0
  else if cs.isEmpty then .error .empty
  else readTerms 0 cs

/-- A number of nanoseconds as a duration, unless it is above the longest that is read. -/
def ofNanos (n : Nat) : Except Fault Duration :=
  if h : n ≤ maxNanos then .ok ⟨n, lt_of_le_maxNanos h⟩ else .error .overflow

/-- Reads a duration. A minus sign is allowed before a zero only. -/
def read (s : String) : Except Fault Duration :=
  match s.toList with
  | '-' :: cs =>
    match readUnsigned cs with
    | .ok n => if n = 0 then .ok ⟨0, by omega⟩ else .error .negative
    | .error fault => .error fault
  | '+' :: cs => (readUnsigned cs).bind ofNanos
  | cs => (readUnsigned cs).bind ofNanos

/-- The text of `n / 10 ^ places` in a unit, without trailing zeros in the fraction. -/
def decimalText (places n : Nat) (unit : String) : String :=
  let fraction := Decimal.dropZerosEnd (Decimal.paddedDigits places (n % Nat.pow 10 places))
  let point := if fraction.isEmpty then [] else '.' :: fraction
  String.ofList (Decimal.digits (n / Nat.pow 10 places) ++ point) ++ unit

/-- The text of a duration. -/
def render (d : Duration) : String :=
  if 1000000000 ≤ d.nanos then decimalText 9 d.nanos "s"
  else if 1000000 ≤ d.nanos then decimalText 6 d.nanos "ms"
  else if 1000 ≤ d.nanos then decimalText 3 d.nanos "µs"
  else decimalText 0 d.nanos "ns"

end Duration

end ConfigBinding
