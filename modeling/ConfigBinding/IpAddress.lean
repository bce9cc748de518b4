import ConfigBinding.Decimal.Digits

/-!
# Internet addresses

Addresses of versions 4 and 6 and their usual texts. A version 4 address has four decimal parts
without leading zeros. A version 6 address has eight groups of one to four hexadecimal digits; `::`
stands for one run of zero groups, and the last two groups may be written as a version 4 address.
-/

set_option autoImplicit false

namespace ConfigBinding

/-- An internet address. -/
inductive IpAddress where
  | v4 (parts : List UInt8)
  | v6 (groups : List UInt16)
  deriving DecidableEq

namespace IpAddress

/-- The address `0.0.0.0`. -/
def unspecified : IpAddress :=
  v4 [0, 0, 0, 0]

/-! ## Reading -/

/-- Reads one part of a version 4 address: at most three digits, without a leading zero, up to
255. -/
def splitPart? (cs : List Char) : Option (UInt8 × List Char) :=
  let ds := cs.takeWhile Char.isDigit
  let n := Decimal.value ds
  if ds.isEmpty || 3 < ds.length || (ds.head? == some '0' && 1 < ds.length) || 255 < n then none
  else some (n.toUInt8, cs.dropWhile Char.isDigit)

/-- Reads `count` parts, with a point before each but the first (`first`). -/
def splitParts? : (count : Nat) → (first : Bool) → List Char → Option (List UInt8 × List Char)
  | 0, _, cs => some ([], cs)
  | count + 1, first, cs => do
    let cs ←
      if first then some cs
      else
        match cs with
        | '.' :: rest => some rest
        | _ => none
    let (part, cs) ← splitPart? cs
    let (parts, cs) ← splitParts? count false cs
    return (part :: parts, cs)

/-- Reads a version 4 address off the front of a text. -/
def splitV4? (cs : List Char) : Option (List UInt8 × List Char) :=
  splitParts? 4 true cs

/-- The value of a hexadecimal digit. -/
def hexValue? (c : Char) : Option Nat :=
  if c.isDigit then some (c.toNat - '0'.toNat)
  else if 'a' ≤ c ∧ c ≤ 'f' then some (c.toNat - 'a'.toNat + 10)
  else if 'A' ≤ c ∧ c ≤ 'F' then some (c.toNat - 'A'.toNat + 10)
  else none

/-- Reads one group of one to four hexadecimal digits. -/
def splitGroup? (cs : List Char) : Option (UInt16 × List Char) :=
  let ds := cs.takeWhile fun c => (hexValue? c).isSome
  if ds.isEmpty || 4 < ds.length then none
  else
    let n := ds.foldl (fun n c => 16 * n + (hexValue? c).getD 0) 0
    some (n.toUInt16, cs.dropWhile fun c => (hexValue? c).isSome)

/-- The two groups that four parts fill. -/
def groupsOfParts : List UInt8 → List UInt16
  | [a, b, c, d] =>
    [(a.toNat * 256 + b.toNat).toUInt16, (c.toNat * 256 + d.toNat).toUInt16]
  | _ => []

/-- Reads at most `limit` groups, separated by colons; where two places are left, a version 4
address fills both and ends the groups. Says whether it was one that ended them. -/
def splitGroups : (limit : Nat) → (first : Bool) → List Char → List UInt16 × Bool × List Char
  | 0, _, cs => ([], false, cs)
  | limit + 1, first, cs =>
    let body? := if first then some cs else
      match cs with
      | ':' :: rest => some rest
      | _ => none
    match body? with
    | none => ([], false, cs)
    | some body =>
      match (if 1 ≤ limit then splitV4? body else none) with
      | some (parts, rest) => (groupsOfParts parts, true, rest)
      | none =>
        match splitGroup? body with
        | none => ([], false, cs)
        | some (group, rest) =>
          let (groups, ended, rest) := splitGroups limit false rest
          (group :: groups, ended, rest)

/-- Reads a version 6 address off the front of a text. -/
def splitV6? (cs : List Char) : Option (List UInt16 × List Char) :=
  let (head, headV4, rest) := splitGroups 8 true cs
  if head.length = 8 then some (head, rest)
  else if headV4 then none
  else
    match rest with
    | ':' :: ':' :: rest =>
      let (tail, _, rest) := splitGroups (8 - (head.length + 1)) true rest
      some (head ++ List.replicate (8 - head.length - tail.length) 0 ++ tail, rest)
    | _ => none

/-- Reads an address that takes the whole text. -/
def read? (s : String) : Option IpAddress :=
  match splitV4? s.toList with
  | some (parts, []) => some (v4 parts)
  | _ =>
    match splitV6? s.toList with
    | some (groups, []) => some (v6 groups)
    | _ => none

/-! ## Writing -/

/-- The text of a version 4 address. -/
def renderParts (parts : List UInt8) : String :=
  ".".intercalate (parts.map fun p => Decimal.natText p.toNat)

/-- Groups in hexadecimal, separated by colons. -/
def renderGroups (groups : List UInt16) : String :=
  ":".intercalate (groups.map fun g => String.ofList (Nat.toDigits 16 g.toNat))

/-- The number of zero groups at the front. -/
def zeroRun (groups : List UInt16) : Nat :=
  (groups.takeWhile (· == 0)).length

/-- The start and length of the first longest run of zero groups; `place` is that of the first
group looked at. -/
def longestZeroRun (place : Nat) : List UInt16 → Nat × Nat
  | [] => (place, 0)
  | g :: gs =>
    let here := zeroRun (g :: gs)
    let later := longestZeroRun (place + 1) gs
    if later.2 ≤ here then (place, here) else later

/-- The text of a version 6 address: the first longest run of at least two zero groups becomes `::`,
and an address that maps a version 4 one shows it. -/
def renderV6 (groups : List UInt16) : String :=
  match groups with
  | [0, 0, 0, 0, 0, 0xffff, a, b] =>
    let parts := [a.toNat / 256, a.toNat % 256, b.toNat / 256, b.toNat % 256]
    "::ffff:" ++ renderParts (parts.map Nat.toUInt8)
  | _ =>
    let (start, length) := longestZeroRun 0 groups
    if 1 < length then
      renderGroups (groups.take start) ++ "::" ++ renderGroups (groups.drop (start + length))
    else renderGroups groups

/-- The text of an address. -/
def render : IpAddress → String
  | v4 parts => renderParts parts
  | v6 groups => renderV6 groups

end IpAddress

end ConfigBinding
