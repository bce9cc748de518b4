import Mathlib.Tactic.SplitIfs
import ConfigBinding.Decimal.Notation
import ConfigBinding.Numeral
import ConfigBinding.Proofs.Text.Offsets

/-!
# Checked readers

A reader of bytes can go wrong in ways that a reader of characters cannot: it can cut a text inside
a character or beyond its end, leave the 128 bits of its arithmetic where it does not look, divide
by zero, or go round a loop without getting on. A checked reader tells such a trap from a text that
it refuses (`Halt`). To show that a reader does not go wrong is to show that its checked form gives
what the reader gives, refusals included.
-/

set_option autoImplicit false

namespace ConfigBinding

/-- What goes wrong. -/
inductive Trap where
  | offBoundary
  | overflow
  | divisionByZero
  | stalled
  deriving DecidableEq, Repr

/-- Why a checked reader has no value: the text is refused, or the reader goes wrong. -/
inductive Halt (φ : Type) where
  | refused (fault : φ)
  | trapped (trap : Trap)
  deriving DecidableEq, Repr

/-- What a checked reader gives. -/
abbrev Checked (φ α : Type) : Type :=
  Except (Halt φ) α

namespace Checked

variable {φ α β : Type}

/-- The result of a reader that does not go wrong. -/
def ofReader (r : Except φ α) : Checked φ α :=
  r.mapError .refused

/-- A refusal where there is no value. -/
def orRefuse (fault : φ) : Option α → Checked φ α
  | some a => .ok a
  | none => .error (.refused fault)

/-- Cuts a text at a byte offset. -/
def cut (n : Nat) (cs : List Char) : Checked φ (List Char × List Char) :=
  match Text.cutAt? n cs with
  | some p => .ok p
  | none => .error (.trapped .offBoundary)

/-- A number, if it has 128 bits. -/
def word? (n : Nat) : Option Nat :=
  if n ≤ Numeral.maxMagnitude then some n else none

/-- A number that is taken to have 128 bits. -/
def word (n : Nat) : Checked φ Nat :=
  if n ≤ Numeral.maxMagnitude then .ok n else .error (.trapped .overflow)

/-- The quotient of two numbers. -/
def quotient (m n : Nat) : Checked φ Nat :=
  if n = 0 then .error (.trapped .divisionByZero) else .ok (m / n)

/-- The negation of a number of 128 bits with a sign. -/
def negate (n : Int) : Checked φ Int :=
  if n = -Int.ofNat Numeral.maxSignedMagnitude - 1 then .error (.trapped .overflow) else .ok (-n)

/-- Takes one sign off the front, which is told by the first byte. -/
def splitSign (cs : List Char) : Checked φ (Bool × List Char) := do
  let first := (Text.encode cs).head?
  if first = some '-'.toNat.toUInt8 then
    let (_, rest) ← cut 1 cs
    return (true, rest)
  else if first = some '+'.toNat.toUInt8 then
    let (_, rest) ← cut 1 cs
    return (false, rest)
  else return (false, cs)

/-! ## Laws -/

@[simp] theorem ok_bind (a : α) (f : α → Checked φ β) : ((.ok a : Checked φ α) >>= f) = f a := rfl

@[simp] theorem pure_eq_ok (a : α) : (pure a : Checked φ α) = .ok a := rfl

@[simp] theorem orRefuse_some (fault : φ) (a : α) : orRefuse fault (some a) = .ok a := rfl

@[simp] theorem ofReader_ok (a : α) : ofReader (.ok a : Except φ α) = .ok a := rfl

/-- A reader that does not go wrong has no trap. -/
theorem ofReader_ne_trapped (r : Except φ α) (trap : Trap) :
    ofReader r ≠ .error (.trapped trap) := by
  cases r <;> nofun

theorem cut_append (cs ds : List Char) :
    (cut (Text.byteLength cs) (cs ++ ds) : Checked φ _) = .ok (cs, ds) := by
  rw [cut, Text.cutAt?_append]

example : (cut 1 ['µ', 's'] : Checked φ _) = .error (.trapped .offBoundary) := rfl

theorem cut_one {c : Char} (hc : c.toNat < 128) (cs : List Char) :
    (cut 1 (c :: cs) : Checked φ _) = .ok ([c], cs) := by
  have hcut := cut_append (φ := φ) [c] cs
  rwa [Text.byteLength_cons, Text.utf8Size_eq_one hc] at hcut

theorem word_of_le {n : Nat} (h : n ≤ Numeral.maxMagnitude) : (word n : Checked φ Nat) = .ok n :=
  if_pos h

theorem word?_of_le {n : Nat} (h : n ≤ Numeral.maxMagnitude) : word? n = some n :=
  if_pos h

theorem word?_of_lt {n : Nat} (h : Numeral.maxMagnitude < n) : word? n = none :=
  if_neg (Nat.not_le.mpr h)

theorem quotient_of_pos (m : Nat) {n : Nat} (h : 0 < n) :
    (quotient m n : Checked φ Nat) = .ok (m / n) :=
  if_neg (Nat.ne_of_gt h)

/-- No magnitude has a negation that is too large. -/
theorem negate_ofNat (n : Nat) : (negate (Int.ofNat n) : Checked φ Int) = .ok (-Int.ofNat n) := by
  refine if_neg ?_
  have hmax : (0 : Int) ≤ Int.ofNat Numeral.maxSignedMagnitude := Int.natCast_nonneg _
  have hn : (0 : Int) ≤ Int.ofNat n := Int.natCast_nonneg n
  omega

/-- A sign is one character of one byte. -/
theorem splitSign_eq (cs : List Char) :
    (splitSign cs : Checked φ _) = .ok (Decimal.splitSign cs) := by
  cases cs with
  | nil => rfl
  | cons c cs =>
    have hminus := Text.head?_encode_cons_iff (c := c) (by decide : '-'.toNat < 128) cs
    have hplus := Text.head?_encode_cons_iff (c := c) (by decide : '+'.toNat < 128) cs
    simp only [splitSign, hminus, hplus]
    split_ifs with hc hc'
    · subst hc
      rw [cut_one (by decide)]
      rfl
    · subst hc'
      rw [cut_one (by decide)]
      rfl
    · rw [Decimal.splitSign_plain (fun ds h => hc (List.cons.inj h).1)
        fun ds h => hc' (List.cons.inj h).1]
      rfl

end Checked

end ConfigBinding
