/-!
# Integer types

The bounded integer types of configuration values.
-/

set_option autoImplicit false

namespace ConfigBinding

/-- A type of bounded integers. -/
inductive IntType where
  | i8
  | i16
  | i32
  | i64
  | isize
  | u8
  | u16
  | u32
  | u64
  | usize
  deriving DecidableEq, Repr

namespace IntType

/-- Every integer type. -/
def all : List IntType :=
  [i8, i16, i32, i64, isize, u8, u16, u32, u64, usize]

/-- The name of the type. -/
def name : IntType → String
  | i8 => "i8"
  | i16 => "i16"
  | i32 => "i32"
  | i64 => "i64"
  | isize => "isize"
  | u8 => "u8"
  | u16 => "u16"
  | u32 => "u32"
  | u64 => "u64"
  | usize => "usize"

/-- Whether the type has negative values. -/
def signed : IntType → Bool
  | i8 | i16 | i32 | i64 | isize => true
  | u8 | u16 | u32 | u64 | usize => false

/-- The width of the type. -/
def bits : IntType → Nat
  | i8 | u8 => 8
  | i16 | u16 => 16
  | i32 | u32 => 32
  | i64 | isize | u64 | usize => 64

/-- The least value of the type. -/
def minValue (t : IntType) : Int :=
  if t.signed then -Int.ofNat (Nat.pow 2 (t.bits - 1)) else 0

/-- The greatest value of the type. -/
def maxValue (t : IntType) : Int :=
  Int.ofNat (Nat.pow 2 (if t.signed then t.bits - 1 else t.bits)) - 1

theorem minValue_le_zero (t : IntType) : t.minValue ≤ 0 := by
  cases t <;> decide

theorem zero_le_maxValue (t : IntType) : 0 ≤ t.maxValue := by
  cases t <;> decide

/-- A value of the type. -/
structure Value (t : IntType) where
  val : Int
  min_le : t.minValue ≤ val
  le_max : val ≤ t.maxValue
  deriving DecidableEq

instance (t : IntType) : Inhabited t.Value :=
  ⟨⟨0, t.minValue_le_zero, t.zero_le_maxValue⟩⟩

/-- An integer as a value of the type, if it is one. -/
def ofInt? (t : IntType) (n : Int) : Option t.Value :=
  if h : t.minValue ≤ n ∧ n ≤ t.maxValue then some ⟨n, h.1, h.2⟩ else none

/-- A byte as a value of the eight-bit type without sign. -/
def ofByte (b : UInt8) : u8.Value where
  val := b.toNat
  min_le := by show (0 : Int) ≤ _; omega
  le_max := by
    have := b.toNat_lt
    show _ ≤ (255 : Int)
    omega

end IntType

end ConfigBinding
