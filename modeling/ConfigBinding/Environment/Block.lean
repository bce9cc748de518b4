import ConfigBinding.Environment.Basic

/-!
# Environment blocks

A process is given its variables as one block of bytes: each is a key, an equals sign and a value,
closed by a zero byte. The first byte of a key may be an equals sign too. What has no equals sign
behind its first byte is no variable.
-/

set_option autoImplicit false

namespace ConfigBinding.Environment

/-- The equals sign, as a byte. -/
def equalsByte : UInt8 :=
  61

/-- Splits a variable into its key and its value. -/
def splitVariable? : List UInt8 → Option (List UInt8 × List UInt8)
  | [] => none
  | first :: bs =>
    match bs.dropWhile (· != equalsByte) with
    | [] => none
    | _ :: value => some (first :: bs.takeWhile (· != equalsByte), value)

/-- The pieces between zero bytes. -/
def blockPieces (block : List UInt8) : List (List UInt8) :=
  block.splitOn 0

/-- The keys and values in a block. -/
def ofBlock (block : List UInt8) : List (List UInt8 × List UInt8) :=
  (blockPieces block).filterMap splitVariable?

end ConfigBinding.Environment
