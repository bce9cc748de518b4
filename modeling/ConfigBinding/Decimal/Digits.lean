/-!
# Decimal digits

Reading a run of ASCII digits as a number, and writing a number in digits, plain or padded.
-/

set_option autoImplicit false

namespace ConfigBinding.Decimal

/-- The value of a decimal digit; other characters are not looked at. -/
def digitValue (c : Char) : Nat :=
  c.toNat - '0'.toNat

/-- The value of a run of decimal digits, most significant first; an empty run is zero. -/
def value (cs : List Char) : Nat :=
  cs.foldl (fun n c => 10 * n + digitValue c) 0

/-- The decimal digits of a number, without leading zeros; zero has the digit `0`. -/
def digits (n : Nat) : List Char :=
  Nat.toDigits 10 n

/-- The last `width` decimal digits of a number, with leading zeros. -/
def paddedDigits : (width : Nat) → (n : Nat) → List Char
  | 0, _ => []
  | width + 1, n => paddedDigits width (n / 10) ++ [Nat.digitChar (n % 10)]

/-- A list of characters without the zeros at its end. -/
def dropZerosEnd (cs : List Char) : List Char :=
  (cs.reverse.dropWhile (· == '0')).reverse

/-- Whole digits and fraction digits, split at a point, and what follows them. -/
def splitPoint (cs : List Char) : List Char × List Char × List Char :=
  let whole := cs.takeWhile Char.isDigit
  match cs.dropWhile Char.isDigit with
  | '.' :: rest => (whole, rest.takeWhile Char.isDigit, rest.dropWhile Char.isDigit)
  | rest => (whole, [], rest)

/-- The decimal text of a number. -/
def natText (n : Nat) : String :=
  String.ofList (digits n)

/-- The decimal text of an integer; a negative one has a leading `-`. -/
def intText : Int → String
  | .ofNat n => natText n
  | .negSucc n => String.ofList ('-' :: digits (n + 1))

@[simp] theorem value_nil : value [] = 0 := rfl

theorem length_dropWhile_le {α : Type} (p : α → Bool) (cs : List α) :
    (cs.dropWhile p).length ≤ cs.length :=
  (List.dropWhile_sublist p).length_le

theorem length_splitPoint_le (cs : List Char) : (splitPoint cs).2.2.length ≤ cs.length := by
  have h := length_dropWhile_le Char.isDigit cs
  unfold splitPoint
  split
  · rename_i rest heq
    have := length_dropWhile_le Char.isDigit rest
    rw [heq] at h
    simp only [List.length_cons] at h
    simp only
    omega
  · simpa using h

end ConfigBinding.Decimal
