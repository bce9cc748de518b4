import ConfigBinding.Decimal.Notation
import ConfigBinding.Numeral
import ConfigBinding.Text.Truth
import ConfigBinding.Text.Utf8
import ConfigBinding.Yaml.Token

/-!
# Values of YAML

The values that nodes stand for, and the reading of plain scalars: null, truth values, integers in
four bases, floating-point numbers, and texts for all else. An integer has to fit 64 bits; a wider
one that fits 128 is refused, and one that is wider still reads as a floating-point number.
-/

set_option autoImplicit false

namespace ConfigBinding.Yaml

/-- A value. -/
inductive Value where
  | null
  | bool (b : Bool)
  | integer (n : Int)
  | float (v : Decimal.BinaryFloat)
  | text (s : String)
  | sequence (items : List Value)
  | mapping (entries : List (Value × Value))
  | tagged (tag : String) (v : Value)

/-! ## Plain scalars -/

/-- Whether a text spells null. -/
def isNull (cs : List Char) : Bool :=
  ["~", "null", "Null", "NULL"].any (·.toList == cs)

/-- The truth value that a text spells. -/
def truth? (cs : List Char) : Option Bool :=
  if ["true", "True", "TRUE"].any (·.toList == cs) then some true
  else if ["false", "False", "FALSE"].any (·.toList == cs) then some false
  else none

/-- Whether a text is digits with a needless zero in front: such a text is no number. -/
def hasLeadingZero (cs : List Char) : Bool :=
  let ds := match cs with
    | '-' :: rest | '+' :: rest => rest
    | _ => cs
  match ds with
  | '0' :: d :: rest => (d :: rest).all Char.isDigit
  | _ => false

/-- The number that digits of a base stand for. -/
def digitsValue? (base : Nat) (cs : List Char) : Option Nat :=
  let values := cs.filterMap (Numeral.digitOf? base)
  if cs.isEmpty || values.length != cs.length then none
  else some (values.foldl (fun n d => base * n + d) 0)

/-- The number that a text without minus sign stands for. -/
def unsigned? (cs : List Char) : Option Nat :=
  let body := match cs with
    | '+' :: rest => rest
    | _ => cs
  match body with
  | '0' :: 'x' :: rest => digitsValue? 16 rest
  | '0' :: 'o' :: rest => digitsValue? 8 rest
  | '0' :: 'b' :: rest => digitsValue? 2 rest
  | _ => if hasLeadingZero cs then none else digitsValue? 10 body

/-- The magnitude of the number that a text with a minus sign stands for. -/
def negated? : List Char → Option Nat
  | '-' :: '0' :: 'x' :: rest => digitsValue? 16 rest
  | '-' :: '0' :: 'o' :: rest => digitsValue? 8 rest
  | '-' :: '0' :: 'b' :: rest => digitsValue? 2 rest
  | '-' :: rest => if hasLeadingZero rest then none else digitsValue? 10 rest
  | _ => none

/-- What a text is, read as an integer. -/
inductive IntegerReading where
  | none
  | fits (n : Int)
  | tooWide

/-- The greatest integer of 64 bits. -/
def maxInteger : Nat :=
  18446744073709551615

/-- The magnitude of the least integer of 64 bits. -/
def maxNegated : Nat :=
  9223372036854775808

/-- Reads a text as an integer. -/
def readInteger (cs : List Char) : IntegerReading :=
  match unsigned? cs, negated? cs with
  | some n, _ =>
    if n ≤ maxInteger then .fits n
    else if n ≤ Numeral.maxMagnitude then .tooWide
    else .none
  | .none, some n =>
    if n ≤ maxNegated then .fits (-n)
    else if n ≤ Numeral.maxSignedMagnitude + 1 then .tooWide
    else .none
  | .none, .none => .none

/-- Whether a text is one of three spellings of a word after a point. -/
def spells (word title capitals : String) (cs : List Char) : Bool :=
  [word, title, capitals].any (·.toList == cs)

/-- Reads a text as a floating-point number. -/
def readFloat? (cs : List Char) : Option Decimal.BinaryFloat :=
  let body := match cs with
    | '+' :: rest => rest
    | _ => cs
  let signs := (cs.take 2).filter fun c => c == '+' || c == '-'
  if cs.head? == some '+' && signs.length == 2 then none
  else if spells ".inf" ".Inf" ".INF" body then some (.infinite false)
  else if spells "-.inf" "-.Inf" "-.INF" cs then some (.infinite true)
  else if spells ".nan" ".NaN" ".NAN" cs then some .nan
  else
    match Decimal.BinaryFormat.double.read? body with
    | some (.finite negative mantissa exponent) => some (.finite negative mantissa exponent)
    | _ => none

/-- The value of a plain scalar without tag. -/
def plainValue? (cs : List Char) : Option Value :=
  if cs.isEmpty || isNull cs then some .null
  else
    match truth? cs with
    | some b => some (.bool b)
    | none =>
      match readInteger cs with
      | .fits n => some (.integer n)
      | .tooWide => none
      | .none =>
        match if hasLeadingZero cs then none else readFloat? cs with
        | some v => some (.float v)
        | none => some (.text (String.ofList cs))

/-! ## Tagged scalars -/

/-- A tag of the core schema. -/
def coreTag (name : String) : Tag :=
  Text.bytes ("tag:yaml.org,2002:" ++ name)

/-- Whether a tag is local: it starts with an exclamation mark. -/
def Tag.isLocal (tag : Tag) : Bool :=
  tag.head? == some 0x21

/-- The name that a local tag gives to a value: the tag without its exclamation mark, unless the
mark is all of it. A tag that is no text gives none. -/
def Tag.localName? (tag : Tag) : Option String :=
  if tag.isLocal then Text.ofBytes? (if tag.length = 1 then tag else tag.drop 1) else none

/-- The value of a scalar with a tag that is no local one. The tags for truth values, integers,
floats and null demand a text that reads as one; any other makes the scalar a text. -/
def taggedValue? (tag : Tag) (cs : List Char) : Option Value :=
  if tag = coreTag "bool" then (truth? cs).map .bool
  else if tag = coreTag "int" then
    match readInteger cs with
    | .fits n => some (.integer n)
    | _ => none
  else if tag = coreTag "float" then (readFloat? cs).map .float
  else if tag = coreTag "null" then if isNull cs then some .null else none
  else some (.text (String.ofList cs))

/-- The value of a scalar. -/
def scalarValue? (isPlain : Bool) (tag : Option Tag) (cs : List Char) : Option Value :=
  match tag with
  | some tag => taggedValue? tag cs
  | none => if isPlain then plainValue? cs else some (.text (String.ofList cs))

/-! ## Equality of keys -/

/-- Whether two floating-point numbers are one key: the zeros are, and not-a-number is itself. -/
def sameFloat (a b : Decimal.BinaryFloat) : Bool :=
  match a, b with
  | .finite _ 0 _, .finite _ 0 _ => true
  | _, _ => a == b

/-- The name of a tag without an exclamation mark in front, unless the mark is all of it. -/
def withoutMark (name : String) : List Char :=
  match name.toList with
  | '!' :: c :: cs => c :: cs
  | cs => cs

/-- Whether two values nested at most `depth` deep are one key of a mapping: neither the order of
the entries of mappings matters nor an exclamation mark in front of a tag's name. -/
def sameKey : (depth : Nat) → Value → Value → Bool
  | 0, _, _ => false
  | depth + 1, a, b =>
    match a, b with
    | .null, .null => true
    | .bool a, .bool b => a == b
    | .integer a, .integer b => a == b
    | .float a, .float b => sameFloat a b
    | .text a, .text b => a == b
    | .sequence as, .sequence bs =>
      as.length == bs.length && (as.zip bs).all fun p => sameKey depth p.1 p.2
    | .mapping as, .mapping bs =>
      as.length == bs.length && as.all fun a =>
        bs.any fun b => sameKey depth a.1 b.1 && sameKey depth a.2 b.2
    | .tagged s a, .tagged t b => withoutMark s == withoutMark t && sameKey depth a b
    | _, _ => false

/-! ## Text of a scalar value -/

/-- Floating-point values in YAML: from `0.00001` up to below `10 ^ 16` without exponent, and of two
equally near decimals the even one. -/
def floatStyle : Decimal.FloatStyle where
  minPoint := -4
  maxPoint := 16
  tie := .toEven
  infinity := ".inf"
  nan := ".nan"

/-- The text of a value that is one scalar; collections and tagged values have none. -/
def Value.scalarText? : Value → Option String
  | .null => some ""
  | .bool b => some (Text.ofTruth b)
  | .integer n => some (Decimal.intText n)
  | .float v => some (floatStyle.render .double v)
  | .text s => some s
  | .sequence _ | .mapping _ | .tagged .. => none

end ConfigBinding.Yaml
