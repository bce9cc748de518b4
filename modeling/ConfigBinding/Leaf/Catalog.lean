import ConfigBinding.IpAddress
import ConfigBinding.Kind.Spelling
import ConfigBinding.Leaf.Basic

/-!
# A catalogue of leaf types

Leaf types by their spelling. Every spelled kind is one; a capability before a colon names a type
with a setter or a reader of its own: tallies, which collect texts, bytes written in hexadecimal,
four-byte numbers and arrays, and a few scalars with stricter readers than their kinds have.
-/

set_option autoImplicit false

namespace ConfigBinding.CustomType

/-- Shown values between square brackets. -/
def renderList {α : Type} (render : α → String) (xs : List α) : String :=
  Kind.bracketed '[' ']' (xs.map render)

/-- The text of bytes as numbers. -/
def renderBytes (bs : List UInt8) : String :=
  renderList (fun b => Decimal.natText b.toNat) bs

/-- A list of texts to which every assignment appends the pieces between plus signs. -/
def tally : CustomType :=
  ofSetter (α := List String) "catalog::Tally" []
    (fun raw v => if raw.isEmpty then .error "empty tally" else .ok (v ++ Text.pieces '+' raw))
    (fun v => "Tally(" ++ renderList Text.quote v ++ ")")

/-! ## Hexadecimal bytes -/

/-- The value of a hexadecimal digit, given as a byte. -/
def hexByte? (b : UInt8) : Option Nat :=
  if b.toNat < 0x80 then Numeral.digitOf? 16 (Char.ofNat b.toNat) else none

/-- The byte written by two characters; a plus sign may stand for the first digit. -/
def hexPair? (a b : UInt8) : Option UInt8 :=
  match hexByte? a, hexByte? b with
  | some m, some n => some (16 * m + n).toUInt8
  | none, some n => if a.toNat = '+'.toNat then some n.toUInt8 else none
  | _, none => none

/-- Reads bytes from pairs of characters, from the byte `offset` on. -/
def readHex (offset : Nat) : List UInt8 → Except String (List UInt8)
  | [] => .ok []
  | [_] => .error ("invalid hex at " ++ Decimal.natText offset)
  | a :: b :: rest =>
    match hexPair? a b with
    | none => .error ("invalid hex at " ++ Decimal.natText offset)
    | some byte => (readHex (offset + 2) rest).map (byte :: ·)

/-- Bytes written in hexadecimal. -/
def hex : CustomType :=
  ofText (α := List UInt8) "catalog::Hex" [] (fun raw => readHex 0 (Text.bytes raw))
    (fun v => "Hex(" ++ renderBytes v ++ ")")

/-! ## Numbers and arrays of four bytes -/

/-- The number that bytes stand for, the most significant first. -/
def bigEndian (bs : List UInt8) : Nat :=
  bs.foldl (fun n b => 256 * n + b.toNat) 0

/-- Four bytes as one number. -/
def magic : CustomType :=
  ofBytes (α := Nat) "catalog::Magic" 0
    (fun bs =>
      if bs.length = 4 then .ok (bigEndian bs)
      else .error ("expected 4 bytes, got " ++ Decimal.natText bs.length))
    (fun n => "Magic(" ++ Decimal.natText n ++ ")")

/-- Four bytes as they are. -/
def fourBytes : CustomType :=
  ofBytes (α := List UInt8) "[u8; 4]" [0, 0, 0, 0]
    (fun bs => if bs.length = 4 then .ok bs else .error "could not convert slice to array")
    renderBytes

/-! ## Scalars with strict readers -/

/-- Reads digits from the left: a character that is none decides, unless the value has passed 65535
before it. -/
def readPortDigits (total : Nat) : List Char → Except String Nat
  | [] => .ok total
  | c :: rest =>
    if !c.isDigit then .error "invalid digit found in string"
    else
      let n := 10 * total + Decimal.digitValue c
      if n ≤ 65535 then readPortDigits n rest
      else .error "number too large to fit in target type"

/-- Reads a decimal number up to 65535, with an optional plus sign. -/
def readPort (s : String) : Except String Nat :=
  match s.toList with
  | [] => .error "cannot parse integer from empty string"
  | ['+'] | ['-'] => .error "invalid digit found in string"
  | '+' :: cs => readPortDigits 0 cs
  | cs => readPortDigits 0 cs

/-- Decimal numbers up to 65535. -/
def port : CustomType :=
  ofText (α := Nat) "u16" 0 readPort Decimal.natText

/-- Truth values spelled `true` and `false`. -/
def truth : CustomType :=
  ofText (α := Bool) "bool" false
    (fun raw =>
      if raw = "true" then .ok true
      else if raw = "false" then .ok false
      else .error "provided string was not `true` or `false`")
    Text.ofTruth

/-- Single characters. -/
def character : CustomType :=
  ofText (α := Char) "char" 'a'
    (fun raw =>
      match raw.toList with
      | [] => .error "cannot parse char from empty string"
      | [c] => .ok c
      | _ => .error "too many characters in string")
    Text.quoteChar

/-- Texts, taken as they are. -/
def verbatim : CustomType :=
  ofText (α := String) "text::String" "" .ok Text.quote

/-- Internet addresses. -/
def ipAddress : CustomType :=
  ofText (α := IpAddress) "net::IpAddr" IpAddress.unspecified
    (fun raw =>
      match IpAddress.read? raw with
      | some a => .ok a
      | none => .error "invalid IP address syntax")
    IpAddress.render

end ConfigBinding.CustomType

namespace ConfigBinding.LeafType

/-- The leaf type of a spelling. -/
def ofSpelling? (s : String) : Option LeafType :=
  match s with
  | "setter:Tally" => some (custom CustomType.tally)
  | "from_str:Hex" => some (custom CustomType.hex)
  | "from_bytes:Magic" => some (custom CustomType.magic)
  | "from_bytes:[u8; 4]" => some (custom CustomType.fourBytes)
  | "from_str:u16" => some (custom CustomType.port)
  | "from_str:bool" => some (custom CustomType.truth)
  | "from_str:char" => some (custom CustomType.character)
  | "from_str:String" => some (custom CustomType.verbatim)
  | "from_str:IpAddr" => some (custom CustomType.ipAddress)
  | _ => (Kind.ofSpelling? s).map kind

end ConfigBinding.LeafType
