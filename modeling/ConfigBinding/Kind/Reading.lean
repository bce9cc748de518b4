import ConfigBinding.CoercionError
import ConfigBinding.Kind.Basic
import ConfigBinding.Numeral
import ConfigBinding.Text.Blank
import ConfigBinding.Text.Truth
import ConfigBinding.Text.UpperCase
import ConfigBinding.Text.Utf8

/-!
# Reading values from text

Every kind reads a value from one raw text. Scalars take the whole text. A list is cut at its commas
and a map at its commas and then at its colons; pieces are not trimmed, a blank text has no pieces,
and the first piece that fails decides the error. A list of bytes takes the bytes of the text as
they are.
-/

set_option autoImplicit false

namespace ConfigBinding.Kind

/-- The integer that a literal of the type's signedness stands for. -/
def readLiteral (t : IntType) (s : String) : Except Numeral.Fault Int :=
  if t.signed then Numeral.readSigned s.toList
  else (Numeral.readUnsigned s.toList).map Int.ofNat

/-- Reads an integer literal as a value of the type. -/
def readInt (t : IntType) (s : String) : Except CoercionError t.Value :=
  match readLiteral t s with
  | .error .malformed => .error (.malformed t.name s)
  | .error .tooLarge => .error (.outOfRange t.name s)
  | .ok n =>
    match t.ofInt? n with
    | some v => .ok v
    | none => .error (.outOfRange t.name s)

/-- Whether a text, signs aside, begins like the word `infinity`. -/
def namesInfinity (s : String) : Bool :=
  let cs := s.toList.dropWhile fun c => c == '+' || c == '-'
  (cs.take 3).map Char.toLower == ['i', 'n', 'f']

/-- Reads a floating-point number. A finite decimal that rounds to infinity is out of range. -/
def readFloat (t : FloatType) (s : String) : Except CoercionError Decimal.BinaryFloat :=
  match t.format.read? s.toList with
  | none => .error (.malformed t.name s)
  | some (.infinite negative) =>
    if namesInfinity s then .ok (.infinite negative) else .error (.outOfRange t.name s)
  | some v => .ok v

/-- Reads a duration. -/
def readDuration (s : String) : Except CoercionError Duration :=
  match Duration.read s with
  | .ok d => .ok d
  | .error fault => .error (.duration s fault)

/-- Reads a status code by its symbolic name in any case. -/
def readCode (s : String) : Except CoercionError StatusCode :=
  match StatusCode.ofName? (Text.upper s) with
  | some c => .ok c
  | none => .error (.unknownCode s)

/-- Reads a log level. -/
def readLevel (s : String) : Except CoercionError LogLevel :=
  match LogLevel.read? s with
  | some l => .ok l
  | none => .error (.custom LogLevel.expectation)

/-- Reads every piece; the first failure is the result. -/
def readPieces {α : Type} (read : String → Except CoercionError α) :
    List String → Except CoercionError (List α)
  | [] => .ok []
  | p :: ps =>
    match read p with
    | .error e => .error e
    | .ok v =>
      match readPieces read ps with
      | .error e => .error e
      | .ok vs => .ok (v :: vs)

/-- The pieces of a list text: none when it is blank, else those between its commas. -/
def itemsOf (s : String) : List String :=
  if Text.allBlank s then [] else Text.pieces ',' s

/-- Reads a map item: one key and one value around one colon. -/
def readEntry {α β : Type} (readKey : String → Except CoercionError α)
    (readValue : String → Except CoercionError β) (item : String) :
    Except CoercionError (α × β) :=
  match Text.pieces ':' item with
  | [key, value] =>
    match readKey key with
    | .error e => .error e
    | .ok k =>
      match readValue value with
      | .error e => .error e
      | .ok v => .ok (k, v)
  | _ => .error (.mapItem item)

/-- Puts an entry into a list of entries. An equal key that is there stays, with the new value. -/
def putEntry {α β : Type} (cmp : α → α → Ordering) (e : α × β) : List (α × β) → List (α × β)
  | [] => [e]
  | d :: ds => if cmp e.1 d.1 = .eq then (d.1, e.2) :: ds else d :: putEntry cmp e ds

/-- Puts an entry into a list sorted by key. An equal key that is there is replaced. -/
def putSorted {α β : Type} (cmp : α → α → Ordering) (e : α × β) : List (α × β) → List (α × β)
  | [] => [e]
  | d :: ds =>
    match cmp e.1 d.1 with
    | .lt => e :: d :: ds
    | .eq => e :: ds
    | .gt => d :: putSorted cmp e ds

/-- The entries of a hashed map, from the entries in the order of reading. -/
def hashMapOf {α β : Type} (cmp : α → α → Ordering) (entries : List (α × β)) : List (α × β) :=
  entries.foldl (fun m e => putEntry cmp e m) []

/-- The entries of a tree map, from the entries in the order of reading. -/
def treeMapOf {α β : Type} (cmp : α → α → Ordering) (entries : List (α × β)) : List (α × β) :=
  entries.foldl (fun m e => putSorted cmp e m) []

/-- The bytes of a text. -/
def bytesOf (s : String) : List IntType.u8.Value :=
  (Text.bytes s).map IntType.ofByte

/-- Reads a value of the kind. -/
def read : (k : Kind) → String → Except CoercionError k.Carrier
  | text, s => .ok s
  | path, s => .ok (⟨s⟩ : Path)
  | bool, s =>
    match Text.truth? s with
    | some b => .ok b
    | none => .error (.malformed "bool" s)
  | int t, s => readInt t s
  | float t, s => readFloat t s
  | duration, s => readDuration s
  | code, s => readCode s
  | level, s => readLevel s
  | option k, s => (k.read s).map some
  | list (int .u8), s => .ok (bytesOf s)
  | list k, s => readPieces k.read (itemsOf s)
  | hashMap key value, s =>
    (readPieces (readEntry key.read value.read) (itemsOf s)).map (hashMapOf key.compare)
  | treeMap key value, s =>
    (readPieces (readEntry key.read value.read) (itemsOf s)).map (treeMapOf key.compare)

theorem read_bool (s : String) :
    bool.read s = (Text.truth? s).elim (.error (.malformed "bool" s)) .ok := by
  conv =>
    lhs
    whnf
  cases Text.truth? s <;> rfl

end ConfigBinding.Kind
