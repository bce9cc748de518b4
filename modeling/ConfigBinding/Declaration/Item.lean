import ConfigBinding.Declaration.Token

/-!
# Attribute items

The attributes of a field that say how it is configured hold items: tags with a value, and flags,
which are on unless they are given as false. Items stand between brackets, separated by commas.

An item is read from its own tokens alone. The first fault on the way from its name to its end is
told of; where the tokens of the whole attribute end too early, the fault says so.
-/

set_option autoImplicit false

namespace ConfigBinding.Declaration

/-- The items with a value. -/
inductive TagName where
  | key
  | default
  | onPlatform
  deriving DecidableEq, Repr

/-- The items that are on or off. -/
inductive FlagName where
  | required
  | secret
  | ignored
  | nested
  | embedded
  | setter
  | fromText
  | fromBytes
  deriving DecidableEq, Repr

/-- An item of an attribute. -/
inductive Item where
  | tag (name : TagName) (value : String)
  | flag (name : FlagName) (value : Bool)
  deriving DecidableEq, Repr

/-- What an item is looked through for. -/
inductive Expectation where
  | item
  | word
  | literal
  | truth
  deriving DecidableEq, Repr

/-- Why an attribute is refused. -/
inductive AttributeFault where
  /-- The text is no sequence of tokens, or its brackets do not fit. -/
  | unreadable
  | argumentsMissing
  | argumentsAssigned
  /-- Something is missing; `atEnd` if that is because nothing follows. -/
  | missing (what : Expectation) (atEnd : Bool)
  | literalForItem
  | equalsMissing
  | separatorMissing
  | unknownItem
  | valueNotShown
  deriving DecidableEq, Repr

/-- The name of the attributes that hold items. -/
def attributeName : String :=
  "config"

/-- What is said about a missing part where something else stands. -/
def Expectation.complaint : Expectation → String
  | item => "unexpected token in nested attribute, expected ident"
  | word => "expected ident"
  | literal => "expected literal"
  | truth => "expected boolean literal"

/-- What is said about a missing part where nothing stands. -/
def Expectation.complaintAtEnd : Expectation → String
  | item => "unexpected end of input, expected nested attribute"
  | what => "unexpected end of input, " ++ what.complaint

/-- What is said about a fault. -/
def AttributeFault.message : AttributeFault → String
  | unreadable => "unexpected token"
  | argumentsMissing =>
    "expected attribute arguments in parentheses: #[" ++ attributeName ++ "(...)]"
  | argumentsAssigned => "expected parentheses: #[" ++ attributeName ++ "(...)]"
  | missing what atEnd => if atEnd then what.complaintAtEnd else what.complaint
  | literalForItem => "unexpected literal in nested attribute, expected ident"
  | equalsMissing => "expected `=`"
  | separatorMissing => "expected `,`"
  | unknownItem => "unknown config attribute"
  | valueNotShown => "expected a string literal"

namespace Item

/-! ## Names -/

/-- The tag of a name. -/
def tagName? : String → Option TagName
  | "env" => some .key
  | "default" => some .default
  | "on_gce" => some .onPlatform
  | _ => none

/-- The flag of a name. -/
def flagName? : String → Option FlagName
  | "required" => some .required
  | "secret" => some .secret
  | "ignored" => some .ignored
  | "nested" => some .nested
  | "flatten" => some .embedded
  | "setter" => some .setter
  | "from_str" => some .fromText
  | "from_bytes" => some .fromBytes
  | _ => none

/-- Reads the rest of a path behind one of its words: whether the path ends here, and what follows
it. -/
def pathRest (last : Bool) : List Token → Except AttributeFault (Bool × List Token)
  | .mark ':' true :: .mark ':' _ :: .word _ _ :: rest =>
    (pathRest last rest).map fun r => (false, r.2)
  | [.mark ':' true, .mark ':' _] => .error (.missing .word last)
  | .mark ':' true :: .mark ':' _ :: _ => .error (.missing .word false)
  | rest => .ok (true, rest)

/-- The fault of tokens that no item starts with. -/
def nameFault (last : Bool) : List Token → AttributeFault
  | [] => .missing .item last
  | .literal _ :: _ => .literalForItem
  | .mark '-' _ :: .literal (.number _) :: _ => .literalForItem
  | _ => .missing .item false

/-- Reads the path of an item: its name, unless the path is longer than one plain word, and what
follows it. -/
def path (last : Bool) : List Token → Except AttributeFault (Option String × List Token)
  | .mark ':' true :: .mark ':' _ :: .word _ _ :: rest =>
    (pathRest last rest).map fun r => (none, r.2)
  | .mark ':' true :: .mark ':' _ :: rest => .error (nameFault last rest)
  | .word name isRaw :: rest =>
    (pathRest last rest).map fun r => (if r.1 && !isRaw then some name else none, r.2)
  | rest => .error (nameFault last rest)

/-! ## Values -/

/-- The fault of tokens that do not start with what is expected. -/
def missingIn (what : Expectation) (last : Bool) (ts : List Token) : AttributeFault :=
  .missing what (last && ts.isEmpty)

/-- Reads the value of a tag from its equals sign on. -/
def tagValue (last : Bool) : List Token → Except AttributeFault (String × List Token)
  | .mark '=' _ :: rest =>
    match rest with
    | .literal (.text value) :: rest => .ok (value, rest)
    | .literal (.number digits) :: rest => .ok (digits, rest)
    | .literal .valueless :: _ => .error .valueNotShown
    | .word "true" false :: rest => .ok ("true", rest)
    | .word "false" false :: rest => .ok ("false", rest)
    | .mark '-' _ :: .literal (.number digits) :: rest => .ok ("-" ++ digits, rest)
    | rest => .error (missingIn .literal last rest)
  | _ => .error .equalsMissing

/-- Reads the value of a flag behind its name. -/
def flagValue (last : Bool) : List Token → Except AttributeFault (Bool × List Token)
  | .mark '=' _ :: rest =>
    match rest with
    | .word "true" false :: rest => .ok (true, rest)
    | .word "false" false :: rest => .ok (false, rest)
    | rest => .error (missingIn .truth last rest)
  | rest => .ok (true, rest)

/-! ## Items -/

/-- Reads an item behind its name, with what follows it. -/
def readNamed (last : Bool) (name : Option String) (ts : List Token) :
    Except AttributeFault (Item × List Token) :=
  match name.bind tagName?, name.bind flagName? with
  | some t, _ => (tagValue last ts).map fun v => (tag t v.1, v.2)
  | none, some f => (flagValue last ts).map fun v => (flag f v.1, v.2)
  | none, none => .error .unknownItem

/-- Reads an item from its tokens; `last` if it is the last of its attribute. -/
def read (last : Bool) (ts : List Token) : Except AttributeFault Item :=
  match path last ts with
  | .error fault => .error fault
  | .ok (name, rest) =>
    match readNamed last name rest with
    | .error fault => .error fault
    | .ok (item, []) => .ok item
    | .ok (_, _ :: _) => .error .separatorMissing

/-- Reads the items of an attribute, each from its own tokens. After the last comma there may be
nothing. -/
def readAll : List (List Token) → Except AttributeFault (List Item)
  | [] | [[]] => .ok []
  | ts :: rest =>
    match read rest.isEmpty ts with
    | .error fault => .error fault
    | .ok item => (readAll rest).map (item :: ·)

/-! ## Attributes -/

/-- Puts a token at the start of the first piece. -/
def extend (t : Token) : List (List Token) → List (List Token)
  | [] => [[t]]
  | piece :: pieces => (t :: piece) :: pieces

/-- Cuts tokens at the commas outside of brackets, `depth` of which are open at the start. -/
def cut (depth : Nat) : List Token → List (List Token)
  | [] => [[]]
  | .mark ',' isJoined :: ts =>
    if depth = 0 then [] :: cut depth ts else extend (.mark ',' isJoined) (cut depth ts)
  | .opening b :: ts => extend (.opening b) (cut (depth + 1) ts)
  | .closing b :: ts => extend (.closing b) (cut (depth - 1) ts)
  | t :: ts => extend t (cut depth ts)

/-- The tokens up to the bracket that closes the innermost of those that `opened` holds, and what
follows that. -/
def group? (opened : List Bracket) : List Token → Option (List Token × List Token)
  | [] => none
  | .opening b :: ts =>
    (group? (b :: opened) ts).map fun g => (.opening b :: g.1, g.2)
  | .closing b :: ts =>
    match opened with
    | [] => none
    | [c] => if b = c then some ([], ts) else none
    | c :: opened =>
      if b = c then (group? opened ts).map fun g => (.closing b :: g.1, g.2) else none
  | t :: ts => (group? opened ts).map fun g => (t :: g.1, g.2)

/-- The items of an attribute whose name says that it holds items, from the tokens behind the
name. -/
def ofArguments : List Token → Except AttributeFault (List Item)
  | [] => .error .argumentsMissing
  | .mark '=' _ :: _ => .error .argumentsAssigned
  | .opening b :: ts =>
    match group? [b] ts with
    | some (ts, []) => readAll (cut 0 ts)
    | _ => .error .unreadable
  | _ => .error .unreadable

/-- The items of an attribute; attributes of other names hold none. -/
def ofTokens : List Token → Except AttributeFault (List Item)
  | .word name isRaw :: rest =>
    match rest with
    | .mark ':' true :: .mark ':' _ :: _ => .ok []
    | rest => if name = attributeName ∧ isRaw = false then ofArguments rest else .ok []
  | _ => .ok []

/-- The items of the text of an attribute. -/
def ofText (s : String) : Except AttributeFault (List Item) :=
  match Token.scan? s.toList with
  | some ts => ofTokens ts
  | none => .error .unreadable

/-- The items of several attributes, in order. -/
def ofTexts : List String → Except AttributeFault (List Item)
  | [] => .ok []
  | s :: rest =>
    match ofText s with
    | .error fault => .error fault
    | .ok items => (ofTexts rest).map (items ++ ·)

end Item

end ConfigBinding.Declaration
