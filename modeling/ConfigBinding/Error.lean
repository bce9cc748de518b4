import ConfigBinding.CoercionError
import ConfigBinding.FileSystem
import ConfigBinding.Schema.Basic

/-!
# Configuration errors

Everything that building, loading or decoding a configuration can fail with, and the texts that tell
of it. A value that a field refuses is told of with the field and, unless the field is a secret,
with the value; of a secret's value nothing is shown.
-/

set_option autoImplicit false

namespace ConfigBinding

/-- A value that a field refused. -/
structure ParseError where
  key : String
  field : String
  typeName : String
  value : String
  secret : Bool
  cause : CoercionError
  deriving DecidableEq

namespace ParseError

/-- What is said about the error. -/
def message (e : ParseError) : String :=
  let shown := if e.secret then Schema.redacted else e.value
  let reason := if e.secret then e.cause.summary else e.cause.message
  "config parse error: assigning " ++ e.key ++ " to " ++ e.field ++ ": converting '" ++ shown ++
    "' to type " ++ e.typeName ++ ": " ++ reason

/-- The parts of the error by name. -/
def detail (e : ParseError) : String :=
  let shown := if e.secret then Schema.redacted else e.value
  let cause := if e.secret then Text.quote e.cause.summary else e.cause.detail
  "ParseError \x7b key: " ++ Text.quote e.key ++ ", field: " ++ Text.quote e.field ++
    ", type_name: " ++ Text.quote e.typeName ++ ", value: " ++ Text.quote shown ++
    ", secret: " ++ Text.ofTruth e.secret ++ ", source: " ++ cause ++ " \x7d"

/-- What is said about the causes of the error, the nearest first. -/
def causes (e : ParseError) : List String :=
  if e.secret then [] else [e.cause.message]

end ParseError

/-- Why a configuration was not built, decoded or loaded. -/
inductive ConfigError where
  | fileNotFound (path : Path)
  | unreadable (path : Path) (fault : ReadFault)
  /-- A descriptor that is no document of its kind. -/
  | malformed (path : Path)
  | unknownKind (kind : String)
  | containerCount (count : Nat)
  /-- A secret entry that no field has the key of. -/
  | unboundSecret (key : String)
  /-- A secret entry whose key only fields have that are no secrets. -/
  | untaggedSecret (key field : String)
  | duplicateKey (group key : String)
  | alreadyLoaded
  | missingRequired (key : String)
  | parse (e : ParseError)
  deriving DecidableEq

/-- The coarse classes of configuration errors. -/
inductive ErrorKind where
  | structural
  | missingRequiredValue
  | parse
  deriving DecidableEq, Repr

/-- The name of a class of errors. -/
def ErrorKind.name : ErrorKind → String
  | structural => "Structural"
  | missingRequiredValue => "MissingRequiredValue"
  | parse => "Parse"

namespace ConfigError

/-- The class of an error. -/
def kind : ConfigError → ErrorKind
  | missingRequired _ => .missingRequiredValue
  | parse _ => .parse
  | _ => .structural

/-- What is said about the error. -/
def message : ConfigError → String
  | fileNotFound path => "descriptor file not found: " ++ path.text
  | unreadable path fault =>
    "failed to read descriptor file '" ++ path.text ++ "': " ++ fault.reason
  | malformed path => "failed to parse descriptor file '" ++ path.text ++ "'"
  | unknownKind kind =>
    "unknown descriptor kind " ++ Text.quote kind ++ ", expected Service, WorkerPool or Job"
  | containerCount count =>
    "descriptor has " ++ Decimal.natText count ++ " containers, expected between 1 and 10"
  | unboundSecret key => "descriptor secret " ++ key ++ " has no matching config field"
  | untaggedSecret key field =>
    "descriptor entry " ++ key ++ " is a secret reference but field " ++ field ++
      " is not tagged secret"
  | duplicateKey group key => "duplicate config key " ++ key ++ " in group " ++ group
  | alreadyLoaded => "configuration already loaded"
  | missingRequired key => "required key " ++ key ++ " missing value"
  | parse e => e.message

/-- The parts of an error by name, of a value that a field refused. The other errors hold no value
of the configuration, and of them the message says all. -/
def detail? : ConfigError → Option String
  | parse e => some ("Parse(" ++ e.detail ++ ")")
  | _ => none

/-- What is said about the causes of the error, the nearest first. -/
def causes : ConfigError → List String
  | unreadable _ fault => [fault.reason]
  | parse e => e.causes
  | _ => []

end ConfigError

end ConfigBinding
