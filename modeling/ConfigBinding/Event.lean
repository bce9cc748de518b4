import ConfigBinding.Decimal.Digits
import ConfigBinding.Environment.Basic
import ConfigBinding.LogLevel
import ConfigBinding.Path

/-!
# Events

What a configuration reports while it is decoded, built, loaded and shown: every event has a level,
a message and named fields.
-/

set_option autoImplicit false

namespace ConfigBinding

universe u

/-- Which tier supplied a value. -/
inductive Source where
  | environment (origin : Origin)
  | default
  | onPlatform
  deriving DecidableEq, Repr

/-- The text of a source. -/
def Source.text : Source → String
  | environment origin => "Environment(" ++ origin.name ++ ")"
  | default => "Default"
  | onPlatform => "OnGce"

/-- A reported event. -/
inductive Event where
  | descriptorDecoded (path : Path) (kind : String) (entries : Nat)
  | valueIgnored (key : String)
  | entryOverridden (key : String)
  | environmentLayered (path : Path) (added : Nat)
  | valueResolved (key : String) (source : Source)
  | keyShared (key first second : String)
  | loaded (groups : Nat)
  | resolved (group values : String)
  | valid
  deriving DecidableEq, Repr

namespace Event

/-- The level of an event. -/
def level : Event → LogLevel
  | keyShared .. => .warn
  | loaded _ | resolved .. | valid => .info
  | _ => .debug

/-- The message of an event. -/
def message : Event → String
  | descriptorDecoded .. => "descriptor decoded"
  | valueIgnored _ => "ignoring non-scalar descriptor value"
  | entryOverridden _ => "local environment overrides descriptor entry"
  | environmentLayered .. => "descriptor environment layered"
  | valueResolved .. => "resolved config value"
  | keyShared .. => "config key registered by more than one group"
  | loaded _ => "configuration loaded"
  | resolved .. => "resolved configuration"
  | valid => "configuration is valid"

/-- The fields of an event, in order. -/
def fields : Event → List (String × String)
  | descriptorDecoded path kind entries =>
    [("path", path.text), ("kind", kind), ("entries", Decimal.natText entries)]
  | valueIgnored key => [("key", key)]
  | entryOverridden key => [("key", key)]
  | environmentLayered path added => [("path", path.text), ("added", Decimal.natText added)]
  | valueResolved key source => [("key", key), ("source", source.text)]
  | keyShared key first second => [("key", key), ("first", first), ("second", second)]
  | loaded groups => [("groups", Decimal.natText groups)]
  | resolved group values => [("group", group), ("values", values)]
  | valid => []

end Event

/-- The result of an operation with the events it reported, in order. -/
structure Report (ε : Type) (α : Type u) where
  result : Except ε α
  events : List Event

end ConfigBinding
