import ConfigBinding.Tags
import ConfigBinding.Text.UpperCase

/-!
# Fields and their keys

A label is the name and the tags under which a field is declared. Where the label stands decides its
key, the name of the variable that supplies the field's value: a tag that names the variable wins,
and otherwise the key is the label's name behind the scope, the key of the structure around it. Keys
are in upper case.
-/

set_option autoImplicit false

namespace ConfigBinding

/-- The name and the tags of a declared field. -/
structure Label where
  name : String
  tags : Tags
  deriving DecidableEq, Repr

namespace Label

/-- The key by name: behind the scope, unless that is empty. -/
def scopedKey (scope : String) (l : Label) : String :=
  if scope.isEmpty then Text.upper l.name else Text.upper (scope ++ "_" ++ l.name)

/-- The variable that the tags name, if they name one. -/
def boundTo? (l : Label) : Option String :=
  (l.tags.get? Tags.variableKey).filter (!·.isEmpty)

/-- The key of a label in a scope. -/
def key (scope : String) (l : Label) : String :=
  match l.boundTo? with
  | some v => Text.upper v
  | none => l.scopedKey scope

end Label

/-- A leaf of a structure, as far as it is known without its value. -/
structure Field where
  name : String
  key : String
  typeName : String
  tags : Tags
  deriving DecidableEq, Repr

namespace Field

/-- The value for when the environment has none. -/
def default? (f : Field) : Option String :=
  f.tags.get? Tags.defaultKey

/-- The value for the cloud platform. -/
def onPlatform? (f : Field) : Option String :=
  f.tags.get? Tags.onPlatformKey

/-- Whether a load must find a value. -/
def isRequired (f : Field) : Bool :=
  f.tags.isTrue Tags.requiredKey

/-- Whether the value is hidden in diagnostics. -/
def isSecret (f : Field) : Bool :=
  f.tags.isTrue Tags.secretKey

end Field

end ConfigBinding
