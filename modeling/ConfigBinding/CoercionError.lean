import ConfigBinding.Duration
import ConfigBinding.Text.Quoted

/-!
# Coercion errors

Why a raw text is no value of a leaf's type. Each error has a message that shows the offending text,
a summary that does not, and a detailed form that names its parts.
-/

set_option autoImplicit false

namespace ConfigBinding

/-- Why a raw text was refused. -/
inductive CoercionError where
  /-- The text is not written as values of the type are. -/
  | malformed (typeName raw : String)
  /-- The text is well written, but its value is not one of the type's. -/
  | outOfRange (typeName raw : String)
  | duration (raw : String) (fault : Duration.Fault)
  | unknownCode (raw : String)
  /-- An item of a map is not one key and one value. -/
  | mapItem (item : String)
  /-- The type's own reader refused the text, with these words. -/
  | custom (message : String)
  deriving DecidableEq

namespace CoercionError

/-- What is said about the error. -/
def message : CoercionError → String
  | malformed typeName raw => "invalid syntax for " ++ typeName ++ ": " ++ Text.quote raw
  | outOfRange typeName raw => "value " ++ Text.quote raw ++ " out of range for " ++ typeName
  | duration raw fault => "invalid duration " ++ Text.quote raw ++ ": " ++ fault.reason
  | unknownCode raw => "unknown status code " ++ Text.quote raw
  | mapItem item => "invalid map item: " ++ Text.quote item
  | custom message => message

/-- What is said about the error where the text must not be shown. -/
def summary : CoercionError → String
  | malformed .. => "invalid syntax"
  | outOfRange .. => "value out of range"
  | duration _ fault => fault.reason
  | unknownCode _ => "unknown status code"
  | mapItem _ => "invalid map item"
  | custom _ => "rejected by the field type"

/-- The parts of the error by name. -/
def detail : CoercionError → String
  | malformed typeName raw =>
    "Syntax \x7b kind: " ++ Text.quote typeName ++ ", raw: " ++ Text.quote raw ++ " \x7d"
  | outOfRange typeName raw =>
    "OutOfRange \x7b kind: " ++ Text.quote typeName ++ ", raw: " ++ Text.quote raw ++ " \x7d"
  | duration raw fault =>
    "Duration \x7b raw: " ++ Text.quote raw ++ ", reason: " ++ Text.quote fault.reason ++ " \x7d"
  | unknownCode raw => "UnknownCode(" ++ Text.quote raw ++ ")"
  | mapItem item => "MapItem(" ++ Text.quote item ++ ")"
  | custom message => "Custom(" ++ Text.quote message ++ ")"

end CoercionError

end ConfigBinding
