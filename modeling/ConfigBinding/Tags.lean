import ConfigBinding.Text.Truth

/-!
# Tags

The ordered key-value remarks on a declared field. The first tag of a key is the one that counts.
-/

set_option autoImplicit false

namespace ConfigBinding

/-- The tags of a field, in the order of declaration. -/
structure Tags where
  pairs : List (String × String)
  deriving DecidableEq, Repr

namespace Tags

/-- No tags. -/
def empty : Tags :=
  ⟨[]⟩

instance : Inhabited Tags := ⟨empty⟩

/-- The key of the tag that names a variable outright. -/
def variableKey : String :=
  "env"

/-- The key of the tag that holds a value for when the environment has none. -/
def defaultKey : String :=
  "default"

/-- The key of the tag that holds a value for the cloud platform. -/
def onPlatformKey : String :=
  "onGCE"

/-- The key of the tag that demands a value. -/
def requiredKey : String :=
  "required"

/-- The key of the tag that hides the value. -/
def secretKey : String :=
  "secret"

/-- The value of the first tag of a key. -/
def get? (t : Tags) (key : String) : Option String :=
  t.pairs.lookup key

/-- Whether there is a tag of the key and its value reads as true. -/
def isTrue (t : Tags) (key : String) : Bool :=
  ((t.get? key).bind Text.truth?).getD false

/-- Gives the tag of a key a value: in its place if there is one, else at the end. -/
def set (t : Tags) (key value : String) : Tags :=
  if t.pairs.any (·.1 == key) then
    ⟨t.pairs.map fun p => if p.1 == key then (p.1, value) else p⟩
  else ⟨t.pairs ++ [(key, value)]⟩

end Tags

end ConfigBinding
