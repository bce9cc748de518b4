/-!
# Entries

A deployment descriptor lists entries for the environment. An entry has a literal value, or refers
to a secret kept elsewhere, or has neither.
-/

set_option autoImplicit false

namespace ConfigBinding

/-- The place of a secret: the store's name for it, and the key within it. -/
structure SecretRef where
  name : String
  key : String
  deriving DecidableEq, Repr

/-- An entry of a descriptor. -/
structure Entry where
  name : String
  value : Option String
  secret : Option SecretRef
  deriving DecidableEq, Repr

namespace Entry

/-- An entry with a literal value. -/
def literal (name value : String) : Entry :=
  ⟨name, some value, none⟩

/-- An entry that refers to a secret. -/
def secretRef (name store key : String) : Entry :=
  ⟨name, none, some ⟨store, key⟩⟩

/-- Whether the entry refers to a secret. -/
def isSecret (e : Entry) : Bool :=
  e.secret.isSome

end Entry

end ConfigBinding
