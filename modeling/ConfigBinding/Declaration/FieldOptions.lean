import ConfigBinding.Declaration.Item
import ConfigBinding.Tags

/-!
# Field options

What the items on a field add up to. A tag with a value holds the last one given; the flags that
become tags stay once they are on; the flags that shape the field hold the last value given; of
several capabilities the strongest counts.
-/

set_option autoImplicit false

namespace ConfigBinding.Declaration

/-- How the field's type takes a raw text, where that is not by its kind. -/
inductive Capability where
  | setter
  | fromText
  | fromBytes
  deriving DecidableEq, Repr

/-- The place of a capability, the strongest first. -/
def Capability.rank : Capability → Nat
  | setter => 0
  | fromText => 1
  | fromBytes => 2

/-- Why the options of a field do not fit together. -/
inductive OptionConflict where
  | nestedAndEmbedded
  | leafAndStructure
  deriving DecidableEq, Repr

/-- What is said about a conflict. -/
def OptionConflict.message : OptionConflict → String
  | nestedAndEmbedded => "`nested` and `flatten` are mutually exclusive"
  | leafAndStructure =>
    "a field with a parsing capability is a leaf and cannot be `nested` or `flatten`"

/-- The key that a tag item sets. -/
def TagName.tagKey : TagName → String
  | key => Tags.variableKey
  | default => Tags.defaultKey
  | onPlatform => Tags.onPlatformKey

/-- The options of a field. -/
structure FieldOptions where
  tags : Tags
  ignored : Bool
  nested : Bool
  embedded : Bool
  capability : Option Capability
  deriving DecidableEq, Repr

namespace FieldOptions

/-- The options of a field without items. -/
def none : FieldOptions :=
  ⟨Tags.empty, false, false, false, Option.none⟩

/-- The options with the tag of a key set. -/
def setTag (o : FieldOptions) (key value : String) : FieldOptions :=
  { o with tags := o.tags.set key value }

/-- The options with the tag of a key switched on, if it is to be. -/
def switchOn (o : FieldOptions) (key : String) (value : Bool) : FieldOptions :=
  if value then o.setTag key (Text.ofTruth true) else o

/-- The stronger of the capability there is and another. -/
def stronger (there : Option Capability) (c : Capability) : Capability :=
  match there with
  | some current => if current.rank ≤ c.rank then current else c
  | Option.none => c

/-- The options with a capability added, if it is to be. -/
def addCapability (o : FieldOptions) (c : Capability) (value : Bool) : FieldOptions :=
  if value then { o with capability := some (stronger o.capability c) } else o

/-- The options with an item added. -/
def add (o : FieldOptions) : Item → FieldOptions
  | .tag name value => o.setTag name.tagKey value
  | .flag .required value => o.switchOn Tags.requiredKey value
  | .flag .secret value => o.switchOn Tags.secretKey value
  | .flag .ignored value => { o with ignored := value }
  | .flag .nested value => { o with nested := value }
  | .flag .embedded value => { o with embedded := value }
  | .flag .setter value => o.addCapability .setter value
  | .flag .fromText value => o.addCapability .fromText value
  | .flag .fromBytes value => o.addCapability .fromBytes value

/-- The options that items add up to. -/
def ofItems (items : List Item) : FieldOptions :=
  items.foldl add none

/-- The conflict in the options, if there is one. -/
def conflict? (o : FieldOptions) : Option OptionConflict :=
  if o.nested && o.embedded then some .nestedAndEmbedded
  else if (o.nested || o.embedded) && o.capability.isSome then some .leafAndStructure
  else Option.none

end FieldOptions

end ConfigBinding.Declaration
