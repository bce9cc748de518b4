import ConfigBinding.Declaration.Plan
import ConfigBinding.Schema.Basic

/-!
# The structures of declarations and plans

Given what is in the fields of a value, a declaration says which structure the value has, and the
steps of a plan say which structure they walk over.
-/

set_option autoImplicit false

namespace ConfigBinding.Declaration

universe u

/-- What is in the fields of a value: a leaf, which takes a raw text by its slot, or a structure. -/
structure Members (α : Type u) where
  leaf : Slot → String → α
  inner : String → Wrapping × Schema α

variable {α : Type u}

/-- The structure of fields. -/
def schemaOf (m : Members α) : List BoundField → Schema α
  | [] => .nil
  | f :: rest =>
    let rest := schemaOf m rest
    let inner := m.inner f.field.ident
    if f.options.ignored then rest
    else if f.options.embedded then .embedded inner.1 inner.2 rest
    else if f.options.nested then .nested f.label inner.1 inner.2 rest
    else .leaf f.label (m.leaf (Slot.ofCapability f.options.capability) f.field.ident) rest

/-- The structure that steps walk over; none if one refers to no place of the table. -/
def schemaOfSteps? (m : Members α) (table : List Label) : List Step → Option (Schema α)
  | [] => some .nil
  | .leaf index slot ident :: rest =>
    (table[index]?).bind fun label =>
      (schemaOfSteps? m table rest).map (.leaf label (m.leaf slot ident))
  | .nested index ident :: rest =>
    (table[index]?).bind fun label =>
      (schemaOfSteps? m table rest).map (.nested label (m.inner ident).1 (m.inner ident).2)
  | .embedded ident :: rest =>
    (schemaOfSteps? m table rest).map (.embedded (m.inner ident).1 (m.inner ident).2)

/-- The structure that the steps of a plan walk over. -/
def Plan.toSchema? (p : Plan) (m : Members α) : Option (Schema α) :=
  schemaOfSteps? m p.table p.steps

end ConfigBinding.Declaration
