import ConfigBinding.Declaration.Basic

/-!
# Plans

The plan of a declaration is what is generated for it: a table with the labels of the fields that
have one, and the steps of a walk over a value of the declared type. A step refers to a label by its
place in the table.
-/

set_option autoImplicit false

namespace ConfigBinding.Declaration

/-- How a leaf takes a raw text. -/
inductive Slot where
  | kind
  | setter
  | text
  | bytes
  deriving DecidableEq, Repr

/-- The slot of a field's capability. -/
def Slot.ofCapability : Option Capability → Slot
  | some .setter => setter
  | some .fromText => text
  | some .fromBytes => bytes
  | none => kind

/-- A step of a walk: to a field, with the place of its label in the table. -/
inductive Step where
  | leaf (index : Nat) (slot : Slot) (ident : String)
  | nested (index : Nat) (ident : String)
  | embedded (ident : String)
  deriving DecidableEq, Repr

/-- A table of labels, and steps that refer to it. -/
structure Plan where
  table : List Label
  steps : List Step
  deriving DecidableEq, Repr

namespace Plan

/-- The plan for no fields. -/
def empty : Plan :=
  ⟨[], []⟩

/-- The plan with a step that has a label. -/
def addLabelled (p : Plan) (label : Label) (step : Nat → Step) : Plan :=
  ⟨p.table ++ [label], p.steps ++ [step p.table.length]⟩

/-- The plan with one more field. An ignored field has no step, an embedded one no label. -/
def add (p : Plan) (f : BoundField) : Plan :=
  if f.options.ignored then p
  else if f.options.embedded then { p with steps := p.steps ++ [.embedded f.field.ident] }
  else if f.options.nested then p.addLabelled f.label fun i => .nested i f.field.ident
  else
    p.addLabelled f.label fun i =>
      .leaf i (Slot.ofCapability f.options.capability) f.field.ident

/-- The plan for fields. -/
def ofFields (fields : List BoundField) : Plan :=
  fields.foldl add empty

end Plan

/-- The plan for a declaration. -/
def plan (d : Declaration) : Except DeclarationFault Plan :=
  d.boundFields.map Plan.ofFields

end ConfigBinding.Declaration
