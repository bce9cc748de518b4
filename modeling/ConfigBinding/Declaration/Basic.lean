import ConfigBinding.Declaration.FieldOptions
import ConfigBinding.Schema.Field

/-!
# Declarations

A declaration of a type lists fields with the texts of their attributes. It is bound field by field:
the attributes of each must be readable and fit together, and the first that do not are the fault of
the declaration, also where the field is ignored.
-/

set_option autoImplicit false

namespace ConfigBinding

/-- The forms of declarations. Only those with named fields can be bound. -/
inductive Declaration.Form where
  | named
  | positional
  | empty
  | alternatives
  | overlapping
  deriving DecidableEq, Repr

/-- A field of a declaration. -/
structure DeclaredField where
  /-- The field's name as it is written, with the mark of a raw word if it has that. -/
  ident : String
  attributes : List String
  deriving DecidableEq, Repr

/-- A declaration of a type. -/
structure Declaration where
  form : Declaration.Form
  fields : List DeclaredField
  deriving DecidableEq, Repr

/-- Why a declaration cannot be bound. -/
inductive DeclarationFault where
  | form (f : Declaration.Form)
  | item (fault : Declaration.AttributeFault)
  | options (conflict : Declaration.OptionConflict)
  deriving DecidableEq, Repr

/-- What is said about a fault. -/
def DeclarationFault.message : DeclarationFault → String
  | form .alternatives => "Configurable cannot be derived for enums"
  | form .overlapping => "Configurable cannot be derived for unions"
  | form _ => "Configurable requires a struct with named fields"
  | item fault => fault.message
  | options conflict => conflict.message

namespace DeclaredField

/-- The name of a field, without the mark of a raw word. -/
def name (f : DeclaredField) : String :=
  match f.ident.toList with
  | 'r' :: '#' :: cs => String.ofList cs
  | _ => f.ident

/-- The options of a field. -/
def options (f : DeclaredField) : Except DeclarationFault Declaration.FieldOptions :=
  match Declaration.Item.ofTexts f.attributes with
  | .error fault => .error (.item fault)
  | .ok items =>
    let o := Declaration.FieldOptions.ofItems items
    match o.conflict? with
    | some conflict => .error (.options conflict)
    | none => .ok o

end DeclaredField

namespace Declaration

/-- A field with its options. -/
structure BoundField where
  field : DeclaredField
  options : FieldOptions
  deriving DecidableEq, Repr

/-- The label of a field. -/
def BoundField.label (f : BoundField) : Label :=
  ⟨f.field.name, f.options.tags⟩

/-- Binds fields in order. -/
def bindAll : List DeclaredField → Except DeclarationFault (List BoundField)
  | [] => .ok []
  | f :: fs =>
    match f.options with
    | .error fault => .error fault
    | .ok o => (bindAll fs).map (⟨f, o⟩ :: ·)

/-- The bound fields of a declaration. -/
def boundFields (d : Declaration) : Except DeclarationFault (List BoundField) :=
  if d.form = .named then bindAll d.fields else .error (.form d.form)

end Declaration

end ConfigBinding
