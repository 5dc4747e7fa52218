import ClassCompiler.Model.ObjectModel

/-! What can be wrong with a model, whatever its types stand for. -/

namespace ClassCompiler

inductive NameKind
  | object
  | nestedObject
  | property
  | annotationType
  | method
  | typeParameter
  | parameter
  deriving DecidableEq

def NameKind.text : NameKind → String
  | object => "object"
  | nestedObject => "nested object"
  | property => "property"
  | annotationType => "annotation"
  | method => "method"
  | typeParameter => "type parameter"
  | parameter => "parameter"

/-- A fault of a model. An owner is the name of the object or method around the fault. -/
inductive Violation
  | missingVariant (property : String)
  | conflictingVariants (property : String)
  | missingName (owner : String) (index : Nat)
  | invalidIdentifier (kind : NameKind) (name : String)
  | duplicate (kind : NameKind) (name owner : String)
  deriving DecidableEq

def Violation.message : Violation → String
  | missingVariant property => s!"no type specified for property '{property}'"
  | conflictingVariants property =>
    s!"property '{property}' specifies both a type and an inline object"
  | missingName owner index => s!"nested object #{index} in '{owner}' has no name"
  | invalidIdentifier kind name => s!"invalid {kind.text} name '{name}'"
  | duplicate kind name owner => s!"duplicate {kind.text} '{name}' in '{owner}'"

inductive PropertyType
  | named (token : String)
  | inline (object : ObjectModel)

/-- A property has a named type or an inline object, and not both. -/
def Property.choice (property : Property) : Except Violation PropertyType :=
  match property.type, property.object with
  | some token, none => .ok (.named token)
  | none, some object => .ok (.inline object)
  | none, none => .error (.missingVariant property.name)
  | some _, some _ => .error (.conflictingVariants property.name)

end ClassCompiler
