import ClassCompiler.Model.Argument

/-! Models of objects: what a class is to be generated for. An object has a supertype, interfaces,
nested objects, properties and methods; a property has a named type or an inline object. -/

namespace ClassCompiler

structure MemberValue where
  format : String
  arguments : List ModelArgument := []
  deriving DecidableEq

structure AnnotationMember where
  name : String
  value : MemberValue
  deriving DecidableEq

structure AnnotationModel where
  type : String
  members : List AnnotationMember := []
  deriving DecidableEq

structure ParameterModel where
  name : String
  type : String
  deriving DecidableEq

structure MethodModel where
  name : String
  returnType : String
  typeParameters : List String := []
  parameters : List ParameterModel := []
  body : String
  bodyArguments : List ModelArgument := []
  deriving DecidableEq

mutual

structure Property where
  name : String
  type : Option String := none
  object : Option ObjectModel := none
  required : Bool := false
  serializedName : Option String := none
  annotations : List AnnotationModel := []

structure ObjectModel where
  name : Option String := none
  superName : Option String := none
  interfaceNames : List String := []
  nested : List ObjectModel := []
  properties : List Property := []
  methods : List MethodModel := []

end

/-- The name that serialized forms use for a property. -/
def Property.wireName (property : Property) : String :=
  property.serializedName.getD property.name

namespace ObjectModel

mutual

def same : ObjectModel → ObjectModel → Bool
  | ⟨name, superName, interfaces, nested, properties, methods⟩,
    ⟨name', superName', interfaces', nested', properties', methods'⟩ =>
    name = name' && superName = superName' && interfaces = interfaces' && sameAll nested nested' &&
      sameProperties properties properties' && methods = methods'

def sameAll : List ObjectModel → List ObjectModel → Bool
  | [], [] => true
  | a :: as, b :: bs => same a b && sameAll as bs
  | _, _ => false

def sameProperty : Property → Property → Bool
  | ⟨name, type, object, required, serializedName, annotations⟩,
    ⟨name', type', object', required', serializedName', annotations'⟩ =>
    name = name' && type = type' && sameInline object object' && required = required' &&
      serializedName = serializedName' && annotations = annotations'

def sameInline : Option ObjectModel → Option ObjectModel → Bool
  | none, none => true
  | some a, some b => same a b
  | _, _ => false

def sameProperties : List Property → List Property → Bool
  | [], [] => true
  | a :: as, b :: bs => sameProperty a b && sameProperties as bs
  | _, _ => false

end

mutual

theorem same_iff : (a b : ObjectModel) → (same a b = true ↔ a = b)
  | ⟨_, _, _, nested, properties, _⟩, ⟨_, _, _, _, _, _⟩ => by
    simp [same, sameAll_iff nested, sameProperties_iff properties, and_assoc]

theorem sameAll_iff : (as bs : List ObjectModel) → (sameAll as bs = true ↔ as = bs)
  | [], bs => by cases bs <;> simp [sameAll]
  | a :: as, bs => by cases bs <;> simp [sameAll, same_iff a, sameAll_iff as]

theorem sameProperty_iff : (a b : Property) → (sameProperty a b = true ↔ a = b)
  | ⟨_, _, object, _, _, _⟩, ⟨_, _, _, _, _, _⟩ => by
    simp [sameProperty, sameInline_iff object, and_assoc]

theorem sameInline_iff : (a b : Option ObjectModel) → (sameInline a b = true ↔ a = b)
  | none, b => by cases b <;> simp [sameInline]
  | some a, b => by cases b <;> simp [sameInline, same_iff a]

theorem sameProperties_iff : (as bs : List Property) → (sameProperties as bs = true ↔ as = bs)
  | [], bs => by cases bs <;> simp [sameProperties]
  | a :: as, bs => by cases bs <;> simp [sameProperties, sameProperty_iff a, sameProperties_iff as]

end

instance : DecidableEq ObjectModel := fun a b => decidable_of_iff _ (same_iff a b)

instance : DecidableEq Property := fun a b => decidable_of_iff _ (sameProperty_iff a b)

end ObjectModel

end ClassCompiler
