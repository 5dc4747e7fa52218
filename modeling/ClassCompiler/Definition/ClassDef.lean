import ClassCompiler.Definition.Member

/-! Definitions of classes, ready to be written out. -/

namespace ClassCompiler

structure ClassDef where
  name : String
  modifiers : Modifiers := .none
  typeVariables : List TypeVariable := []
  superclass : Option TypeName := none
  interfaces : List TypeName := []
  annotations : List AnnotationDef := []
  fields : List FieldDef := []
  methods : List MethodDef := []
  nested : List ClassDef := []

/-- What a model says of a class: the part of a definition between its head and its end. -/
structure ClassBody where
  superclass : Option TypeName := none
  interfaces : List TypeName := []
  nested : List ClassDef := []
  fields : List FieldDef := []
  methods : List MethodDef := []

namespace ClassDef

/-- Adds a body behind what the definition holds; a superclass replaces the one before. -/
def extend (definition : ClassDef) (body : ClassBody) : ClassDef :=
  { definition with
    superclass := body.superclass <|> definition.superclass
    interfaces := definition.interfaces ++ body.interfaces
    nested := definition.nested ++ body.nested
    fields := definition.fields ++ body.fields
    methods := definition.methods ++ body.methods }

def modify (definition : ClassDef) (modifiers : Modifiers) : ClassDef :=
  { definition with modifiers := definition.modifiers.union modifiers }

def annotate (definition : ClassDef) (annotations : List AnnotationDef) : ClassDef :=
  { definition with annotations := definition.annotations ++ annotations }

def addTypeVariable (definition : ClassDef) (v : TypeVariable) : ClassDef :=
  { definition with typeVariables := definition.typeVariables ++ [v] }

def field? (definition : ClassDef) (name : String) : Option FieldDef :=
  definition.fields.find? (·.name = name)

def method? (definition : ClassDef) (name : String) : Option MethodDef :=
  definition.methods.find? (·.name = name)

def nested? (definition : ClassDef) (name : String) : Option ClassDef :=
  definition.nested.find? (·.name = name)

mutual

def same : ClassDef → ClassDef → Bool
  | ⟨name, modifiers, typeVars, superclass, interfaces, annotations, fields, methods, nested⟩,
    ⟨name', modifiers', typeVars', superclass', interfaces', annotations', fields', methods',
      nested'⟩ =>
    name = name' && modifiers = modifiers' && typeVars = typeVars' && superclass = superclass' &&
      interfaces = interfaces' && annotations = annotations' && fields = fields' &&
      methods = methods' && sameAll nested nested'

def sameAll : List ClassDef → List ClassDef → Bool
  | [], [] => true
  | a :: as, b :: bs => same a b && sameAll as bs
  | _, _ => false

end

mutual

theorem same_iff : (a b : ClassDef) → (same a b = true ↔ a = b)
  | ⟨_, _, _, _, _, _, _, _, nested⟩, ⟨_, _, _, _, _, _, _, _, _⟩ => by
    simp [same, sameAll_iff nested, and_assoc]

theorem sameAll_iff : (as bs : List ClassDef) → (sameAll as bs = true ↔ as = bs)
  | [], bs => by cases bs <;> simp [sameAll]
  | a :: as, bs => by cases bs <;> simp [sameAll, same_iff a, sameAll_iff as]

end

instance : DecidableEq ClassDef := fun a b => decidable_of_iff _ (same_iff a b)

end ClassDef

end ClassCompiler
