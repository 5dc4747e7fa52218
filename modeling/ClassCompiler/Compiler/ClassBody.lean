import ClassCompiler.Compiler.Basic
import ClassCompiler.Compiler.Compile

/-! Compiling a model into the body of a class. Nested objects become nested classes; an inline
object becomes a class of its own in the registry, named after the stem and its property. -/

namespace ClassCompiler
open Text

namespace Compiler

def nestedStem (compiler : Compiler) (stem name : String) : String :=
  if compiler.options.scopedPrefixes then stem ++ capitalize name else ""

def inlineStem (compiler : Compiler) (name : ClassName) : String :=
  if compiler.options.scopedPrefixes then name.simpleName else ""

def inlineClass (compiler : Compiler) (stem property : String) : ClassName :=
  compiler.scope.classFor [stem, property]

def publicClass (name : String) : ClassDef := { name, modifiers := { isPublic := true } }

def staticClass (name : String) : ClassDef := { name, modifiers := { isStatic := true } }

def enclosingClass (self : TypeName) : Except CompileError ClassName :=
  match self.enclosingClass? with
  | some name => .ok name
  | none => .error (.unsupportedShape self .enclosingType)

mutual

/-- The body for a model in a class that refers to itself as `self`: supertypes, nested classes,
fields and setters, and methods are compiled in this order. -/
def classBody (compiler : Compiler) (self : TypeName) (stem : String) :
    ObjectModel → Compile ClassBody
  | ⟨_, superName, interfaceNames, nested, properties, methods⟩ => do
    let superclass ← compiler.optionalTypeName superName
    let interfaces ← compiler.typeNames interfaceNames
    let nested ← nestedClasses compiler self stem 0 nested
    let fields ← fieldsOf compiler stem properties
    let setters ← compiler.setters self properties fields
    let methods ← compiler.methods methods
    return { superclass, interfaces, nested, fields, methods := setters ++ methods }

def nestedClasses (compiler : Compiler) (self : TypeName) (stem : String) (index : Nat) :
    List ObjectModel → Compile (List ClassDef)
  | [] => return []
  | model :: models => do
    let enclosing ← enclosingClass self
    match model.name with
    | none => throw (.model (.missingName enclosing.simpleName index))
    | some name =>
      let body ←
        classBody compiler (.named (enclosing.nested name)) (compiler.nestedStem stem name) model
      let more ← nestedClasses compiler self stem (index + 1) models
      return (staticClass name).extend body :: more

def fieldsOf (compiler : Compiler) (stem : String) : List Property → Compile (List FieldDef)
  | [] => return []
  | property :: properties => do
    let type ← propertyType compiler stem property
    let field ← compiler.field property type
    return field :: (← fieldsOf compiler stem properties)

/-- The type of a property. The class of an inline object is registered, unless its name is
already. -/
def propertyType (compiler : Compiler) (stem : String) : Property → Compile TypeName
  | ⟨_, some token, none, _, _, _⟩ => compiler.typeName token
  | ⟨name, none, some model, _, _, _⟩ => do
    let inlineName := compiler.inlineClass stem name
    let head := publicClass inlineName.simpleName
    let _ ← Registry.define inlineName do
      let body ← classBody compiler (compiler.selfType head) (compiler.inlineStem inlineName) model
      return head.extend body
    return .named inlineName
  | ⟨name, none, none, _, _, _⟩ => throw (.model (.missingVariant name))
  | ⟨name, some _, some _, _, _, _⟩ => throw (.model (.conflictingVariants name))

end

end Compiler

end ClassCompiler
