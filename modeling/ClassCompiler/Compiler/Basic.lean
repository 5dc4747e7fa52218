import ClassCompiler.Compiler.Error
import ClassCompiler.Compiler.Options
import ClassCompiler.Definition.ClassDef
import ClassCompiler.Scope.TypeParser

/-! The members that properties and methods of a model compile to. -/

namespace ClassCompiler
open Text

/-- What a compilation is made with. All classes refer to themselves as `pinnedSelf` if it is
given, and as the scope says otherwise. -/
structure Compiler where
  scope : Scope
  options : Options := {}
  pinnedSelf : Option TypeName := none

namespace Compiler

def typeName (compiler : Compiler) (token : String) : Except CompileError TypeName :=
  (compiler.scope.typeName token).mapError (.invalidTypeName token)

def typeNames (compiler : Compiler) : List String → Except CompileError (List TypeName)
  | [] => .ok []
  | token :: tokens => do
    let type ← compiler.typeName token
    return type :: (← compiler.typeNames tokens)

def optionalTypeName (compiler : Compiler) : Option String → Except CompileError (Option TypeName)
  | none => .ok none
  | some token => some <$> compiler.typeName token

def selfType (compiler : Compiler) (definition : ClassDef) : TypeName :=
  compiler.pinnedSelf.getD (compiler.scope.selfType definition)

def argument (compiler : Compiler) : ModelArgument → Except CompileError Argument
  | .literal text => .ok (.literal text)
  | .type token => .type <$> compiler.typeName token

def arguments (compiler : Compiler) : List ModelArgument → Except CompileError (List Argument)
  | [] => .ok []
  | model :: models => do
    let argument ← compiler.argument model
    return argument :: (← compiler.arguments models)

def addMembers (compiler : Compiler) (definition : AnnotationDef) :
    List AnnotationMember → Except CompileError AnnotationDef
  | [] => .ok definition
  | member :: members => do
    let arguments ← compiler.arguments member.value.arguments
    let definition ←
      (definition.addMember member.name member.value.format arguments).mapError .template
    compiler.addMembers definition members

def annotate (compiler : Compiler) (model : AnnotationModel) : Except CompileError AnnotationDef := do
  match ← compiler.typeName model.type with
  | .named type => compiler.addMembers { type } model.members
  | type => throw (.unsupportedShape type .annotationType)

def annotateAll (compiler : Compiler) :
    List AnnotationModel → Except CompileError (List AnnotationDef)
  | [] => .ok []
  | model :: models => do
    let definition ← compiler.annotate model
    return definition :: (← compiler.annotateAll models)

def serializedNameDefs (compiler : Compiler) (property : Property) :
    Except CompileError (List AnnotationDef) :=
  if property.wireName = property.name then .ok []
  else do
    let definition : AnnotationDef := { type := compiler.options.serializedNameType }
    let definition ←
      (definition.addMember "value" "$S" [.literal property.wireName]).mapError .template
    return [definition]

def field (compiler : Compiler) (property : Property) (type : TypeName) :
    Except CompileError FieldDef := do
  let wireName ← compiler.serializedNameDefs property
  let others ← compiler.annotateAll property.annotations
  return { type, name := property.name, modifiers := { isPublic := true },
           annotations := wireName ++ others }

/-- The parameter of a setter: not null, unless the property has to be set anyway. -/
def setterParameter (compiler : Compiler) (property : Property) (type : TypeName) : ParameterDef :=
  { type, name := property.name,
    annotations := if property.required then [] else [{ type := compiler.options.notNullType }] }

def setter (compiler : Compiler) (self : TypeName) (property : Property) (type : TypeName) :
    Except CompileError MethodDef := do
  let declaration : MethodDef := {
    name := compiler.options.setterPrefix ++ capitalize property.name
    modifiers := { isPublic := true }
    returnType := some self
    parameters := [compiler.setterParameter property type] }
  let field := Argument.literal property.name
  let method ← (declaration.addStatement "this.$L = $L" [field, field]).mapError .template
  (method.addStatement "return this" []).mapError .template

def setters (compiler : Compiler) (self : TypeName) :
    List Property → List FieldDef → Except CompileError (List MethodDef)
  | property :: properties, field :: fields => do
    let method ← compiler.setter self property field.type
    return method :: (← compiler.setters self properties fields)
  | _, _ => .ok []

def parameters (compiler : Compiler) :
    List ParameterModel → Except CompileError (List ParameterDef)
  | [] => .ok []
  | model :: models => do
    let type ← compiler.typeName model.type
    return { type, name := model.name } :: (← compiler.parameters models)

/-- The public method of a model. Its body is one level further in than its template. -/
def method (compiler : Compiler) (model : MethodModel) : Except CompileError MethodDef := do
  let returnType ← compiler.typeName model.returnType
  let parameters ← compiler.parameters model.parameters
  let arguments ← compiler.arguments model.bodyArguments
  let body ← (Code.ofTemplate model.body arguments).mapError .template
  return {
    name := model.name
    modifiers := { isPublic := true }
    typeVariables := model.typeParameters.map fun name => { name }
    returnType := some returnType
    parameters
    body := Code.indent ++ body ++ Code.unindent }

def methods (compiler : Compiler) : List MethodModel → Except CompileError (List MethodDef)
  | [] => .ok []
  | model :: models => do
    let method ← compiler.method model
    return method :: (← compiler.methods models)

end Compiler

end ClassCompiler
