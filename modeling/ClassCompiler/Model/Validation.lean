import ClassCompiler.Model.Violation
import ClassCompiler.Text.Blank
import ClassCompiler.Text.Identifier

/-! The check of a model before it is compiled. It walks the model depth first and stops at the
first violation: nested objects come first, then properties, then methods. -/

namespace ClassCompiler
open Text

namespace ObjectModel

def checkName (kind duplicated : NameKind) (owner : String) (seen : List String) (name : String) :
    Except Violation Unit :=
  if !isIdentifier name then .error (.invalidIdentifier kind name)
  else if seen.contains name then .error (.duplicate duplicated name owner)
  else .ok ()

def checkNames (kind : NameKind) (owner : String) : List String → List String → Except Violation Unit
  | _, [] => .ok ()
  | seen, name :: names => do
    checkName kind kind owner seen name
    checkNames kind owner (name :: seen) names

def checkMethod (method : MethodModel) : Except Violation Unit := do
  if !isIdentifier method.name then throw (.invalidIdentifier .method method.name)
  checkNames .typeParameter method.name [] method.typeParameters
  checkNames .parameter method.name [] (method.parameters.map (·.name))

def checkMethods : List MethodModel → Except Violation Unit
  | [] => .ok ()
  | method :: methods => do
    checkMethod method
    checkMethods methods

def checkAnnotations : List AnnotationModel → Except Violation Unit
  | [] => .ok ()
  | model :: models => do
    if isBlankText model.type then throw (.invalidIdentifier .annotationType model.type)
    checkAnnotations models

mutual

/-- Checks a model that errors call `owner`. -/
def validate (owner : String) : ObjectModel → Except Violation Unit
  | ⟨_, _, _, nested, properties, methods⟩ => do
    validateNested owner 0 [] nested
    validateProperties owner [] properties
    checkMethods methods

/-- Checks nested objects from a position on; `seen` are the names before it. -/
def validateNested (owner : String) (index : Nat) (seen : List String) :
    List ObjectModel → Except Violation Unit
  | [] => .ok ()
  | model :: models =>
    match model.name with
    | none => .error (.missingName owner index)
    | some name => do
      checkName .object .nestedObject owner seen name
      validate name model
      validateNested owner (index + 1) (name :: seen) models

def validateProperties (owner : String) (seen : List String) :
    List Property → Except Violation Unit
  | [] => .ok ()
  | ⟨name, type, object, _, _, annotations⟩ :: properties => do
    checkName .property .property owner seen name
    checkAnnotations annotations
    match type, object with
    | some _, none => pure ()
    | none, some model => validate (owner ++ "." ++ name) model
    | none, none => throw (.missingVariant name)
    | some _, some _ => throw (.conflictingVariants name)
    validateProperties owner (name :: seen) properties

end

end ObjectModel

end ClassCompiler
