import ClassCompiler.Definition.AnnotationDef
import ClassCompiler.Definition.Modifiers

/-! The members of a class: fields, and methods with their parameters. -/

namespace ClassCompiler

structure FieldDef where
  type : TypeName
  name : String
  modifiers : Modifiers := .none
  annotations : List AnnotationDef := []
  initializer : Option Code := none
  deriving DecidableEq

structure ParameterDef where
  type : TypeName
  name : String
  modifiers : Modifiers := .none
  annotations : List AnnotationDef := []
  deriving DecidableEq

/-- A method; without a return type it gives no value. -/
structure MethodDef where
  name : String
  modifiers : Modifiers := .none
  typeVariables : List TypeVariable := []
  returnType : Option TypeName := none
  parameters : List ParameterDef := []
  annotations : List AnnotationDef := []
  body : Code := .empty
  deriving DecidableEq

namespace FieldDef

def initializerText : Option Code → String
  | none => ""
  | some code => " = " ++ code.render

def text (field : FieldDef) : String :=
  AnnotationDef.leading field.annotations ++ field.modifiers.leading ++ field.type.text ++ " " ++
    field.name ++ initializerText field.initializer ++ ";"

def modify (field : FieldDef) (modifiers : Modifiers) : FieldDef :=
  { field with modifiers := field.modifiers.union modifiers }

def annotate (field : FieldDef) (annotations : List AnnotationDef) : FieldDef :=
  { field with annotations := field.annotations ++ annotations }

def initialize? (field : FieldDef) (template : String) (arguments : List Argument) :
    Except TemplateError FieldDef :=
  (fun code => { field with initializer := some code }) <$> Code.ofTemplate template arguments

end FieldDef

namespace ParameterDef

def text (parameter : ParameterDef) : String :=
  AnnotationDef.leading parameter.annotations ++ parameter.modifiers.leading ++
    parameter.type.text ++ " " ++ parameter.name

end ParameterDef

namespace MethodDef

def typeVariablesText (typeVars : List TypeVariable) : String :=
  if typeVars.isEmpty then ""
  else "<" ++ String.intercalate ", " (typeVars.map TypeVariable.declaration) ++ "> "

def returnText : Option TypeName → String
  | none => "void"
  | some type => type.text

def signature (method : MethodDef) : String :=
  method.modifiers.leading ++ typeVariablesText method.typeVariables ++
    returnText method.returnType ++ " " ++ method.name ++ "(" ++
    String.intercalate ", " (method.parameters.map ParameterDef.text) ++ ")"

def parameter? (method : MethodDef) (name : String) : Option ParameterDef :=
  method.parameters.find? (·.name = name)

def modify (method : MethodDef) (modifiers : Modifiers) : MethodDef :=
  { method with modifiers := method.modifiers.union modifiers }

def annotate (method : MethodDef) (annotations : List AnnotationDef) : MethodDef :=
  { method with annotations := method.annotations ++ annotations }

def addCode (method : MethodDef) (code : Code) : MethodDef :=
  { method with body := method.body ++ code }

def addStatement (method : MethodDef) (template : String) (arguments : List Argument) :
    Except TemplateError MethodDef :=
  method.addCode <$> Code.statement template arguments

end MethodDef

end ClassCompiler
