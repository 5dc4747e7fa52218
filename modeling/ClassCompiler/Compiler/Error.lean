import ClassCompiler.Code.Template
import ClassCompiler.Model.Violation
import ClassCompiler.Scope.Symbol

/-! Why a compilation fails. -/

namespace ClassCompiler

/-- A place that takes only some shapes of types. -/
inductive TypeRole
  | annotationType
  | enclosingType
  deriving DecidableEq

def TypeRole.text : TypeRole → String
  | annotationType => "as an annotation"
  | enclosingType => "as an enclosing type"

inductive CompileError
  | model (violation : Violation)
  | template (error : TemplateError)
  | invalidTypeName (token : String) (fault : TypeFault)
  | unsupportedShape (type : TypeName) (role : TypeRole)
  | cyclic (name : ClassName)
  deriving DecidableEq

def CompileError.message : CompileError → String
  | model violation => "model error: " ++ violation.message
  | template error => "format error: " ++ error.message
  | invalidTypeName token fault => s!"invalid type name '{token}': {fault.reason}"
  | unsupportedShape type role =>
    s!"unsupported {type.shape.text} type '{type.text}' {role.text}"
  | cyclic name => s!"cyclic generation of type '{name.canonicalName}'"

end ClassCompiler
