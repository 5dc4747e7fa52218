import ClassCompiler.Definition.ClassDef
import ClassCompiler.Text.Identifier

/-! What names mean: aliases first, then primitive types, type variables, classes known by their
simple names, and last classes of the package that is generated. -/

namespace ClassCompiler
open Text

/-- The package of generated classes, and aliases with the latest in front. -/
structure Scope where
  package : String
  aliases : List (String × TypeName) := []

namespace Scope

def withAlias (scope : Scope) (name : String) (target : TypeName) : Scope :=
  { scope with aliases := (name, target) :: scope.aliases }

def knownClasses : List (String × List String) :=
  [("java.lang",
      ["Boolean", "Byte", "CharSequence", "Character", "Class", "Comparable", "Double", "Enum",
        "Exception", "Float", "Integer", "Iterable", "Long", "Number", "Object",
        "RuntimeException", "Short", "String", "Throwable", "Void"]),
    ("java.util", ["Collection", "List", "Map", "Optional", "Set", "UUID"]),
    ("java.time", ["Duration", "Instant", "LocalDate", "OffsetDateTime"])]

def knownPackage? (name : String) : Option String :=
  (knownClasses.find? (·.2.contains name)).map (·.1)

def isVariableName (name : String) : Bool :=
  match name.toList with
  | [] => false
  | first :: rest => first.isUpper && rest.all Char.isDigit

def generatedClass (scope : Scope) (simple : String) : ClassName :=
  { package := scope.package, outermost := simple }

def classFor (scope : Scope) (fragments : List String) : ClassName :=
  scope.generatedClass (String.join (fragments.map capitalize))

def simple (scope : Scope) (name : String) : TypeName :=
  match scope.aliases.lookup name with
  | some target => target
  | none =>
    match Primitive.ofKeyword? name with
    | some kind => .primitive kind
    | none =>
      if isVariableName name then .typeVariable name []
      else
        match knownPackage? name with
        | some package => .named { package, outermost := name }
        | none => .named (scope.generatedClass name)

/-- The meaning of a name. A dotted name that starts uppercase is a class nested in whatever class
its first segment means; any other dotted name is qualified. -/
def resolve? (scope : Scope) (name : String) : Option TypeName :=
  match dotSegments name.toList with
  | [] => none
  | [_] => some (scope.simple name)
  | first :: rest =>
    if first.isEmpty || rest.any (·.isEmpty) then none
    else if startsUppercase first then
      match scope.simple (String.ofList first) with
      | .named outer =>
        some (.named (rest.foldl (fun name segment => name.nested (String.ofList segment)) outer))
      | _ => none
    else TypeName.named <$> ClassName.bestGuess? name

/-- The type by which a class refers to itself: with its own type variables as arguments if it has
any. -/
def selfType (scope : Scope) (definition : ClassDef) : TypeName :=
  let raw := scope.generatedClass definition.name
  if definition.typeVariables.isEmpty then .named raw
  else .generic raw (definition.typeVariables.map TypeVariable.type)

theorem simple_of_alias {scope : Scope} {name : String} {target : TypeName}
    (found : scope.aliases.lookup name = some target) : scope.simple name = target := by
  simp [simple, found]

end Scope

end ClassCompiler
