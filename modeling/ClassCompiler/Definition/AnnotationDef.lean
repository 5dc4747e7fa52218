import ClassCompiler.Code.Layout
import ClassCompiler.Code.Template

/-! Annotations on declarations: a type and named members. A member collects every value that is
added under its name. -/

namespace ClassCompiler

structure AnnotationDef where
  type : ClassName
  members : List (String × List Code) := []
  deriving DecidableEq

namespace AnnotationDef

/-- Adds a value to the first member of a name, or as a new last member. -/
def addValue (name : String) (value : Code) :
    List (String × List Code) → List (String × List Code)
  | [] => [(name, [value])]
  | (member, values) :: rest =>
    if member = name then (member, values ++ [value]) :: rest
    else (member, values) :: addValue name value rest

def add (definition : AnnotationDef) (name : String) (value : Code) : AnnotationDef :=
  { definition with members := addValue name value definition.members }

def addMember (definition : AnnotationDef) (name template : String) (arguments : List Argument) :
    Except TemplateError AnnotationDef :=
  definition.add name <$> Code.ofTemplate template arguments

def member? (definition : AnnotationDef) (name : String) : Option (List Code) :=
  definition.members.lookup name

def valuesText : List Code → String
  | [value] => value.render
  | values => "\x7b" ++ String.intercalate ", " (values.map Code.render) ++ "\x7d"

/-- The members in parentheses; a single member called `value` is written without its name. -/
def membersText : List (String × List Code) → String
  | [] => ""
  | [("value", values)] => "(" ++ valuesText values ++ ")"
  | members =>
    "(" ++ String.intercalate ", " (members.map fun m => m.1 ++ " = " ++ valuesText m.2) ++ ")"

def text (definition : AnnotationDef) : String :=
  "@" ++ definition.type.canonicalName ++ membersText definition.members

def leading (annotations : List AnnotationDef) : String :=
  String.join (annotations.map (·.text ++ " "))

def find? (annotations : List AnnotationDef) (simpleName : String) : Option AnnotationDef :=
  annotations.find? (·.type.simpleName = simpleName)

theorem addValue_same (name : String) (value : Code) (values : List Code)
    (rest : List (String × List Code)) :
    addValue name value ((name, values) :: rest) = (name, values ++ [value]) :: rest := by
  simp [addValue]

theorem addValue_other {name member : String} (other : member ≠ name) (value : Code)
    (values : List Code) (rest : List (String × List Code)) :
    addValue name value ((member, values) :: rest) =
      (member, values) :: addValue name value rest := by
  simp [addValue, other]

end AnnotationDef

end ClassCompiler
