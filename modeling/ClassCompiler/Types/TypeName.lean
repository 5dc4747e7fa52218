import ClassCompiler.Types.ClassName
import ClassCompiler.Types.Primitive

/-! Type references: their shapes, how they are written, and which of them can enclose a nested
class. -/

namespace ClassCompiler

/-- A reference to a type. `covariant` and `contravariant` are the wildcards bounded from above
and from below. -/
inductive TypeName
  | primitive (kind : Primitive)
  | named (name : ClassName)
  | generic (raw : ClassName) (arguments : List TypeName)
  | array (component : TypeName)
  | typeVariable (name : String) (bounds : List TypeName)
  | wildcard
  | covariant (bound : TypeName)
  | contravariant (bound : TypeName)

inductive Shape
  | primitive
  | plainClass
  | parameterized
  | array
  | typeVariable
  | wildcard
  deriving DecidableEq

def Shape.text : Shape → String
  | primitive => "primitive"
  | plainClass => "class"
  | parameterized => "parameterized"
  | array => "array"
  | typeVariable => "type variable"
  | wildcard => "wildcard"

namespace TypeName

def shape : TypeName → Shape
  | primitive _ => .primitive
  | named _ => .plainClass
  | generic _ _ => .parameterized
  | array _ => .array
  | typeVariable _ _ => .typeVariable
  | wildcard | covariant _ | contravariant _ => .wildcard

mutual

def text : TypeName → String
  | primitive kind => kind.keyword
  | named name => name.canonicalName
  | generic raw arguments =>
    raw.canonicalName ++ "<" ++ String.intercalate ", " (texts arguments) ++ ">"
  | array component => component.text ++ "[]"
  | typeVariable name _ => name
  | wildcard => "?"
  | covariant bound => "? extends " ++ bound.text
  | contravariant bound => "? super " ++ bound.text

def texts : List TypeName → List String
  | [] => []
  | type :: types => type.text :: texts types

end

def isPrimitive : TypeName → Bool
  | primitive _ => true
  | _ => false

def className? : TypeName → Option ClassName
  | named name => some name
  | _ => none

/-- The class under which a nested type can be declared: type arguments do not matter to it. -/
def enclosingClass? : TypeName → Option ClassName
  | named name => some name
  | generic raw _ => some raw
  | _ => none

mutual

def same : TypeName → TypeName → Bool
  | primitive a, primitive b => a = b
  | named a, named b => a = b
  | generic raw arguments, generic raw' arguments' => raw = raw' && sameAll arguments arguments'
  | array a, array b => same a b
  | typeVariable name bounds, typeVariable name' bounds' => name = name' && sameAll bounds bounds'
  | wildcard, wildcard => true
  | covariant a, covariant b => same a b
  | contravariant a, contravariant b => same a b
  | _, _ => false

def sameAll : List TypeName → List TypeName → Bool
  | [], [] => true
  | a :: as, b :: bs => same a b && sameAll as bs
  | _, _ => false

end

mutual

theorem same_iff : (a b : TypeName) → (same a b = true ↔ a = b)
  | primitive _, b => by cases b <;> simp [same]
  | named _, b => by cases b <;> simp [same]
  | generic _ arguments, b => by cases b <;> simp [same, sameAll_iff arguments]
  | array component, b => by cases b <;> simp [same, same_iff component]
  | typeVariable _ bounds, b => by cases b <;> simp [same, sameAll_iff bounds]
  | wildcard, b => by cases b <;> simp [same]
  | covariant bound, b => by cases b <;> simp [same, same_iff bound]
  | contravariant bound, b => by cases b <;> simp [same, same_iff bound]

theorem sameAll_iff : (as bs : List TypeName) → (sameAll as bs = true ↔ as = bs)
  | [], bs => by cases bs <;> simp [sameAll]
  | a :: as, bs => by cases bs <;> simp [sameAll, same_iff a, sameAll_iff as]

end

instance : DecidableEq TypeName := fun a b => decidable_of_iff _ (same_iff a b)

end TypeName

structure TypeVariable where
  name : String
  bounds : List TypeName := []
  deriving DecidableEq

namespace TypeVariable

def type (v : TypeVariable) : TypeName := .typeVariable v.name v.bounds

def declaration (v : TypeVariable) : String :=
  if v.bounds.isEmpty then v.name
  else v.name ++ " extends " ++ String.intercalate " & " (v.bounds.map TypeName.text)

end TypeVariable

end ClassCompiler
