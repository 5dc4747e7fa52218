import ClassCompiler.Scope.Basic
import ClassCompiler.Scope.Symbol

/-! Reading types from symbols. A type is a name with type arguments, or a wildcard with a bound,
and brackets behind it for arrays. Names get their meaning as they are read, after their
arguments. -/

namespace ClassCompiler.Scope

/-- Gives a name its arguments. Only plain classes take any. -/
def apply (scope : Scope) (name : String) (arguments : List TypeName) :
    Except TypeFault TypeName :=
  match scope.resolve? name with
  | none => .error (.malformedName name)
  | some type =>
    match arguments, type with
    | [], type => .ok type
    | arguments, .named raw => .ok (.generic raw arguments)
    | _, type => .error (.noArguments type.shape name)

def readBrackets (type : TypeName) : List Symbol → Except TypeFault (TypeName × List Symbol)
  | .openBracket :: .closeBracket :: rest => readBrackets (.array type) rest
  | .openBracket :: _ => .error .expectedBracket
  | rest => .ok (type, rest)

mutual

/-- Reads a type; a unit of fuel for each symbol is enough. -/
def readType (scope : Scope) : Nat → List Symbol → Except TypeFault (TypeName × List Symbol)
  | fuel + 1, .question :: rest => do
    let (type, rest) ← readWildcard scope fuel rest
    readBrackets type rest
  | fuel + 1, .name name :: .less :: rest => do
    let (arguments, rest) ← readArguments scope fuel rest
    readBrackets (← scope.apply name arguments) rest
  | _ + 1, .name name :: rest => do
    readBrackets (← scope.apply name []) rest
  | _, _ => .error .expectedType

def readWildcard (scope : Scope) : Nat → List Symbol → Except TypeFault (TypeName × List Symbol)
  | fuel + 1, .name "extends" :: rest => do
    let (bound, rest) ← readType scope fuel rest
    return (.covariant bound, rest)
  | fuel + 1, .name "super" :: rest => do
    let (bound, rest) ← readType scope fuel rest
    return (.contravariant bound, rest)
  | _, rest => .ok (.wildcard, rest)

def readArguments (scope : Scope) :
    Nat → List Symbol → Except TypeFault (List TypeName × List Symbol)
  | 0, _ => .error .expectedType
  | fuel + 1, symbols => do
    let (type, rest) ← readType scope fuel symbols
    match rest with
    | .comma :: rest => do
      let (types, rest) ← readArguments scope fuel rest
      return (type :: types, rest)
    | .greater :: rest => return ([type], rest)
    | _ => throw .expectedAngle

end

def typeName (scope : Scope) (token : String) : Except TypeFault TypeName := do
  let symbols ← Symbol.ofText token
  match ← scope.readType symbols.length symbols with
  | (type, []) => return type
  | (_, _ :: _) => throw .trailingInput

end ClassCompiler.Scope
