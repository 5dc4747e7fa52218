import ClassCompiler.Compiler.ClassBody
import ClassCompiler.Model.Validation

/-! Compiling whole models: each into a class that is handed back, or into one that is registered
beside the classes of its inline objects. -/

namespace ClassCompiler
open Text

namespace Compiler

def check (compiler : Compiler) (name : String) (model : ObjectModel) : Except CompileError Unit :=
  if compiler.options.validates then
    if isIdentifier name then (model.validate name).mapError .model
    else .error (.model (.invalidIdentifier .object name))
  else .ok ()

/-- The public class for a model. `customize` completes its head before the body is compiled. -/
def buildClass (compiler : Compiler) (name : String) (model : ObjectModel) (stem : String)
    (customize : ClassDef → ClassDef) : Compile ClassDef := do
  let head := customize (publicClass name)
  let body ← classBody compiler (compiler.selfType head) stem model
  return head.extend body

/-- Compiles a model into a class that is not registered itself. The names of its inline objects
start with `stem`; if it fails, none of them stays registered. -/
def generate (compiler : Compiler) (name : String) (model : ObjectModel) (stem : String)
    (customize : ClassDef → ClassDef := id) : Compile ClassDef := do
  compiler.check name model
  Registry.undoing (compiler.buildClass name model stem customize)

def register (compiler : Compiler) (name : String) (model : ObjectModel) (stem : String)
    (customize : ClassDef → ClassDef := id) : Compile ClassName := do
  compiler.check name model
  let className := compiler.scope.generatedClass name
  let _ ← Registry.define className
    (compiler.buildClass className.simpleName model stem customize)
  return className

def registerAll (compiler : Compiler) (index : Nat) : List ObjectModel → Compile Unit
  | [] => return
  | model :: models =>
    match model.name with
    | none => throw (.model (.missingName compiler.scope.package index))
    | some name => do
      let _ ← compiler.register name model name
      compiler.registerAll (index + 1) models

end Compiler

/-- The classes for top-level models in a package. The name of each is also the stem of its inline
objects. -/
def generateObjects (package : String) (models : List ObjectModel) : Except CompileError Registry :=
  let compiler : Compiler := { scope := { package } }
  match (compiler.registerAll 0 models).outcome .empty with
  | (.ok (), registry) => .ok registry
  | (.error error, _) => .error error

end ClassCompiler
