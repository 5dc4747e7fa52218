import ClassCompiler.Proofs.Growth

/-! The states of a compiler: what any calls leave of an empty registry, whether they succeed or
fail. A call that fails leaves nothing behind. -/

namespace ClassCompiler
open Compile

/-- A call of a compiler. One that asks for no changes to the head has `id` for `customize`. -/
inductive Call where
  | generate (name : String) (model : ObjectModel) (stem : String) (customize : ClassDef → ClassDef)
  | register (name : String) (model : ObjectModel) (stem : String) (customize : ClassDef → ClassDef)

namespace Call

def name : Call → String
  | .generate name _ _ _ => name
  | .register name _ _ _ => name

def model : Call → ObjectModel
  | .generate _ model _ _ => model
  | .register _ model _ _ => model

def stem : Call → String
  | .generate _ _ stem _ => stem
  | .register _ _ stem _ => stem

def head : Call → ClassDef
  | .generate name _ _ customize => customize (Compiler.publicClass name)
  | .register name _ _ customize => customize (Compiler.publicClass name)

def run (compiler : Compiler) : Call → Compile (ClassDef ⊕ ClassName)
  | .generate name model stem customize => do
    return .inl (← compiler.generate name model stem customize)
  | .register name model stem customize => do
    return .inr (← compiler.register name model stem customize)

end Call

namespace Compiler

section

variable (compiler : Compiler) (name stem : String) (model : ObjectModel)
  (customize : ClassDef → ClassDef) (registry : Registry)

theorem outcome_generate : (compiler.generate name model stem customize).outcome registry =
    match compiler.check name model with
    | .error error => (.error error, registry)
    | .ok _ =>
      (Registry.undoing (compiler.buildClass name model stem customize)).outcome registry := by
  rw [generate, outcome_bind]
  cases compiler.check name model <;> rfl

theorem outcome_register : (compiler.register name model stem customize).outcome registry =
    match compiler.check name model with
    | .error error => (.error error, registry)
    | .ok _ =>
      match (Registry.define (compiler.scope.generatedClass name)
        (compiler.buildClass name model stem customize)).outcome registry with
      | (.ok _, reached) => (.ok (compiler.scope.generatedClass name), reached)
      | (.error error, reached) => (.error error, reached) := by
  rw [register, outcome_bind]
  cases compiler.check name model with
  | error error => rfl
  | ok =>
    show (Registry.define (compiler.scope.generatedClass name)
      (compiler.buildClass name model stem customize) >>= fun _ =>
        pure (compiler.scope.generatedClass name) : Compile ClassName).outcome registry = _
    rw [outcome_bind]
    rcases (Registry.define (compiler.scope.generatedClass name) _).outcome registry with
      ⟨result, reached⟩
    cases result <;> rfl

end

theorem built_of_generate {compiler : Compiler} {name stem : String} {model : ObjectModel}
    {customize : ClassDef → ClassDef} {registry after : Registry} {definition : ClassDef}
    (consistent : registry.Consistent)
    (done : (compiler.generate name model stem customize).outcome registry =
      (.ok definition, after)) :
    (compiler.buildClass name model stem customize).outcome registry = (.ok definition, after) := by
  rw [outcome_generate] at done
  split at done
  next => simp at done
  next =>
    rw [outcome_undoing (.buildClass compiler name model stem customize) consistent] at done
    split at done
    next value reached built => exact built.trans done
    next => simp at done

inductive Reachable (compiler : Compiler) : Registry → Prop
  | empty : Reachable compiler .empty
  | call {registry : Registry} (before : Reachable compiler registry) (call : Call) :
      Reachable compiler ((call.run compiler).outcome registry).2

theorem growing_run (compiler : Compiler) (call : Call) : Growing (call.run compiler) := by
  cases call with
  | generate name model stem customize =>
    have builds := Growing.buildClass compiler name model stem customize
    exact Growing.answer ((Growing.lift _).bind fun _ => builds.undoing) _
  | register name model stem customize =>
    have builds := Growing.buildClass compiler (compiler.scope.generatedClass name).simpleName
      model stem customize
    exact Growing.answer ((Growing.lift _).bind fun _ => builds.define.answer _) _

theorem atomic_run (compiler : Compiler) (call : Call) : Atomic (call.run compiler) := by
  cases call with
  | generate name model stem customize =>
    have builds := Growing.buildClass compiler name model stem customize
    exact ((Atomic.undoing builds).check _).answer _
  | register name model stem customize =>
    have builds := Growing.buildClass compiler (compiler.scope.generatedClass name).simpleName
      model stem customize
    exact (((Atomic.define builds).answer _).check _).answer _

/-- Between calls the registry is consistent, and nothing is under way. -/
theorem Reachable.settled {compiler : Compiler} {registry : Registry}
    (reached : compiler.Reachable registry) : registry.Consistent ∧ registry.pending = [] := by
  induction reached with
  | empty => exact ⟨.empty, rfl⟩
  | call before call ih =>
    have grows := compiler.growing_run call _ ih.1
    exact ⟨grows.consistent, grows.pending.trans ih.2⟩

/-- A failing call leaves the registry as it was: its entries, its index, and no name under way. -/
theorem failed_call_changes_nothing {compiler : Compiler} {registry after : Registry}
    (reached : compiler.Reachable registry) {call : Call} {error : CompileError}
    (failed : (call.run compiler).outcome registry = (.error error, after)) :
    after = registry ∧ after.pending = [] := by
  have same := compiler.atomic_run call registry after error reached.settled.1 failed
  exact ⟨same, same ▸ reached.settled.2⟩

def runAll (compiler : Compiler) : Registry → List Call → Registry
  | registry, [] => registry
  | registry, call :: calls => compiler.runAll ((call.run compiler).outcome registry).2 calls

theorem grows_runAll (compiler : Compiler) (calls : List Call) {registry : Registry}
    (consistent : registry.Consistent) : registry.Grows (compiler.runAll registry calls) := by
  induction calls generalizing registry with
  | nil => exact .refl consistent
  | cons call calls ih =>
    have grows := compiler.growing_run call registry consistent
    exact grows.trans (ih grows.consistent)

def forPackage (package : String) : Compiler := { scope := { package } }

def registersKept : Call := .register "Kept" {} "Kept" id

def kept : Registry := ((registersKept.run (forPackage "p")).outcome .empty).2

theorem reachable_kept : (forPackage "p").Reachable kept := .call .empty registersKept

theorem names_kept : kept.names = [(forPackage "p").scope.generatedClass "Kept"] := by
  decide +kernel

def taggedWidget : ObjectModel where
  nested := [{
    name := some "Part"
    properties := [
      { name := "size"
        object := some { properties := [{ name := "code", type := some "int" }] } }] }]
  properties := [
    { name := "tag", object := some { properties := [{ name := "v", type := some "int" }] } }]

/-- The type of the second property cannot be read. The inline object before it can be compiled. -/
def brokenWidget : ObjectModel where
  properties := [
    { name := "tag", object := some { properties := [{ name := "v", type := some "int" }] } },
    { name := "broken", type := some "List<" }]

theorem broken_widget_changes_nothing : ∃ registry after,
    (forPackage "p").Reachable registry ∧
      registry.names = [(forPackage "p").scope.generatedClass "Kept"] ∧
      ((Call.generate "Widget" brokenWidget "Widget" id).run (forPackage "p")).outcome registry =
        (.error (.invalidTypeName "List<" .expectedType), after) ∧
      after = registry ∧ after.pending = [] := by
  have reached : (forPackage "p").Reachable
      ((registersKept.run (forPackage "p")).outcome .empty).2 := .call .empty registersKept
  have fails : (((Call.generate "Widget" brokenWidget "Widget" id).run (forPackage "p")).outcome
      ((registersKept.run (forPackage "p")).outcome .empty).2).1 =
        .error (.invalidTypeName "List<" .expectedType) := by
    decide +kernel
  have names : ((registersKept.run (forPackage "p")).outcome .empty).2.names =
      [(forPackage "p").scope.generatedClass "Kept"] := by
    decide +kernel
  generalize ((registersKept.run (forPackage "p")).outcome .empty).2 = registry at *
  cases ran : ((Call.generate "Widget" brokenWidget "Widget" id).run (forPackage "p")).outcome
      registry with
  | mk result after =>
    obtain rfl : result = _ := (congrArg Prod.fst ran).symm.trans fails
    exact ⟨registry, after, reached, names, ran, failed_call_changes_nothing reached ran⟩

end Compiler

end ClassCompiler
