import ClassCompiler.Registry

/-! Computations that may fail and keep the registry either way. -/

namespace ClassCompiler

abbrev Compile (α : Type) := ExceptT CompileError (StateM Registry) α

namespace Compile

def outcome (action : Compile α) (registry : Registry) : Except CompileError α × Registry :=
  action.run.run registry

def ofOutcome (run : Registry → Except CompileError α × Registry) : Compile α :=
  ExceptT.mk run

theorem outcome_ofOutcome (run : Registry → Except CompileError α × Registry) :
    (ofOutcome run).outcome = run := rfl

theorem outcome_pure (value : α) (registry : Registry) :
    (pure value : Compile α).outcome registry = (.ok value, registry) := rfl

theorem outcome_throw (error : CompileError) (registry : Registry) :
    (throw error : Compile α).outcome registry = (.error error, registry) := rfl

theorem outcome_lift (result : Except CompileError α) (registry : Registry) :
    (liftM result : Compile α).outcome registry = (result, registry) := rfl

theorem outcome_bind (action : Compile α) (next : α → Compile β) (registry : Registry) :
    (action >>= next).outcome registry =
      match action.outcome registry with
      | (.ok value, reached) => (next value).outcome reached
      | (.error error, reached) => (.error error, reached) := by
  simp only [outcome, ExceptT.run_bind, StateT.run_bind]
  rcases action.run.run registry with ⟨result, reached⟩
  cases result <;> rfl

end Compile

namespace Registry

/-- The definition of a name: the registered one, or else the one that is built now and
registered. -/
def define (name : ClassName) (build : Compile ClassDef) : Compile ClassDef :=
  Compile.ofOutcome fun registry =>
    match registry.get? name with
    | some definition => (.ok definition, registry)
    | none =>
      match registry.start name with
      | .error error => (.error error, registry)
      | .ok started =>
        let (result, reached) := build.outcome started
        reached.finish name registry.checkpoint result

/-- Removes what a failing computation registered. -/
def undoing (action : Compile α) : Compile α :=
  Compile.ofOutcome fun registry =>
    match action.outcome registry with
    | (.ok value, reached) => (.ok value, reached)
    | (.error error, reached) => (.error error, reached.rollback registry.checkpoint)

end Registry

end ClassCompiler
