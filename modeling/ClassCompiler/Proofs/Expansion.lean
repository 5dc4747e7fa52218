import ClassCompiler.Proofs.Calls
import ClassCompiler.Proofs.Standalone

/-! Compiling a model together with all inline objects in it, without a registry: each inline object
is compiled where it is met, and its class is handed on. While no two inline objects receive the
same class, and none a registered one, the registry makes no difference to the result. -/

namespace ClassCompiler
open Compile

def Expansion (α : Type) : Type := Except CompileError (α × List (ClassName × ClassDef))

namespace Expansion

def bind {α β : Type} (first : Expansion α) (next : α → Expansion β) : Expansion β :=
  match first with
  | .error error => .error error
  | .ok (value, classes) =>
    match next value with
    | .error error => .error error
    | .ok (result, more) => .ok (result, classes ++ more)

instance : Monad Expansion where
  pure value := .ok (value, [])
  bind := bind

variable {α β : Type} {first : Expansion α} {next : α → Expansion β}

theorem bind_eq_ok {result : β} {classes : List (ClassName × ClassDef)}
    (same : (first >>= next) = .ok (result, classes)) :
    ∃ value before after, first = .ok (value, before) ∧ next value = .ok (result, after) ∧
      classes = before ++ after := by
  change bind first next = _ at same
  unfold bind at same
  split at same
  next => cases same
  next value before =>
    split at same
    next => cases same
    next last after ended =>
      cases same
      exact ⟨value, before, after, rfl, ended, rfl⟩

theorem bind_ok {value : α} {result : β} {before after : List (ClassName × ClassDef)}
    (began : first = .ok (value, before)) (ended : next value = .ok (result, after)) :
    (first >>= next) = .ok (result, before ++ after) := by
  show bind first next = _
  simp only [bind, began, ended]
  rfl

theorem bind_eq_error {error : CompileError} (same : (first >>= next) = .error error) :
    first = .error error ∨
      ∃ value before, first = .ok (value, before) ∧ next value = .error error := by
  change bind first next = _ at same
  unfold bind at same
  split at same
  next =>
    cases same
    exact .inl rfl
  next value before =>
    split at same
    next failed =>
      cases same
      exact .inr ⟨value, before, rfl, failed⟩
    next => cases same

end Expansion

namespace Registry

def appending (registry : Registry) (entries : List (ClassName × ClassDef)) : Registry :=
  { registry with
    entries := registry.entries ++ entries
    index := ((entries.map (·.1)).zipIdx registry.size).reverse ++ registry.index }

theorem appending_nil (registry : Registry) : registry.appending [] = registry := by
  simp [appending]

theorem appending_append (registry : Registry) (entries more : List (ClassName × ClassDef)) :
    registry.appending (entries ++ more) = (registry.appending entries).appending more := by
  simp [appending, size, List.zipIdx_append]

theorem insert_settle_appending (registry : Registry) (name : ClassName) (definition : ClassDef)
    (entries : List (ClassName × ClassDef)) :
    (((registry.starting name).appending entries).settle name).insert name definition =
      registry.appending (entries ++ [(name, definition)]) := by
  rw [appending_append]
  simp [appending, starting, settle, insert, size]

theorem names_appending (registry : Registry) (entries : List (ClassName × ClassDef)) :
    (registry.appending entries).names = registry.names ++ entries.map (·.1) := by
  simp [names, appending]

end Registry

namespace Compiler

/-- Inline objects are compiled where they are met, and their classes are handed on. -/
def collecting : Handler Expansion where
  step
    | .ok value => .ok (value, [])
    | .error error => .error error
  inline name build :=
    match build with
    | .ok (definition, classes) => .ok ((), classes ++ [(name, definition)])
    | .error error => .error error

theorem collecting_inline_eq_ok {name : ClassName} {build : Expansion ClassDef} {value : Unit}
    {classes : List (ClassName × ClassDef)}
    (same : collecting.inline name build = .ok (value, classes)) :
    ∃ definition before, build = .ok (definition, before) ∧
      classes = before ++ [(name, definition)] := by
  unfold collecting at same
  dsimp only at same
  split at same
  next definition before =>
    cases same
    exact ⟨definition, before, rfl, rfl⟩
  next => cases same

theorem collecting_inline_eq_error {name : ClassName} {build : Expansion ClassDef}
    {error : CompileError} (same : collecting.inline name build = .error error) :
    build = .error error := by
  unfold collecting at same
  dsimp only at same
  split at same
  next => cases same
  next =>
    cases same
    rfl

/-- The definition for a model, behind those of all inline objects in it, or the first error. -/
def expand (compiler : Compiler) (head : ClassDef) (stem : String) (model : ObjectModel) :
    Expansion ClassDef :=
  compiler.classWith collecting head stem model

theorem agreement_holds (compiler : Compiler) :
    Agreement compiler collecting naming fun met expansion result =>
      ∀ value classes, expansion = .ok (value, classes) →
        result = .ok value ∧ List.Forall₂ compiler.Holds met classes where
  pure value := by
    intro _ _ same
    cases same
    exact ⟨rfl, .nil⟩
  step {_ result} _ := by
    intro _ _ same
    cases result with
    | error error => cases same
    | ok value =>
      cases same
      exact ⟨rfl, .nil⟩
  bind := by
    intro α β met more expansion result next continued first rest value classes same
    obtain ⟨middle, before, after, began, ended, rfl⟩ := Expansion.bind_eq_ok same
    obtain ⟨settled, held⟩ := first middle before began
    obtain ⟨finished, others⟩ := rest middle value after ended
    rw [settled]
    exact ⟨finished, List.rel_append held others⟩
  inline := by
    intro object agrees value classes same
    obtain ⟨definition, before, built, rfl⟩ := collecting_inline_eq_ok same
    obtain ⟨settled, held⟩ := agrees definition before built
    exact ⟨rfl, List.rel_append held (.cons ⟨rfl, settled⟩ .nil)⟩

/-- None of the classes that the inline objects receive is taken, by another of them or before. -/
structure Unclaimed (registry : Registry) (met : List InlineObject) : Prop where
  distinct : (met.map (·.className)).Nodup
  absent : ∀ object ∈ met, object.className ∉ registry.names
  idle : ∀ object ∈ met, object.className ∉ registry.pending

/-- With unclaimed classes the computation does in the registry what the expansion does without. -/
structure Follows {α : Type} (met : List InlineObject) (action : Compile α)
    (expansion : Expansion α) : Prop where
  growing : Growing action
  named {value : α} {classes : List (ClassName × ClassDef)} :
    expansion = .ok (value, classes) → classes.map (·.1) = met.map (·.className)
  succeeds {registry : Registry} {value : α} {classes : List (ClassName × ClassDef)} :
    registry.Consistent → Unclaimed registry met → expansion = .ok (value, classes) →
      action.outcome registry = (.ok value, registry.appending classes)
  fails {registry : Registry} {error : CompileError} :
    registry.Consistent → Unclaimed registry met → expansion = .error error →
      ∃ after, action.outcome registry = (.error error, after)

namespace Unclaimed

variable {registry : Registry} {met more : List InlineObject}

theorem left (unclaimed : Unclaimed registry (met ++ more)) : Unclaimed registry met where
  distinct := by
    have distinct := unclaimed.distinct
    rw [List.map_append] at distinct
    exact (List.nodup_append.mp distinct).1
  absent object member := unclaimed.absent object (List.mem_append_left _ member)
  idle object member := unclaimed.idle object (List.mem_append_left _ member)

theorem right (unclaimed : Unclaimed registry (met ++ more))
    {classes : List (ClassName × ClassDef)}
    (named : classes.map (·.1) = met.map (·.className)) :
    Unclaimed (registry.appending classes) more where
  distinct := by
    have distinct := unclaimed.distinct
    rw [List.map_append] at distinct
    exact (List.nodup_append.mp distinct).2.1
  absent := by
    intro object member taken
    rw [Registry.names_appending, named] at taken
    rcases List.mem_append.mp taken with earlier | new
    · exact unclaimed.absent object (List.mem_append_right _ member) earlier
    · have distinct := unclaimed.distinct
      rw [List.map_append] at distinct
      exact (List.nodup_append.mp distinct).2.2 _ new _ (List.mem_map_of_mem member) rfl
  idle object member := unclaimed.idle object (List.mem_append_right _ member)

theorem starting {object : InlineObject} (unclaimed : Unclaimed registry (met ++ [object])) :
    Unclaimed (registry.starting object.className) met where
  distinct := unclaimed.left.distinct
  absent := unclaimed.left.absent
  idle := by
    intro other member waiting
    rcases List.mem_cons.mp waiting with same | earlier
    · have distinct := unclaimed.distinct
      rw [List.map_append] at distinct
      exact (List.nodup_append.mp distinct).2.2 _ (List.mem_map_of_mem member) _
        (List.mem_singleton.mpr rfl) same
    · exact unclaimed.left.idle other member earlier

end Unclaimed

namespace Follows

variable {α β : Type} {met more : List InlineObject}

theorem lift (result : Except CompileError α) :
    Follows [] (liftM result : Compile α) (collecting.step result) := by
  refine ⟨.lift result, ?_, ?_, ?_⟩
  · intro _ _ same
    cases result <;> cases same
    rfl
  · intro registry _ _ _ _ same
    cases result <;> cases same
    rw [Registry.appending_nil]
    rfl
  · intro registry _ _ _ same
    cases result <;> cases same
    exact ⟨registry, rfl⟩

theorem bind {action : Compile α} {next : α → Compile β} {expansion : Expansion α}
    {continued : α → Expansion β} (first : Follows met action expansion)
    (rest : ∀ value, Follows more (next value) (continued value)) :
    Follows (met ++ more) (action >>= next) (expansion >>= continued) := by
  refine ⟨first.growing.bind fun value => (rest value).growing, ?_, ?_, ?_⟩
  · intro value classes same
    obtain ⟨middle, before, after, began, ended, rfl⟩ := Expansion.bind_eq_ok same
    rw [List.map_append, List.map_append, first.named began, (rest middle).named ended]
  · intro registry value classes consistent unclaimed same
    obtain ⟨middle, before, after, began, ended, rfl⟩ := Expansion.bind_eq_ok same
    have ran := first.succeeds consistent unclaimed.left began
    have grows := first.growing.grows consistent ran
    have continues := (rest middle).succeeds grows.consistent
      (unclaimed.right (first.named began)) ended
    rw [outcome_bind, ran, Registry.appending_append]
    exact continues
  · intro registry error consistent unclaimed same
    rcases Expansion.bind_eq_error same with failed | ⟨middle, before, began, failed⟩
    · obtain ⟨after, stops⟩ := first.fails consistent unclaimed.left failed
      exact ⟨after, by rw [outcome_bind, stops]⟩
    · have ran := first.succeeds consistent unclaimed.left began
      have grows := first.growing.grows consistent ran
      rw [outcome_bind, ran]
      exact (rest middle).fails grows.consistent (unclaimed.right (first.named began)) failed

theorem inline {build : Compile ClassDef} {expansion : Expansion ClassDef}
    (follows : Follows met build expansion) (object : InlineObject) :
    Follows (met ++ [object]) (registering.inline object.className build)
      (collecting.inline object.className expansion) := by
  have last : object ∈ met ++ [object] := List.mem_append_right _ (List.mem_singleton.mpr rfl)
  refine ⟨follows.growing.define.answer _, ?_, ?_, ?_⟩
  · intro _ classes same
    obtain ⟨definition, before, built, rfl⟩ := collecting_inline_eq_ok same
    simp [follows.named built]
  · intro registry _ classes consistent unclaimed same
    obtain ⟨definition, before, built, rfl⟩ := collecting_inline_eq_ok same
    have absent := unclaimed.absent object last
    have ran := follows.succeeds (consistent.starting absent) unclaimed.starting built
    show (Registry.define _ _ >>= _).outcome registry = _
    rw [outcome_bind, outcome_define_of_absent follows.growing consistent absent
      (unclaimed.idle object last), ran, ← Registry.insert_settle_appending]
    rfl
  · intro registry error consistent unclaimed same
    have failed := collecting_inline_eq_error same
    have absent := unclaimed.absent object last
    obtain ⟨after, stops⟩ := follows.fails (consistent.starting absent) unclaimed.starting failed
    show ∃ after, (Registry.define _ _ >>= _).outcome registry = _
    rw [outcome_bind, outcome_define_of_absent follows.growing consistent absent
      (unclaimed.idle object last), stops]
    exact ⟨registry, rfl⟩

end Follows

theorem agreement_follows (compiler : Compiler) :
    Agreement compiler registering collecting fun met action expansion =>
      Follows met action expansion where
  pure value := .lift (.ok value)
  step _ := .lift _
  bind := .bind
  inline object follows := follows.inline object

section

variable {compiler : Compiler} {registry : Registry} {name stem : String} {model : ObjectModel}
  {customize : ClassDef → ClassDef}

theorem unclaimed_of_fresh (idle : registry.pending = [])
    (distinct : (compiler.scope.generatedClass name ::
      (compiler.inlineObjects stem [] model).map (·.className)).Nodup)
    (fresh : ∀ className ∈ compiler.scope.generatedClass name ::
      (compiler.inlineObjects stem [] model).map (·.className), className ∉ registry.names) :
    Unclaimed registry
      (compiler.inlineObjects stem [] model ++ [⟨[], compiler.scope.generatedClass name, model⟩]) where
  distinct := by
    rw [List.map_append]
    exact List.nodup_append_comm.mp distinct
  absent := by
    intro object member
    apply fresh
    rcases List.mem_append.mp member with inside | whole
    · exact List.mem_cons_of_mem _ (List.mem_map_of_mem inside)
    · rw [List.mem_singleton.mp whole]
      exact List.mem_cons_self
  idle := by simp [idle]

/-- With distinct classes, none of them registered, the outcome is that of the expansion. Success
adds the classes of all inline objects, each with the definition it has by itself, and then the
class of the model if it is registered; failure adds nothing, and the error is that of the
expansion. -/
theorem outcome_eq_expand (reached : compiler.Reachable registry)
    (accepted : compiler.check name model = .ok ())
    (distinct : (compiler.scope.generatedClass name ::
      (compiler.inlineObjects stem [] model).map (·.className)).Nodup)
    (fresh : ∀ className ∈ compiler.scope.generatedClass name ::
      (compiler.inlineObjects stem [] model).map (·.className), className ∉ registry.names) :
    match compiler.expand (customize (publicClass name)) stem model with
    | .ok (definition, classes) =>
      (compiler.register name model stem customize).outcome registry =
          (.ok (compiler.scope.generatedClass name),
            registry.appending (classes ++ [(compiler.scope.generatedClass name, definition)])) ∧
        (compiler.generate name model stem customize).outcome registry =
          (.ok definition, registry.appending classes) ∧
        compiler.standalone (customize (publicClass name)) stem model = .ok definition ∧
        List.Forall₂ compiler.Holds (compiler.inlineObjects stem [] model) classes
    | .error error =>
      (compiler.register name model stem customize).outcome registry = (.error error, registry) ∧
        (compiler.generate name model stem customize).outcome registry = (.error error, registry) := by
  obtain ⟨consistent, idle⟩ := reached.settled
  have unclaimed := unclaimed_of_fresh idle distinct fresh
  have absent := fresh _ List.mem_cons_self
  have growing := Growing.buildClass compiler name model stem customize
  have follows : Follows (compiler.inlineObjects stem [] model)
      (compiler.buildClass name model stem customize)
      (compiler.expand (customize (publicClass name)) stem model) := by
    rw [buildClass_eq]
    exact (agreement_follows compiler).definition _ stem [] model
  have holds := (agreement_holds compiler).definition (customize (publicClass name)) stem [] model
  simp only [outcome_generate, outcome_register, accepted]
  rw [outcome_define_of_absent growing consistent absent (by simp [idle])]
  cases expanded : compiler.expand (customize (publicClass name)) stem model with
  | ok result =>
    obtain ⟨definition, classes⟩ := result
    rw [follows.succeeds (consistent.starting absent) unclaimed.starting expanded]
    refine ⟨?_, ?_, holds definition classes expanded⟩
    · exact congrArg _ (Registry.insert_settle_appending ..)
    · rw [outcome_undoing growing consistent, follows.succeeds consistent unclaimed.left expanded]
  | error error =>
    obtain ⟨_, within⟩ := follows.fails (consistent.starting absent) unclaimed.starting expanded
    obtain ⟨_, without⟩ := follows.fails consistent unclaimed.left expanded
    rw [outcome_undoing growing consistent, within, without]
    exact ⟨rfl, rfl⟩

end

def sizedWidget : ObjectModel where
  nested := [{
    name := some "Part"
    properties := [{
      name := "size"
      object := some {
        properties := [{
          name := "unit"
          object := some { properties := [{ name := "code", type := some "String" }] } }] } }] }]
  properties := [
    { name := "tag", object := some { properties := [{ name := "v", type := some "int" }] } }]

theorem sized_widget_eq_expand : ∃ registry definition classes,
    (forPackage "p").Reachable registry ∧
      registry.names = [(forPackage "p").scope.generatedClass "Kept"] ∧
      (forPackage "p").expand (publicClass "Widget") "Widget" sizedWidget =
        .ok (definition, classes) ∧
      classes.map (·.1.outermost) = ["Unit", "Size", "WidgetTag"] ∧
      ((forPackage "p").register "Widget" sizedWidget "Widget").outcome registry =
        (.ok ((forPackage "p").scope.generatedClass "Widget"), registry.appending
          (classes ++ [((forPackage "p").scope.generatedClass "Widget", definition)])) ∧
      ((forPackage "p").generate "Widget" sizedWidget "Widget").outcome registry =
        (.ok definition, registry.appending classes) := by
  have reached : (forPackage "p").Reachable
      ((registersKept.run (forPackage "p")).outcome .empty).2 := .call .empty registersKept
  have names : ((registersKept.run (forPackage "p")).outcome .empty).2.names =
      [(forPackage "p").scope.generatedClass "Kept"] := by
    decide +kernel
  have order : Except.map (fun result => result.2.map (·.1.outermost))
      ((forPackage "p").expand (publicClass "Widget") "Widget" sizedWidget) =
        .ok ["Unit", "Size", "WidgetTag"] := by
    decide +kernel
  have accepted : (forPackage "p").check "Widget" sizedWidget = .ok () := by
    decide +kernel
  have distinct : ((forPackage "p").scope.generatedClass "Widget" ::
      ((forPackage "p").inlineObjects "Widget" [] sizedWidget).map (·.className)).Nodup := by
    decide +kernel
  have apart : ∀ className ∈ (forPackage "p").scope.generatedClass "Widget" ::
      ((forPackage "p").inlineObjects "Widget" [] sizedWidget).map (·.className),
        className ∉ [(forPackage "p").scope.generatedClass "Kept"] := by
    decide +kernel
  generalize ((registersKept.run (forPackage "p")).outcome .empty).2 = registry at reached names
  rw [← names] at apart
  have follows := @outcome_eq_expand (forPackage "p") registry "Widget" "Widget" sizedWidget id
    reached accepted distinct apart
  cases expanded : (forPackage "p").expand (publicClass "Widget") "Widget" sizedWidget with
  | error error =>
    rw [expanded] at order
    cases order
  | ok result =>
    obtain ⟨definition, classes⟩ := result
    simp only [id, expanded] at follows
    rw [expanded] at order
    exact ⟨registry, definition, classes, reached, names, rfl, Except.ok.inj order, follows.1,
      follows.2.1⟩

end Compiler

end ClassCompiler
