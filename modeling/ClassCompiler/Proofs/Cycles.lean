import ClassCompiler.Proofs.Calls

/-! Cycles. A class can be asked for again while it is under way; compiling it then fails. Calls are
traced for that: each request for the class of an inline object is kept with the classes that are
being compiled around it. -/

namespace ClassCompiler
open Compile

/-- A request for a class, with the classes that are under way around it. The innermost is in
front. -/
structure Request where
  around : List ClassName
  className : ClassName
  deriving DecidableEq

/-- Some class is asked for while it is under way itself. -/
def Reenters (requests : List Request) (name : ClassName) : Prop :=
  ∃ request ∈ requests, request.className = name ∧ name ∈ request.around

theorem not_reenters_nil (name : ClassName) : ¬Reenters [] name := by
  simp [Reenters]

theorem reenters_cons {request : Request} {requests : List Request} {name : ClassName} :
    Reenters (request :: requests) name ↔
      (request.className = name ∧ name ∈ request.around) ∨ Reenters requests name := by
  simp [Reenters]

theorem reenters_append {requests more : List Request} {name : ClassName} :
    Reenters (requests ++ more) name ↔ Reenters requests name ∨ Reenters more name := by
  simp [Reenters, or_and_right, exists_or]

/-- A computation, and the requests that it makes if it starts with some classes under way. -/
structure Traced (α : Type) where
  action : Compile α
  requests : List ClassName → Registry → List Request

namespace Traced

variable {α β : Type}

def step (result : Except CompileError α) : Traced α where
  action := liftM result
  requests _ _ := []

def bind (first : Traced α) (next : α → Traced β) : Traced β where
  action := first.action >>= fun value => (next value).action
  requests around registry :=
    first.requests around registry ++
      match first.action.outcome registry with
      | (.ok value, reached) => (next value).requests around reached
      | (.error _, _) => []

instance : Monad Traced where
  pure value := step (.ok value)
  bind := bind

/-- The class is under way around the requests for its definition. Nothing is asked for if it is
registered, or under way already. -/
def define (name : ClassName) (build : Traced ClassDef) : Traced ClassDef where
  action := Registry.define name build.action
  requests around registry :=
    match registry.get? name with
    | some _ => []
    | none =>
      match registry.start name with
      | .error _ => []
      | .ok started => build.requests (name :: around) started

def undoing (traced : Traced α) : Traced α where
  action := Registry.undoing traced.action
  requests := traced.requests

theorem requests_answer (traced : Traced α) (answer : α → β) (around : List ClassName)
    (registry : Registry) : (traced >>= fun value => pure (answer value)).requests around registry =
      traced.requests around registry := by
  show traced.requests around registry ++ _ = _
  split <;> exact List.append_nil _

section

variable {name : ClassName} {around : List ClassName} {registry : Registry} {build : Traced ClassDef}

theorem requests_define_of_known {definition : ClassDef}
    (found : registry.get? name = some definition) :
    (define name build).requests around registry = [] := by
  simp [define, found]

theorem requests_define_of_waiting (unknown : registry.get? name = none)
    (waiting : name ∈ registry.pending) : (define name build).requests around registry = [] := by
  simp [define, unknown, Registry.start_eq_error waiting]

theorem requests_define_of_idle (unknown : registry.get? name = none)
    (idle : name ∉ registry.pending) : (define name build).requests around registry =
      build.requests (name :: around) (registry.starting name) := by
  simp [define, unknown, Registry.start_eq_ok idle]

end

end Traced

namespace Compiler

def tracing : Handler Traced where
  step := Traced.step
  inline name build := {
    action := registering.inline name build.action
    requests around registry :=
      ⟨around, name⟩ :: (Traced.define name build).requests around registry }

/-- The request is for the class of an inline object. Before the given classes, it has those of
inline objects around the object. -/
def Placed (compiler : Compiler) (met : List InlineObject) (around : List ClassName)
    (request : Request) : Prop :=
  ∃ object ∈ met, object.className = request.className ∧
    ∃ outer : List InlineObject, request.around = outer.map (·.className) ++ around ∧
      ∀ other ∈ outer, other ∈ met ∧ object ∈ compiler.inside other

theorem Placed.mono {compiler : Compiler} {met more : List InlineObject} {around : List ClassName}
    {request : Request} (subset : met ⊆ more) (placed : compiler.Placed met around request) :
    compiler.Placed more around request := by
  obtain ⟨object, member, same, outer, around, encloses⟩ := placed
  refine ⟨object, subset member, same, outer, around, fun other inside => ?_⟩
  exact (encloses other inside).imp_left fun met => subset met

/-- The traced computation does the same. It fails as cyclic exactly if a class is asked for while
it is under way. -/
structure Traces {α : Type} (compiler : Compiler) (met : List InlineObject) (action : Compile α)
    (traced : Traced α) : Prop where
  growing : Growing action
  same : traced.action = action
  placed (around : List ClassName) (registry : Registry) :
    ∀ request ∈ traced.requests around registry, compiler.Placed met around request
  cyclic {registry : Registry} {name : ClassName} : registry.Consistent →
    ((action.outcome registry).1 = .error (.cyclic name) ↔
      Reenters (traced.requests registry.pending registry) name)

namespace Traces

variable {α β : Type} {compiler : Compiler} {met more : List InlineObject}

theorem step {result : Except CompileError α} (acyclic : Acyclic result) :
    Traces compiler [] (liftM result : Compile α) (Traced.step result) where
  growing := .lift result
  same := rfl
  placed _ _ _ member := absurd member List.not_mem_nil
  cyclic _ := iff_of_false (acyclic _) (not_reenters_nil _)

theorem bind {action : Compile α} {traced : Traced α} {next : α → Compile β}
    {tracedNext : α → Traced β} (first : Traces compiler met action traced)
    (rest : ∀ value, Traces compiler more (next value) (tracedNext value)) :
    Traces compiler (met ++ more) (action >>= next) (traced >>= tracedNext) where
  growing := first.growing.bind fun value => (rest value).growing
  same := by
    show traced.action >>= _ = _
    rw [first.same]
    exact bind_congr fun value => (rest value).same
  placed := by
    intro around registry request member
    rcases List.mem_append.mp member with earlier | later
    · exact (first.placed around registry request earlier).mono (List.subset_append_left _ _)
    · split at later
      next value reached _ =>
        exact ((rest value).placed around reached request later).mono (List.subset_append_right _ _)
      next => exact absurd later List.not_mem_nil
  cyclic := by
    intro registry name consistent
    have before := @first.cyclic registry name consistent
    show _ ↔ Reenters (traced.requests _ _ ++ _) name
    rw [reenters_append, outcome_bind, first.same]
    cases ran : action.outcome registry with
    | mk result reached =>
      rw [ran] at before
      cases result with
      | error error => simpa [not_reenters_nil] using before
      | ok value =>
        -- the first part did not fail, so no request of it goes in a circle
        have grows := first.growing.grows consistent ran
        have after := @(rest value).cyclic reached name grows.consistent
        rw [grows.pending] at after
        simpa [← before] using after

/-- A definition is cyclic if its name is under way around it, or else if a request inside is. -/
theorem cyclic_define {build : Compile ClassDef} {traced : Traced ClassDef}
    (builds : Traces compiler met build traced) {registry : Registry}
    (consistent : registry.Consistent) (name other : ClassName) :
    ((Registry.define name build).outcome registry).1 = .error (.cyclic other) ↔
      (name = other ∧ other ∈ registry.pending) ∨
        Reenters ((Traced.define name traced).requests registry.pending registry) other := by
  cases found : registry.get? name with
  | some definition =>
    have stored := Registry.mem_names.mpr ⟨_, consistent.get?_eq_some_iff.mp found⟩
    rw [outcome_define_of_known found, Traced.requests_define_of_known found]
    -- what is registered is not under way, and finding it asks for nothing
    refine iff_of_false (fun same => nomatch same) ?_
    rintro (⟨rfl, waiting⟩ | reenters)
    · exact consistent.apart _ waiting stored
    · exact not_reenters_nil _ reenters
  | none =>
    have absent := consistent.get?_eq_none_iff.mp found
    by_cases waiting : name ∈ registry.pending
    · rw [outcome_define_of_waiting consistent absent waiting,
        Traced.requests_define_of_waiting found waiting, Except.error.injEq,
        CompileError.cyclic.injEq]
      simp only [not_reenters_nil, or_false]
      exact ⟨fun same => ⟨same, same ▸ waiting⟩, And.left⟩
    · have inside := @builds.cyclic _ other (consistent.starting absent)
      have idle : ¬(name = other ∧ other ∈ registry.pending) := by
        rintro ⟨rfl, pending⟩
        exact waiting pending
      rw [outcome_define_of_absent builds.growing consistent absent waiting,
        Traced.requests_define_of_idle found waiting, or_iff_right idle]
      rw [← show (registry.starting name).pending = name :: registry.pending from rfl, ← inside]
      split <;> simp_all

theorem around_define {build : Compile ClassDef} {traced : Traced ClassDef}
    (builds : Traces compiler met build traced) {name : ClassName} {around : List ClassName}
    {registry : Registry} {request : Request}
    (member : request ∈ (Traced.define name traced).requests around registry) :
    compiler.Placed met (name :: around) request := by
  cases found : registry.get? name with
  | some definition =>
    rw [Traced.requests_define_of_known found] at member
    exact absurd member List.not_mem_nil
  | none =>
    by_cases waiting : name ∈ registry.pending
    · rw [Traced.requests_define_of_waiting found waiting] at member
      exact absurd member List.not_mem_nil
    · rw [Traced.requests_define_of_idle found waiting] at member
      exact builds.placed _ _ request member

theorem inline {object : InlineObject} {build : Compile ClassDef} {traced : Traced ClassDef}
    (builds : Traces compiler (compiler.inside object) build traced) :
    Traces compiler (compiler.inside object ++ [object])
      (registering.inline object.className build) (tracing.inline object.className traced) where
  growing := builds.growing.define.answer _
  same := congrArg (registering.inline object.className) builds.same
  placed := by
    intro around registry request member
    have whole : object ∈ compiler.inside object ++ [object] :=
      List.mem_append_right _ (List.mem_singleton.mpr rfl)
    rcases List.mem_cons.mp member with rfl | within
    · exact ⟨object, whole, rfl, [], rfl, fun _ member => absurd member List.not_mem_nil⟩
    · obtain ⟨inner, inside, same, outer, around, encloses⟩ := builds.around_define within
      refine ⟨inner, List.mem_append_left _ inside, same, outer ++ [object], by simp [around], ?_⟩
      intro other member
      rcases List.mem_append.mp member with between | last
      · exact (encloses other between).imp_left (List.mem_append_left _)
      · rw [List.mem_singleton.mp last]
        exact ⟨whole, inside⟩
  cyclic := by
    intro registry name consistent
    show _ ↔ Reenters (_ :: _) name
    rw [reenters_cons, ← builds.cyclic_define consistent]
    show ((Registry.define _ _ >>= _).outcome registry).1 = _ ↔ _
    rw [outcome_bind]
    split <;> simp_all [outcome_pure]

theorem undoing {action : Compile α} {traced : Traced α}
    (first : Traces compiler met action traced) :
    Traces compiler met (Registry.undoing action) traced.undoing where
  growing := first.growing.undoing
  same := congrArg Registry.undoing first.same
  placed := first.placed
  cyclic := by
    intro registry name consistent
    show _ ↔ Reenters (traced.requests registry.pending registry) name
    rw [outcome_undoing first.growing consistent, ← first.cyclic consistent]
    split <;> simp_all

theorem agreement (compiler : Compiler) :
    Compiler.Agreement compiler registering tracing (Traces compiler) where
  pure value := step (.ok value)
  step := step
  bind := bind
  inline _ := inline

end Traces

structure TracesWithin {α : Type} (compiler : Compiler) (met : List InlineObject)
    (top : List ClassName) (action : Compile α) (traced : Traced α) : Prop where
  same : traced.action = action
  placed (registry : Registry) :
    ∀ request ∈ traced.requests [] registry, compiler.Placed met top request
  cyclic {registry : Registry} {name : ClassName} : registry.Consistent → registry.pending = [] →
    ((action.outcome registry).1 = .error (.cyclic name) ↔
      Reenters (traced.requests [] registry) name)

namespace TracesWithin

variable {α β : Type} {compiler : Compiler} {met : List InlineObject} {top : List ClassName}

theorem ofTraces {action : Compile α} {traced : Traced α}
    (traces : Traces compiler met action traced) : TracesWithin compiler met [] action traced where
  same := traces.same
  placed := traces.placed []
  cyclic consistent idle := idle ▸ traces.cyclic consistent

theorem define {build : Compile ClassDef} {traced : Traced ClassDef}
    (builds : Traces compiler met build traced) (name : ClassName) :
    TracesWithin compiler met [name] (Registry.define name build) (traced.define name) where
  same := congrArg (Registry.define name) builds.same
  placed _ _ := builds.around_define
  cyclic := by
    intro registry other consistent idle
    have ends := builds.cyclic_define consistent name other
    rwa [idle, or_iff_right fun waiting => List.not_mem_nil waiting.2] at ends

theorem check {action : Compile β} {traced : Traced β} {check : Except CompileError α}
    (acyclic : Acyclic check) (traces : TracesWithin compiler met top action traced) :
    TracesWithin compiler met top (liftM check >>= fun _ => action)
      (Traced.step check >>= fun _ => traced) where
  same := congrArg (fun action => liftM check >>= fun _ => action) traces.same
  placed registry request member := by
    cases check with
    | error error => exact absurd member List.not_mem_nil
    | ok => exact traces.placed registry request member
  cyclic := by
    intro registry name consistent idle
    cases check with
    | error error =>
      refine iff_of_false (fun same => ?_) (not_reenters_nil name)
      exact acyclic name (congrArg Except.error (Except.error.inj same))
    | ok => exact traces.cyclic consistent idle

theorem answer {action : Compile α} {traced : Traced α}
    (traces : TracesWithin compiler met top action traced) (answer : α → β) :
    TracesWithin compiler met top (action >>= fun value => pure (answer value))
      (traced >>= fun value => pure (answer value)) where
  same := congrArg (fun action => action >>= fun value => pure (answer value)) traces.same
  placed registry request member := by
    rw [Traced.requests_answer] at member
    exact traces.placed registry request member
  cyclic := by
    intro registry name consistent idle
    rw [Traced.requests_answer, ← traces.cyclic consistent idle, outcome_bind]
    split <;> simp_all [outcome_pure]

end TracesWithin

def generateTraced (compiler : Compiler) (name : String) (model : ObjectModel) (stem : String)
    (customize : ClassDef → ClassDef) : Traced ClassDef := do
  Traced.step (compiler.check name model)
  Traced.undoing (compiler.classWith tracing (customize (publicClass name)) stem model)

def registerTraced (compiler : Compiler) (name : String) (model : ObjectModel) (stem : String)
    (customize : ClassDef → ClassDef) : Traced ClassName := do
  Traced.step (compiler.check name model)
  let className := compiler.scope.generatedClass name
  let _ ← Traced.define className
    (compiler.classWith tracing (customize (publicClass className.simpleName)) stem model)
  return className

end Compiler

namespace Call

def traced (compiler : Compiler) : Call → Traced (ClassDef ⊕ ClassName)
  | .generate name model stem customize => do
    return .inl (← compiler.generateTraced name model stem customize)
  | .register name model stem customize => do
    return .inr (← compiler.registerTraced name model stem customize)

def objects (compiler : Compiler) : Call → List InlineObject
  | .generate _ model stem _ => compiler.inlineObjects stem [] model
  | .register _ model stem _ => compiler.inlineObjects stem [] model

def top (compiler : Compiler) : Call → List ClassName
  | .generate .. => []
  | .register name _ _ _ => [compiler.scope.generatedClass name]

end Call

namespace Compiler

theorem acyclic_check (compiler : Compiler) (name : String) (model : ObjectModel) :
    Acyclic (compiler.check name model) := by
  unfold check
  split
  · split
    · cases model.validate name with
      | error violation => exact .model violation
      | ok => exact .ok ()
    · exact .model _
  · exact .ok ()

theorem traces_build (compiler : Compiler) (name stem : String) (model : ObjectModel)
    (customize : ClassDef → ClassDef) :
    Traces compiler (compiler.inlineObjects stem [] model)
      (compiler.buildClass name model stem customize)
      (compiler.classWith tracing (customize (publicClass name)) stem model) := by
  rw [buildClass_eq]
  exact (Traces.agreement compiler).definition _ stem [] model

theorem traces_run (compiler : Compiler) (call : Call) :
    TracesWithin compiler (call.objects compiler) (call.top compiler) (call.run compiler)
      (call.traced compiler) := by
  cases call with
  | generate name model stem customize =>
    have builds := compiler.traces_build name stem model customize
    exact ((TracesWithin.ofTraces builds.undoing).check (compiler.acyclic_check name model)).answer _
  | register name model stem customize =>
    have builds := compiler.traces_build (compiler.scope.generatedClass name).simpleName stem model
      customize
    exact (((TracesWithin.define builds _).answer _).check (compiler.acyclic_check name model)).answer _

def EnclosesItself (compiler : Compiler) (call : Call) (name : ClassName) : Prop :=
  ∃ object ∈ call.objects compiler, object.className = name ∧
    (name ∈ call.top compiler ∨
      ∃ outer ∈ call.objects compiler, outer.className = name ∧ object ∈ compiler.inside outer)

section

variable {compiler : Compiler} {registry : Registry}

theorem cyclic_iff_reenters (reached : compiler.Reachable registry) {call : Call} {name : ClassName} :
    ((call.run compiler).outcome registry).1 = .error (.cyclic name) ↔
      Reenters ((call.traced compiler).requests [] registry) name :=
  (compiler.traces_run call).cyclic reached.settled.1 reached.settled.2

theorem enclosesItself_of_reenters {call : Call} {name : ClassName}
    (reenters : Reenters ((call.traced compiler).requests [] registry) name) :
    compiler.EnclosesItself call name := by
  obtain ⟨request, member, same, waiting⟩ := reenters
  obtain ⟨object, inside, asked, outer, around, encloses⟩ :=
    (compiler.traces_run call).placed registry request member
  refine ⟨object, inside, asked.trans same, ?_⟩
  rw [around] at waiting
  rcases List.mem_append.mp waiting with between | top
  · obtain ⟨other, chosen, rfl⟩ := List.mem_map.mp between
    exact .inr ⟨other, (encloses other chosen).1, rfl, (encloses other chosen).2⟩
  · exact .inl top

theorem enclosesItself_of_cyclic (reached : compiler.Reachable registry) {call : Call}
    {name : ClassName} (cyclic : ((call.run compiler).outcome registry).1 = .error (.cyclic name)) :
    compiler.EnclosesItself call name :=
  enclosesItself_of_reenters ((cyclic_iff_reenters reached).mp cyclic)

/-- Tracing changes nothing about a call. A call is cyclic only if it asks for a class that is being
compiled around the request, and then that class encloses itself in the model. A call that succeeds
never asks for a class that is being compiled around the request. -/
theorem cycles_are_enclosures (reached : compiler.Reachable registry) (call : Call) :
    (call.traced compiler).action = call.run compiler ∧
    (∀ request ∈ (call.traced compiler).requests [] registry,
      compiler.Placed (call.objects compiler) (call.top compiler) request) ∧
    (∀ name after, (call.run compiler).outcome registry = (.error (.cyclic name), after) →
      Reenters ((call.traced compiler).requests [] registry) name ∧
        compiler.EnclosesItself call name) ∧
    ∀ answer after, (call.run compiler).outcome registry = (.ok answer, after) →
      ∀ request ∈ (call.traced compiler).requests [] registry,
        request.className ∉ request.around := by
  have traces := compiler.traces_run call
  refine ⟨traces.same, traces.placed registry, fun name after failed => ?_, ?_⟩
  · have reenters := (cyclic_iff_reenters reached).mp (congrArg Prod.fst failed)
    exact ⟨reenters, enclosesItself_of_reenters reenters⟩
  · intro answer after done request member waiting
    have cyclic := (cyclic_iff_reenters reached).mpr ⟨request, member, rfl, waiting⟩
    rw [done] at cyclic
    cases cyclic

end

def registersTag : Call := .register "WidgetTag" taggedWidget "Widget" id

def registersWidget : Call := .register "Widget" taggedWidget "Widget" id

theorem tag_encloses_itself : (∃ after, (registersTag.run (forPackage "p")).outcome kept =
        (.error (.cyclic ((forPackage "p").scope.generatedClass "WidgetTag")), after)) ∧
      (forPackage "p").EnclosesItself registersTag
        ((forPackage "p").scope.generatedClass "WidgetTag") ∧
      ((registersWidget.traced (forPackage "p")).requests [] kept).map
        (fun request => (request.around.map (·.outermost), request.className.outermost)) =
          [(["Widget"], "Size"), (["Widget"], "WidgetTag")] ∧
      ∀ request ∈ (registersWidget.traced (forPackage "p")).requests [] kept,
        request.className ∉ request.around := by
  have fails : ((registersTag.run (forPackage "p")).outcome kept).1 =
      .error (.cyclic ((forPackage "p").scope.generatedClass "WidgetTag")) := by
    decide +kernel
  have succeeds : ((registersWidget.run (forPackage "p")).outcome kept).1.isOk = true := by
    decide +kernel
  have asks : ((registersWidget.traced (forPackage "p")).requests [] kept).map
      (fun request => (request.around.map (·.outermost), request.className.outermost)) =
        [(["Widget"], "Size"), (["Widget"], "WidgetTag")] := by
    decide +kernel
  obtain ⟨-, -, cyclic, -⟩ := cycles_are_enclosures reachable_kept registersTag
  obtain ⟨-, -, -, acyclic⟩ := cycles_are_enclosures reachable_kept registersWidget
  obtain ⟨after, failed⟩ := exists_after fails
  obtain ⟨answer, done⟩ := exists_ok_of_isOk succeeds
  exact ⟨⟨after, failed⟩, (cyclic _ after failed).2, asks, acyclic answer _ done⟩

end Compiler

end ClassCompiler
