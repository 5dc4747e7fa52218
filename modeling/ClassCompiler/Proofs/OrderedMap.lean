import ClassCompiler.Proofs.Calls

/-! A registry is one map in the order of its entries, between operations and at every moment of a
call. Calls are run once more for that, so that they note the registries they pass. -/

namespace ClassCompiler
open Compile

def Noted (α : Type) : Type := Registry → (Except CompileError α × Registry) × List Registry

namespace Noted

variable {α β : Type}

def bind (first : Noted α) (next : α → Noted β) : Noted β := fun registry =>
  match first registry with
  | ((.ok value, reached), passed) => ((next value reached).1, passed ++ (next value reached).2)
  | ((.error error, reached), passed) => ((.error error, reached), passed)

instance : Monad Noted where
  pure value := fun registry => ((.ok value, registry), [])
  bind := bind

def step (result : Except CompileError α) : Noted α := fun registry => ((result, registry), [])

/-- Like `Registry.define`; a start, an end and what is stored or taken back are noted. -/
def define (name : ClassName) (build : Noted ClassDef) : Noted ClassDef := fun registry =>
  match registry.get? name with
  | some definition => ((.ok definition, registry), [])
  | none =>
    match registry.start name with
    | .error error => ((.error error, registry), [])
    | .ok started =>
      let ((result, reached), passed) := build started
      let ended := reached.finish name registry.checkpoint result
      (ended, [started] ++ passed ++ [reached.settle name, ended.2])

def undoing (action : Noted α) : Noted α := fun registry =>
  match action registry with
  | ((.ok value, reached), passed) => ((.ok value, reached), passed)
  | ((.error error, reached), passed) =>
    let ended := reached.rollback registry.checkpoint
    ((.error error, ended), passed ++ [ended])

end Noted

namespace Registry

/-- A registry at a later moment. Names may be under way in it, but no entry has gone. -/
structure Keeps (before moment : Registry) : Prop where
  consistent : moment.Consistent
  entries : before.entries <+: moment.entries

theorem Grows.keeps {before after : Registry} (grows : before.Grows after) : before.Keeps after :=
  ⟨grows.consistent, grows.entries⟩

theorem Grows.keeps_later {before middle moment : Registry} (grows : before.Grows middle)
    (keeps : middle.Keeps moment) : before.Keeps moment :=
  ⟨keeps.consistent, grows.entries.trans keeps.entries⟩

end Registry

/-- The noting computation has the same outcome, and all it notes are later moments. -/
structure Notes {α : Type} (action : Compile α) (noted : Noted α) : Prop where
  growing : Growing action
  outcome (registry : Registry) : (noted registry).1 = action.outcome registry
  keeps {registry : Registry} : registry.Consistent →
    ∀ moment ∈ (noted registry).2, registry.Keeps moment

namespace Notes

variable {α β : Type}

theorem step (result : Except CompileError α) :
    Notes (liftM result : Compile α) (Noted.step result) :=
  ⟨.lift result, fun _ => rfl, fun _ _ member => absurd member List.not_mem_nil⟩

theorem bind {action : Compile α} {noted : Noted α} {next : α → Compile β}
    {notedNext : α → Noted β} (first : Notes action noted)
    (rest : ∀ value, Notes (next value) (notedNext value)) :
    Notes (action >>= next) (noted >>= notedNext) := by
  refine ⟨first.growing.bind fun value => (rest value).growing, ?_, ?_⟩
  · intro registry
    have same := first.outcome registry
    show (noted.bind notedNext registry).1 = _
    rw [outcome_bind, ← same]
    unfold Noted.bind
    split
    next value reached passed ran =>
      simp only [ran]
      exact (rest value).outcome reached
    next error reached passed ran => simp only [ran]
  · intro registry consistent moment member
    have same := first.outcome registry
    have before := first.keeps consistent
    change moment ∈ (noted.bind notedNext registry).2 at member
    unfold Noted.bind at member
    split at member
    next value reached passed ran =>
      rw [ran] at same before
      have grows := first.growing.grows consistent same.symm
      rcases List.mem_append.mp member with earlier | later
      · exact before moment earlier
      · exact grows.keeps_later ((rest value).keeps grows.consistent moment later)
    next error reached passed ran =>
      rw [ran] at before
      exact before moment member

theorem answer {action : Compile α} {noted : Noted α} (first : Notes action noted) (answer : α → β) :
    Notes (action >>= fun value => pure (answer value)) (noted >>= fun value => pure (answer value)) :=
  first.bind fun value => step (.ok (answer value))

theorem outcome_define {name : ClassName} {build : Compile ClassDef} {noted : Noted ClassDef}
    (builds : Notes build noted) (registry : Registry) :
    (Noted.define name noted registry).1 = (Registry.define name build).outcome registry := by
  unfold Noted.define Registry.define
  rw [outcome_ofOutcome]
  cases registry.get? name with
  | some definition => rfl
  | none =>
    cases registry.start name with
    | error error => rfl
    | ok started => simp only [← builds.outcome started]

theorem define {name : ClassName} {build : Compile ClassDef} {noted : Noted ClassDef}
    (builds : Notes build noted) : Notes (Registry.define name build) (Noted.define name noted) := by
  refine ⟨builds.growing.define, builds.outcome_define, ?_⟩
  intro registry consistent moment member
  have last : registry.Keeps (Noted.define name noted registry).1.2 := by
    rw [builds.outcome_define]
    exact (builds.growing.define registry consistent).keeps
  unfold Noted.define at member last
  cases found : registry.get? name with
  | some definition => simp [found] at member
  | none =>
    have absent := consistent.get?_eq_none_iff.mp found
    by_cases waiting : name ∈ registry.pending
    · simp [found, Registry.start_eq_error waiting] at member
    · have started := consistent.starting absent
      have grows := builds.growing.grows started (builds.outcome _).symm
      have inside := builds.keeps started
      simp only [found, Registry.start_eq_ok waiting] at member last
      rcases List.mem_append.mp member with earlier | later
      · rcases List.mem_append.mp earlier with first | within
        · rw [List.mem_singleton.mp first]
          exact ⟨started, List.prefix_refl _⟩
        · exact ⟨(inside moment within).consistent, (inside moment within).entries⟩
      · rcases List.mem_pair.mp later with rfl | rfl
        · exact grows.settle.keeps
        · exact last

theorem undoing {action : Compile α} {noted : Noted α} (first : Notes action noted) :
    Notes (Registry.undoing action) (Noted.undoing noted) := by
  have same (registry : Registry) :
      (noted.undoing registry).1 = (Registry.undoing action).outcome registry := by
    unfold Noted.undoing Registry.undoing
    rw [outcome_ofOutcome, ← first.outcome registry]
    rcases noted registry with ⟨⟨result, reached⟩, passed⟩
    cases result <;> rfl
  refine ⟨first.growing.undoing, same, ?_⟩
  intro registry consistent moment member
  have last : registry.Keeps (noted.undoing registry).1.2 := by
    rw [same]
    exact (first.growing.undoing registry consistent).keeps
  have before := first.keeps consistent
  unfold Noted.undoing at member last
  rcases ran : noted registry with ⟨⟨result, reached⟩, passed⟩
  rw [ran] at member last before
  cases result with
  | ok value => exact before moment member
  | error error =>
    rcases List.mem_append.mp member with earlier | ended
    · exact before moment earlier
    · rw [List.mem_singleton.mp ended]
      exact last

end Notes

namespace Compiler

def noting : Handler Noted where
  step := Noted.step
  inline name build := do
    let _ ← Noted.define name build

theorem agreement_notes (compiler : Compiler) :
    Agreement compiler registering noting fun _ action noted => Notes action noted where
  pure value := .step (.ok value)
  step _ := .step _
  bind := .bind
  inline _ builds := builds.define.answer _

def buildNoted (compiler : Compiler) (name : String) (model : ObjectModel) (stem : String)
    (customize : ClassDef → ClassDef) : Noted ClassDef :=
  compiler.classWith noting (customize (publicClass name)) stem model

def generateNoted (compiler : Compiler) (name : String) (model : ObjectModel) (stem : String)
    (customize : ClassDef → ClassDef) : Noted ClassDef := do
  Noted.step (compiler.check name model)
  Noted.undoing (compiler.buildNoted name model stem customize)

def registerNoted (compiler : Compiler) (name : String) (model : ObjectModel) (stem : String)
    (customize : ClassDef → ClassDef) : Noted ClassName := do
  Noted.step (compiler.check name model)
  let className := compiler.scope.generatedClass name
  let _ ← Noted.define className
    (compiler.buildNoted className.simpleName model stem customize)
  return className

end Compiler

def Call.noted (compiler : Compiler) : Call → Noted (ClassDef ⊕ ClassName)
  | .generate name model stem customize => do
    return .inl (← compiler.generateNoted name model stem customize)
  | .register name model stem customize => do
    return .inr (← compiler.registerNoted name model stem customize)

namespace Compiler

theorem notes_build (compiler : Compiler) (name stem : String) (model : ObjectModel)
    (customize : ClassDef → ClassDef) :
    Notes (compiler.buildClass name model stem customize)
      (compiler.buildNoted name model stem customize) := by
  rw [buildClass_eq]
  exact (agreement_notes compiler).definition _ stem [] model

theorem notes_run (compiler : Compiler) (call : Call) :
    Notes (call.run compiler) (call.noted compiler) := by
  cases call with
  | generate name model stem customize =>
    have builds := compiler.notes_build name stem model customize
    exact Notes.answer ((Notes.step _).bind fun _ => builds.undoing) _
  | register name model stem customize =>
    have builds := compiler.notes_build (compiler.scope.generatedClass name).simpleName stem model
      customize
    exact Notes.answer ((Notes.step _).bind fun _ => builds.define.answer _) _

/-- The registries between operations: calls of a compiler, and what can be asked of a registry by
itself, to define a name by a generator and to go back to a checkpoint, whenever that was taken. -/
inductive Operated (compiler : Compiler) : Registry → Prop
  | empty : Operated compiler .empty
  | call {registry : Registry} (before : Operated compiler registry) (call : Call) :
      Operated compiler ((call.run compiler).outcome registry).2
  | create {registry : Registry} (before : Operated compiler registry) (name : ClassName)
      (generator : String → Except CompileError ClassDef) :
      Operated compiler
        ((Registry.define name (liftM (generator name.simpleName))).outcome registry).2
  | rollback {registry : Registry} (before : Operated compiler registry)
      (checkpoint : Checkpoint) : Operated compiler (registry.rollback checkpoint)

theorem Operated.settled {compiler : Compiler} {registry : Registry}
    (operated : compiler.Operated registry) : registry.Consistent ∧ registry.pending = [] := by
  induction operated with
  | empty => exact ⟨.empty, rfl⟩
  | call before call ih =>
    have grows := compiler.growing_run call _ ih.1
    exact ⟨grows.consistent, grows.pending.trans ih.2⟩
  | create before name generator ih =>
    have defines : Growing (Registry.define name (liftM (generator name.simpleName))) :=
      (Growing.lift (generator name.simpleName)).define
    have grows := defines _ ih.1
    exact ⟨grows.consistent, grows.pending.trans ih.2⟩
  | rollback before checkpoint ih => exact ⟨ih.1.rollback checkpoint, ih.2⟩

inductive Occurs (compiler : Compiler) : Registry → Prop
  | between {registry : Registry} (operated : compiler.Operated registry) : Occurs compiler registry
  | within {registry moment : Registry} (operated : compiler.Operated registry) (call : Call)
      (passed : moment ∈ (call.noted compiler registry).2) : Occurs compiler moment

theorem Occurs.consistent {compiler : Compiler} {registry : Registry}
    (occurs : compiler.Occurs registry) : registry.Consistent := by
  cases occurs with
  | between operated => exact operated.settled.1
  | within operated call passed =>
    exact ((compiler.notes_run call).keeps operated.settled.1 registry passed).consistent

end Compiler

/-- All that a registry tells is one map: its entries in their order, each name once. -/
structure Registry.OrderedMap (registry : Registry) : Prop where
  distinct : registry.names.Nodup
  index (name : ClassName) (position : Nat) :
    registry.index.lookup name = some position ↔ registry.names[position]? = some name
  get (name : ClassName) (definition : ClassDef) :
    registry.get? name = some definition ↔ (name, definition) ∈ registry.entries
  contains (name : ClassName) : registry.contains name = true ↔ name ∈ registry.names
  size : registry.size = registry.names.length
  isEmpty : registry.isEmpty = true ↔ registry.names = []
  pending : ∀ name ∈ registry.pending, registry.contains name = false

theorem Registry.Consistent.orderedMap {registry : Registry} (consistent : registry.Consistent) :
    registry.OrderedMap where
  distinct := consistent.distinct
  index _ _ := consistent.lookup_index
  get _ _ := consistent.get?_eq_some_iff
  contains _ := consistent.contains_iff
  size := by simp [size, names]
  isEmpty := by simp [isEmpty, names]
  pending name waiting := by
    have absent := consistent.apart name waiting
    rwa [← consistent.contains_iff, Bool.not_eq_true] at absent

namespace Compiler

theorem register_of_contains {compiler : Compiler} {registry : Registry} {name stem : String}
    {model : ObjectModel} {customize : ClassDef → ClassDef} (consistent : registry.Consistent)
    (accepted : compiler.check name model = .ok ())
    (known : registry.contains (compiler.scope.generatedClass name) = true) :
    (compiler.register name model stem customize).outcome registry =
      (.ok (compiler.scope.generatedClass name), registry) := by
  obtain ⟨definition, stored⟩ := Registry.mem_names.mp (consistent.contains_iff.mp known)
  have found := consistent.get?_eq_some_iff.mpr stored
  rw [outcome_register, accepted, outcome_define_of_known found]

/-- Whatever a compiler and its registry were asked to do, the registry is an ordered map, also in
the middle of a call. No call takes an entry away or replaces it, at any moment; and a name that is
registered is only answered. -/
theorem registry_is_ordered_map (compiler : Compiler) :
    (∀ registry, compiler.Occurs registry → registry.OrderedMap) ∧
    ∀ registry, compiler.Operated registry →
      (∀ call : Call, (call.noted compiler registry).1 = (call.run compiler).outcome registry ∧
        registry.entries <+: ((call.run compiler).outcome registry).2.entries ∧
        ∀ moment ∈ (call.noted compiler registry).2, registry.entries <+: moment.entries) ∧
      (∀ calls name definition, registry.get? name = some definition →
        (compiler.runAll registry calls).get? name = some definition) ∧
      ∀ name model stem customize, compiler.check name model = .ok () →
        registry.contains (compiler.scope.generatedClass name) = true →
          (compiler.register name model stem customize).outcome registry =
            (.ok (compiler.scope.generatedClass name), registry) := by
  refine ⟨fun registry occurs => occurs.consistent.orderedMap, fun registry operated => ?_⟩
  have consistent := operated.settled.1
  refine ⟨fun call => ⟨(compiler.notes_run call).outcome registry, ?_, fun moment passed => ?_⟩,
    fun calls name definition found => ?_, ?_⟩
  · exact (compiler.growing_run call registry consistent).entries
  · exact ((compiler.notes_run call).keeps consistent moment passed).entries
  · exact (compiler.grows_runAll calls consistent).get?_eq_some consistent found
  · intro name model stem customize accepted known
    exact register_of_contains consistent accepted known

def registersBroken : Call := .register "Widget" brokenWidget "Widget" id

theorem broken_tag_is_mapped : ∃ moment ∈ (registersBroken.noted (forPackage "p") kept).2,
    moment.names.map (·.outermost) = ["Kept", "WidgetTag"] ∧
      moment.pending.map (·.outermost) = ["Widget"] ∧ moment.OrderedMap ∧
      kept.entries <+: moment.entries ∧
      ((forPackage "p").register "Kept" brokenWidget "Kept").outcome kept =
        (.ok ((forPackage "p").scope.generatedClass "Kept"), kept) := by
  have names : ((registersBroken.noted (forPackage "p") kept).2[3]?).map
      (·.names.map (·.outermost)) = some ["Kept", "WidgetTag"] := by
    decide +kernel
  have pending : ((registersBroken.noted (forPackage "p") kept).2[3]?).map
      (·.pending.map (·.outermost)) = some ["Widget"] := by
    decide +kernel
  have accepted : (forPackage "p").check "Kept" brokenWidget = .ok () := by
    decide +kernel
  have known : kept.contains ((forPackage "p").scope.generatedClass "Kept") = true := by
    decide +kernel
  have operated : (forPackage "p").Operated kept := .call .empty registersKept
  obtain ⟨moment, passed, same⟩ := Option.map_eq_some_iff.mp names
  rw [passed] at pending
  obtain ⟨maps, runs⟩ := registry_is_ordered_map (forPackage "p")
  obtain ⟨keeps, -, answers⟩ := runs kept operated
  have member := List.mem_of_getElem? passed
  exact ⟨moment, member, same, Option.some.inj pending,
    maps moment (.within operated registersBroken member),
    (keeps registersBroken).2.2 moment member, answers _ _ _ _ accepted known⟩

end Compiler

end ClassCompiler
