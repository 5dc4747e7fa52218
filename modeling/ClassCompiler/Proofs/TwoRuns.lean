import ClassCompiler.Proofs.Calls
import ClassCompiler.Proofs.Standalone

/-! Two runs for one model: in different registries, and by the two kinds of calls. A definition does
not depend on the registry; a call that registers it does what one that hands it back does, unless an
inline object asks for the class that is under way. -/

namespace ClassCompiler
open Compile

/-- The other registry is like the first, and one more name is under way in it. -/
structure Registry.OneMore (name : ClassName) (registry other : Registry) : Prop where
  consistent : registry.Consistent
  alike : other.Consistent
  entries : other.entries = registry.entries
  pending (className : ClassName) :
    className ∈ other.pending ↔ className = name ∨ className ∈ registry.pending

namespace Registry.OneMore

variable {name : ClassName} {registry other : Registry}

theorem start (consistent : registry.Consistent) (absent : name ∉ registry.names) :
    OneMore name registry (registry.starting name) :=
  ⟨consistent, consistent.starting absent, rfl, fun _ => List.mem_cons⟩

theorem names (more : OneMore name registry other) : other.names = registry.names :=
  congrArg (List.map Prod.fst) more.entries

theorem get? (more : OneMore name registry other) (className : ClassName) :
    other.get? className = registry.get? className := by
  apply Option.ext
  intro definition
  rw [more.alike.get?_eq_some_iff, more.consistent.get?_eq_some_iff, more.entries]

theorem grows {reached reached' : Registry} (more : OneMore name registry other)
    (first : registry.Grows reached) (second : other.Grows reached')
    (entries : reached'.entries = reached.entries) : OneMore name reached reached' where
  consistent := first.consistent
  alike := second.consistent
  entries := entries
  pending className := by
    rw [second.pending, first.pending]
    exact more.pending className

theorem starting {className : ClassName} (more : OneMore name registry other)
    (absent : className ∉ registry.names) :
    OneMore name (registry.starting className) (other.starting className) where
  consistent := more.consistent.starting absent
  alike := more.alike.starting (more.names ▸ absent)
  entries := more.entries
  pending another := by
    show another ∈ className :: other.pending ↔
      another = name ∨ another ∈ className :: registry.pending
    rw [List.mem_cons, List.mem_cons, more.pending another]
    exact or_left_comm

end Registry.OneMore

/-- The outcome of a run with the name under way, beside that of a run without. It is the same
unless one of the inline objects has the name. -/
inductive SameUnlessCyclic {α : Type} (name : ClassName) (met : List InlineObject) :
    Except CompileError α × Registry → Except CompileError α × Registry → Prop
  | same {result : Except CompileError α} {after after' : Registry}
      (entries : after'.entries = after.entries) :
      SameUnlessCyclic name met (result, after') (result, after)
  | cyclic {object : InlineObject} {after' : Registry} {without : Except CompileError α × Registry}
      (member : object ∈ met) (named : object.className = name) :
      SameUnlessCyclic name met (.error (.cyclic name), after') without

structure Overlooks {α : Type} (name : ClassName) (met : List InlineObject) (action : Compile α) :
    Prop where
  growing : Growing action
  outcome {registry other : Registry} : Registry.OneMore name registry other →
    SameUnlessCyclic name met (action.outcome other) (action.outcome registry)

namespace Overlooks

variable {α β : Type} {name : ClassName} {met more : List InlineObject}

theorem lift (result : Except CompileError α) : Overlooks name [] (liftM result : Compile α) :=
  ⟨.lift result, fun differ => .same differ.entries⟩

theorem bind {action : Compile α} {next : α → Compile β} (first : Overlooks name met action)
    (rest : ∀ value, Overlooks name more (next value)) :
    Overlooks name (met ++ more) (action >>= next) := by
  refine ⟨first.growing.bind fun value => (rest value).growing, ?_⟩
  intro registry other differ
  have began := first.outcome differ
  have grows := first.growing registry differ.consistent
  have grows' := first.growing other differ.alike
  rw [outcome_bind, outcome_bind]
  generalize action.outcome registry = without at began grows ⊢
  generalize action.outcome other = within at began grows' ⊢
  cases began with
  | @same result after after' entries =>
    cases result with
    | error error => exact .same entries
    | ok value =>
      have continued := (rest value).outcome (differ.grows grows grows' entries)
      show SameUnlessCyclic name (met ++ more) ((next value).outcome after')
        ((next value).outcome after)
      generalize (next value).outcome after = without at continued ⊢
      generalize (next value).outcome after' = within at continued ⊢
      cases continued with
      | same entries => exact .same entries
      | cyclic member named => exact .cyclic (List.mem_append_right _ member) named
  | cyclic member named => exact .cyclic (List.mem_append_left _ member) named

theorem answer {action : Compile α} (first : Overlooks name met action) (answer : α → β) :
    Overlooks name met (action >>= fun value => pure (answer value)) := by
  rw [← List.append_nil met]
  exact first.bind fun value => lift (.ok (answer value))

theorem define {build : Compile ClassDef} (builds : Overlooks name met build)
    (object : InlineObject) :
    Overlooks name (met ++ [object]) (Registry.define object.className build) := by
  refine ⟨builds.growing.define, ?_⟩
  intro registry other differ
  cases found : registry.get? object.className with
  | some definition =>
    rw [outcome_define_of_known found,
      outcome_define_of_known ((differ.get? object.className).trans found)]
    exact .same differ.entries
  | none =>
    have absent := differ.consistent.get?_eq_none_iff.mp found
    have absent' : object.className ∉ other.names := differ.names ▸ absent
    -- The class is under way in both runs, in the second alone, or in none.
    by_cases waiting : object.className ∈ other.pending
    · rw [outcome_define_of_waiting differ.alike absent' waiting]
      rcases (differ.pending object.className).mp waiting with rfl | before
      · exact .cyclic (List.mem_append_right _ (List.mem_singleton.mpr rfl)) rfl
      · rw [outcome_define_of_waiting differ.consistent absent before]
        exact .same differ.entries
    · have idle : object.className ∉ registry.pending := fun before =>
        waiting ((differ.pending object.className).mpr (.inr before))
      rw [outcome_define_of_absent builds.growing differ.consistent absent idle,
        outcome_define_of_absent builds.growing differ.alike absent' waiting]
      have built := builds.outcome (differ.starting absent)
      generalize build.outcome (registry.starting object.className) = without at built ⊢
      generalize build.outcome (other.starting object.className) = within at built ⊢
      cases built with
      | cyclic member named => exact .cyclic (List.mem_append_left _ member) named
      | @same result after after' entries =>
        cases result with
        | error error => exact .same differ.entries
        | ok definition => exact .same (congrArg (· ++ [(object.className, definition)]) entries)

theorem agreement (compiler : Compiler) (name : ClassName) :
    Compiler.Agreement compiler Compiler.registering Compiler.registering fun met left _ =>
      Overlooks name met left where
  pure value := lift (.ok value)
  step _ := lift _
  bind := bind
  inline object builds := (builds.define object).answer _

end Overlooks

namespace Compiler

section

variable {compiler : Compiler} {name stem : String} {model : ObjectModel}
  {customize : ClassDef → ClassDef}

theorem overlooks_build (compiler : Compiler) (name stem : String) (model : ObjectModel)
    (customize : ClassDef → ClassDef) (className : ClassName) :
    Overlooks className (compiler.inlineObjects stem [] model)
      (compiler.buildClass name model stem customize) := by
  rw [buildClass_eq]
  exact (Overlooks.agreement compiler className).definition _ stem [] model

/-- Whatever was registered before, a definition that is handed back is the one that the model has
by itself; so it is the same in all registries in which the call succeeds. -/
theorem generated_definitions_agree {first second after after' : Registry}
    {definition other : ClassDef} (reached : compiler.Reachable first)
    (reached' : compiler.Reachable second)
    (done : (compiler.generate name model stem customize).outcome first = (.ok definition, after))
    (done' : (compiler.generate name model stem customize).outcome second = (.ok other, after')) :
    definition = other ∧
      compiler.standalone (customize (publicClass name)) stem model = .ok definition := by
  have own := standalone_of_outcome reached.settled.1 (built_of_generate reached.settled.1 done)
  have own' := standalone_of_outcome reached'.settled.1 (built_of_generate reached'.settled.1 done')
  exact ⟨Except.ok.inj (own.symm.trans own'), own⟩

end

def registersForeignTag : Call := .register "WidgetTag" {} "WidgetTag" id

def foreign : Registry := ((registersForeignTag.run (forPackage "p")).outcome .empty).2

theorem widget_agrees_beside_foreign_tag : ∃ definition other after after',
    ((forPackage "p").generate "Widget" taggedWidget "Widget").outcome kept =
      (.ok definition, after) ∧
    after.names.map (·.outermost) = ["Kept", "Size", "WidgetTag"] ∧
    ((forPackage "p").generate "Widget" taggedWidget "Widget").outcome foreign =
      (.ok other, after') ∧
    after'.names.map (·.outermost) = ["WidgetTag", "Size"] ∧ definition = other := by
  have compiles : (((forPackage "p").generate "Widget" taggedWidget "Widget").outcome
      kept).1.isOk = true := by
    decide +kernel
  have compiles' : (((forPackage "p").generate "Widget" taggedWidget "Widget").outcome
      foreign).1.isOk = true := by
    decide +kernel
  have order : (((forPackage "p").generate "Widget" taggedWidget "Widget").outcome
      kept).2.names.map (·.outermost) = ["Kept", "Size", "WidgetTag"] := by
    decide +kernel
  have order' : (((forPackage "p").generate "Widget" taggedWidget "Widget").outcome
      foreign).2.names.map (·.outermost) = ["WidgetTag", "Size"] := by
    decide +kernel
  have reached : (forPackage "p").Reachable foreign := .call .empty registersForeignTag
  obtain ⟨definition, done⟩ := exists_ok_of_isOk compiles
  obtain ⟨other, done'⟩ := exists_ok_of_isOk compiles'
  exact ⟨definition, other, _, _, done, order, done', order',
    (generated_definitions_agree reachable_kept reached done done').1⟩

section

variable {compiler : Compiler} {name stem : String} {model : ObjectModel}
  {customize : ClassDef → ClassDef}

/-- A class that is free is registered with the definition that is handed back otherwise, behind the
same classes of inline objects. Only an inline object that asks for the class itself fails. -/
theorem register_matches_generate {registry : Registry} (reached : compiler.Reachable registry)
    (fresh : compiler.scope.generatedClass name ∉ registry.names) :
    (∀ className after,
      (compiler.register name model stem customize).outcome registry = (.ok className, after) →
        ∃ added definition between, className = compiler.scope.generatedClass name ∧
          after.entries = registry.entries ++ added ++ [(className, definition)] ∧
          (compiler.generate name model stem customize).outcome registry =
            (.ok definition, between) ∧
          between.entries = registry.entries ++ added) ∧
    ∀ definition between,
      (compiler.generate name model stem customize).outcome registry = (.ok definition, between) →
        ∃ added, between.entries = registry.entries ++ added ∧
          ((∃ after, (compiler.register name model stem customize).outcome registry =
              (.ok (compiler.scope.generatedClass name), after) ∧
              after.entries =
                registry.entries ++ added ++ [(compiler.scope.generatedClass name, definition)]) ∨
            (compiler.register name model stem customize).outcome registry =
              (.error (.cyclic (compiler.scope.generatedClass name)), registry) ∧
            ∃ object ∈ compiler.inlineObjects stem [] model,
              object.className = compiler.scope.generatedClass name) := by
  obtain ⟨consistent, idle⟩ := reached.settled
  have growing := Growing.buildClass compiler name model stem customize
  have grows := growing registry consistent
  have compared := (compiler.overlooks_build name stem model customize
    (compiler.scope.generatedClass name)).outcome (.start consistent fresh)
  simp only [outcome_generate, outcome_register]
  cases compiler.check name model with
  | error error =>
    constructor
    · intro className after done
      cases done
    · intro definition between done
      cases done
  | ok =>
    simp only [outcome_define_of_absent growing consistent fresh (by simp [idle]),
      outcome_undoing growing consistent]
    generalize (compiler.buildClass name model stem customize).outcome registry = without
      at compared grows ⊢
    generalize (compiler.buildClass name model stem customize).outcome
      (registry.starting (compiler.scope.generatedClass name)) = within at compared ⊢
    obtain ⟨added, appended⟩ := grows.entries
    -- The runs part only where an inline object asks for the class itself.
    cases compared with
    | @same result after after' entries =>
      cases result with
      | error error =>
        constructor
        · intro className after done
          cases done
        · intro definition between done
          cases done
      | ok definition =>
        have last : after'.entries ++ [(compiler.scope.generatedClass name, definition)] =
            registry.entries ++ added ++ [(compiler.scope.generatedClass name, definition)] := by
          rw [entries, ← appended]
        constructor
        · intro className after done
          cases done
          exact ⟨added, definition, _, rfl, last, rfl, appended.symm⟩
        · intro definition between done
          cases done
          exact ⟨added, appended.symm, .inl ⟨_, rfl, last⟩⟩
    | cyclic member named =>
      constructor
      · intro className after done
        cases done
      · intro definition between done
        obtain ⟨result, reached⟩ := without
        cases result with
        | error error => cases done
        | ok definition =>
          cases done
          exact ⟨added, appended.symm, .inr ⟨rfl, _, member, named⟩⟩

end

theorem widget_either_way :
    (∃ added definition between after,
      ((forPackage "p").register "Widget" taggedWidget "Widget").outcome kept =
        (.ok ((forPackage "p").scope.generatedClass "Widget"), after) ∧
      after.entries = kept.entries ++ added ++
        [((forPackage "p").scope.generatedClass "Widget", definition)] ∧
      ((forPackage "p").generate "Widget" taggedWidget "Widget").outcome kept =
        (.ok definition, between) ∧
      between.entries = kept.entries ++ added) ∧
    ∃ definition between,
      ((forPackage "p").generate "WidgetTag" taggedWidget "Widget").outcome kept =
        (.ok definition, between) ∧
      ((forPackage "p").register "WidgetTag" taggedWidget "Widget").outcome kept =
        (.error (.cyclic ((forPackage "p").scope.generatedClass "WidgetTag")), kept) := by
  have registers : (((forPackage "p").register "Widget" taggedWidget "Widget").outcome
      kept).1.isOk = true := by
    decide +kernel
  have refuses : (((forPackage "p").register "WidgetTag" taggedWidget "Widget").outcome
      kept).1.isOk = false := by
    decide +kernel
  have compiles : (((forPackage "p").generate "WidgetTag" taggedWidget "Widget").outcome
      kept).1.isOk = true := by
    decide +kernel
  constructor
  · have fresh : (forPackage "p").scope.generatedClass "Widget" ∉ kept.names := by
      rw [names_kept]
      decide
    obtain ⟨className, done⟩ := exists_ok_of_isOk registers
    obtain ⟨added, definition, between, rfl, last, without, entries⟩ :=
      (register_matches_generate reachable_kept fresh).1 className _ done
    exact ⟨added, definition, between, _, done, last, without, entries⟩
  · have fresh : (forPackage "p").scope.generatedClass "WidgetTag" ∉ kept.names := by
      rw [names_kept]
      decide
    obtain ⟨definition, done⟩ := exists_ok_of_isOk compiles
    obtain ⟨added, entries, ⟨after, registered, -⟩ | ⟨cyclic, -⟩⟩ :=
      (register_matches_generate reachable_kept fresh).2 definition _ done
    · rw [registered] at refuses
      cases refuses
    · exact ⟨definition, _, done, cyclic⟩

end Compiler

end ClassCompiler
