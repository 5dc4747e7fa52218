import ClassCompiler.Proofs.Calls
import ClassCompiler.Proofs.Standalone
import ClassCompiler.Proofs.Ways

/-! What registered classes refer to. The class of an inline object is registered before the class
with the field for it, and what is registered stays; so references lead to earlier entries. -/

namespace ClassCompiler
open Compile

structure FieldWithin (classes : List ClassName) (property : Property) (field : FieldDef) : Prop where
  name : field.name = property.name
  type {model : ObjectModel} : property.object = some model →
    ∃ className ∈ classes, field.type = .named className

mutual

/-- Nested classes and fields for a model. The fields of all inline objects in it, and in the
objects nested in it, have types among the classes. -/
def Within (classes : List ClassName) : ObjectModel → List ClassDef → List FieldDef → Prop
  | ⟨_, _, _, nested, properties, _⟩, definitions, fields =>
    NestedWithin classes nested definitions ∧
      List.Forall₂ (FieldWithin classes) properties fields

def NestedWithin (classes : List ClassName) : List ObjectModel → List ClassDef → Prop
  | [], definitions => definitions = []
  | model :: models, definitions =>
    ∃ definition more, definitions = definition :: more ∧ model.name = some definition.name ∧
      Within classes model definition.nested definition.fields ∧ NestedWithin classes models more

end

namespace Registry

theorem Grows.names_subset {first second : Registry} (grows : first.Grows second) :
    first.names ⊆ second.names :=
  List.map_subset _ grows.entries.subset

end Registry

namespace Compiler

theorem outcome_step_ok {α β : Type} {result : Except CompileError α} {next : α → Compile β}
    {registry after : Registry} {value : β}
    (ran : (registering.step result >>= next).outcome registry = (.ok value, after)) :
    ∃ first, result = .ok first ∧ (next first).outcome registry = (.ok value, after) := by
  obtain ⟨first, _, stepped, rest⟩ := outcome_bind_ok ran
  obtain ⟨made, rfl⟩ := Prod.mk.inj stepped
  exact ⟨first, made, rest⟩

theorem mem_names_of_define {name : ClassName} {build : Compile ClassDef} (growing : Growing build)
    {registry after : Registry} {definition : ClassDef} (consistent : registry.Consistent)
    (ran : (Registry.define name build).outcome registry = (.ok definition, after)) :
    name ∈ after.names := by
  have ends : Defines name build registry _ := define_cases growing consistent
  rw [ran] at ends
  cases ends with
  | known found =>
    exact Registry.mem_names.mpr ⟨definition, consistent.get?_eq_some_iff.mp found⟩
  | built =>
    rw [Registry.names_insert]
    exact List.mem_append_right _ (List.mem_singleton.mpr rfl)

theorem growing_inline (compiler : Compiler) (object : InlineObject) :
    Growing (compiler.inlineWith registering object) :=
  (Growing.agreement compiler).definition _ _ [] _

section

variable {compiler : Compiler} {classes : List ClassName}

theorem registered_of_type {registry after : Registry} {stem : String} {property : Property}
    {type : TypeName} {model : ObjectModel} (inline : property.object = some model)
    (consistent : registry.Consistent)
    (ran : (typeWith registering compiler stem property).outcome registry = (.ok type, after)) :
    ∃ className ∈ after.names, type = .named className := by
  obtain ⟨name, token, object, _, _, _⟩ := property
  obtain rfl : object = some model := inline
  cases token with
  | none =>
    rw [typeWith] at ran
    obtain ⟨_, reached, defined, answered⟩ := outcome_bind_ok ran
    obtain ⟨definition, middle, built, last⟩ := outcome_bind_ok defined
    cases last
    cases answered
    have growing := compiler.growing_inline ⟨[], compiler.inlineClass stem name, model⟩
    exact ⟨_, mem_names_of_define growing consistent built, rfl⟩
  | some token =>
    rw [typeWith] at ran
    cases ran

theorem fields_within {registry after : Registry} {stem : String} {properties : List Property}
    {fields : List FieldDef} (consistent : registry.Consistent)
    (ran : (fieldsWith registering compiler stem properties).outcome registry = (.ok fields, after))
    (stored : after.names ⊆ classes) : List.Forall₂ (FieldWithin classes) properties fields := by
  induction properties generalizing registry fields with
  | nil =>
    rw [fieldsWith] at ran
    cases ran
    exact .nil
  | cons property properties ih =>
    rw [fieldsWith] at ran
    obtain ⟨type, middle, typed, rest⟩ := outcome_bind_ok ran
    obtain ⟨field, made, rest⟩ := outcome_step_ok rest
    obtain ⟨others, _, later, last⟩ := outcome_bind_ok rest
    cases last
    have first := ((Growing.agreement compiler).type stem [] property).grows consistent typed
    have second :=
      ((Growing.agreement compiler).fields stem [] properties).grows first.consistent later
    refine .cons ⟨(field_ok made).2, fun inline => ?_⟩ (ih first.consistent later)
    obtain ⟨className, member, rfl⟩ := registered_of_type inline consistent typed
    exact ⟨className, stored (second.names_subset member), (field_ok made).1⟩

mutual

theorem body_within {registry after : Registry} {self : TypeName} {stem : String}
    {body : ClassBody} : (model : ObjectModel) →
    registry.Consistent →
      (bodyWith registering compiler self stem model).outcome registry = (.ok body, after) →
        after.names ⊆ classes → Within classes model body.nested body.fields
  | ⟨_, _, _, nested, properties, _⟩, consistent, ran, stored => by
    rw [bodyWith] at ran
    obtain ⟨superclass, -, rest⟩ := outcome_step_ok ran
    obtain ⟨interfaces, -, rest⟩ := outcome_step_ok rest
    obtain ⟨definitions, middle, inside, rest⟩ := outcome_bind_ok rest
    obtain ⟨fields, _, own, rest⟩ := outcome_bind_ok rest
    obtain ⟨setters, -, rest⟩ := outcome_step_ok rest
    obtain ⟨methods, -, last⟩ := outcome_step_ok rest
    cases last
    have first := ((Growing.agreement compiler).nested self stem [] 0 nested).grows consistent inside
    have second :=
      ((Growing.agreement compiler).fields stem [] properties).grows first.consistent own
    exact ⟨nested_within nested consistent inside (List.Subset.trans second.names_subset stored),
      fields_within first.consistent own stored⟩

theorem nested_within {registry after : Registry} {self : TypeName} {stem : String} {index : Nat}
    {definitions : List ClassDef} : (models : List ObjectModel) → registry.Consistent →
      (nestedWith registering compiler self stem index models).outcome registry =
        (.ok definitions, after) →
        after.names ⊆ classes → NestedWithin classes models definitions
  | [], _, ran, _ => by
    rw [nestedWith] at ran
    cases ran
    rfl
  | model :: models, consistent, ran, stored => by
    rw [nestedWith] at ran
    obtain ⟨enclosing, -, rest⟩ := outcome_step_ok ran
    cases named : model.name with
    | none =>
      simp only [named] at rest
      cases rest
    | some name =>
      simp only [named] at rest
      obtain ⟨body, middle, inside, rest⟩ := outcome_bind_ok rest
      obtain ⟨more, _, later, last⟩ := outcome_bind_ok rest
      cases last
      have first := ((Growing.agreement compiler).body _ _ [] model).grows consistent inside
      have second :=
        ((Growing.agreement compiler).nested self stem [] _ models).grows first.consistent later
      exact ⟨_, more, rfl, named,
        body_within model consistent inside (List.Subset.trans second.names_subset stored),
        nested_within models first.consistent later stored⟩

end

end

def RefersWithin (classes : List ClassName) (head : ClassDef) (model : ObjectModel)
    (definition : ClassDef) : Prop :=
  ∃ body, definition = head.extend body ∧ Within classes model body.nested body.fields

theorem refersWithin_of_outcome {compiler : Compiler} {name stem : String} {model : ObjectModel}
    {customize : ClassDef → ClassDef} {registry after : Registry} {definition : ClassDef}
    (consistent : registry.Consistent)
    (ran : (compiler.buildClass name model stem customize).outcome registry =
      (.ok definition, after)) :
    RefersWithin after.names (customize (publicClass name)) model definition := by
  rw [buildClass_eq] at ran
  obtain ⟨body, _, compiled, last⟩ := outcome_bind_ok ran
  cases last
  exact ⟨body, rfl, body_within model consistent compiled (List.Subset.refl _)⟩

end Compiler

/-- What a registered class is compiled from. -/
structure Source where
  className : ClassName
  model : ObjectModel
  stem : String
  customize : ClassDef → ClassDef

namespace Source

def head (source : Source) : ClassDef :=
  source.customize (Compiler.publicClass source.className.simpleName)

def build (compiler : Compiler) (source : Source) : Compile ClassDef :=
  compiler.buildClass source.className.simpleName source.model source.stem source.customize

def ofInline (compiler : Compiler) (object : InlineObject) : Source :=
  ⟨object.className, object.model, compiler.inlineStem object.className, id⟩

/-- The entry holds what the source compiles to, with just the earlier entries registered then. -/
def Gives (compiler : Compiler) (source : Source) (earlier : List (ClassName × ClassDef))
    (entry : ClassName × ClassDef) : Prop :=
  entry.1 = source.className ∧ ∃ before after : Registry, before.Consistent ∧
    (source.build compiler).outcome before = (.ok entry.2, after) ∧ after.entries = earlier

theorem Gives.refersWithin {compiler : Compiler} {source : Source}
    {earlier : List (ClassName × ClassDef)} {entry : ClassName × ClassDef}
    (gives : source.Gives compiler earlier entry) :
    Compiler.RefersWithin (earlier.map (·.1)) source.head source.model entry.2 := by
  obtain ⟨-, before, after, consistent, ran, rfl⟩ := gives
  exact Compiler.refersWithin_of_outcome consistent ran

theorem build_ofInline (compiler : Compiler) (object : InlineObject) :
    (ofInline compiler object).build compiler =
      compiler.inlineWith Compiler.registering object :=
  compiler.buildClass_eq ..

end Source

/-- Every entry that the second registry has behind those of the first was compiled from one of the
sources, with the entries before it. -/
def Adds (compiler : Compiler) (sources : List Source) (before after : Registry) : Prop :=
  ∀ position entry, before.size ≤ position → after.entries[position]? = some entry →
    ∃ source ∈ sources, source.Gives compiler (after.entries.take position) entry

namespace Adds

variable {compiler : Compiler} {sources more : List Source} {before middle after : Registry}

theorem refl (compiler : Compiler) (sources : List Source) (registry : Registry) :
    Adds compiler sources registry registry := by
  intro position entry outside stored
  rw [List.getElem?_eq_none outside] at stored
  cases stored

theorem trans (first : Adds compiler sources before middle) (second : Adds compiler more middle after)
    (kept : middle.entries <+: after.entries) : Adds compiler (sources ++ more) before after := by
  intro position entry outside stored
  by_cases earlier : position < middle.size
  · obtain ⟨added, appended⟩ := kept
    rw [← appended, List.getElem?_append_left earlier] at stored
    rw [← appended, List.take_append_of_le_length (Nat.le_of_lt earlier)]
    obtain ⟨source, member, gives⟩ := first position entry outside stored
    exact ⟨source, List.mem_append_left _ member, gives⟩
  · obtain ⟨source, member, gives⟩ := second position entry (Nat.le_of_not_lt earlier) stored
    exact ⟨source, List.mem_append_right _ member, gives⟩

theorem insert {source : Source} {definition : ClassDef} {registry : Registry}
    (gives : source.Gives compiler registry.entries (source.className, definition)) :
    Adds compiler [source] registry (registry.insert source.className definition) := by
  intro position entry outside stored
  change (registry.entries ++ [(source.className, definition)])[position]? = some entry at stored
  show ∃ other ∈ [source], other.Gives compiler
    ((registry.entries ++ [(source.className, definition)]).take position) entry
  have last : position = registry.entries.length := by
    have bound := (List.getElem?_eq_some_iff.mp stored).1
    rw [List.length_append, List.length_singleton] at bound
    exact Nat.le_antisymm (Nat.le_of_lt_succ bound) outside
  rw [last, List.getElem?_concat_length] at stored
  obtain rfl := Option.some.inj stored
  rw [last, List.take_left' rfl]
  exact ⟨source, List.mem_singleton.mpr rfl, gives⟩

end Adds

structure Compiles {α : Type} (compiler : Compiler) (sources : List Source) (action : Compile α) :
    Prop where
  growing : Growing action
  adds {registry after : Registry} {result : Except CompileError α} : registry.Consistent →
    action.outcome registry = (result, after) → Adds compiler sources registry after

namespace Compiles

variable {α β : Type} {compiler : Compiler} {sources more : List Source}

theorem lift (result : Except CompileError α) :
    Compiles compiler [] (liftM result : Compile α) := by
  refine ⟨.lift result, ?_⟩
  intro registry after _ _ ran
  cases ran
  exact .refl compiler [] registry

theorem bind {action : Compile α} {next : α → Compile β} (first : Compiles compiler sources action)
    (rest : ∀ value, Compiles compiler more (next value)) :
    Compiles compiler (sources ++ more) (action >>= next) := by
  refine ⟨first.growing.bind fun value => (rest value).growing, ?_⟩
  intro registry after result consistent ran
  rw [outcome_bind] at ran
  split at ran
  next value middle began =>
    have grows := first.growing.grows consistent began
    have continues := (rest value).growing.grows grows.consistent ran
    exact (first.adds consistent began).trans ((rest value).adds grows.consistent ran)
      continues.entries
  next error middle began =>
    cases ran
    exact (first.adds consistent began).trans (.refl compiler more _) (List.prefix_refl _)

theorem answer {action : Compile α} (first : Compiles compiler sources action) (answer : α → β) :
    Compiles compiler sources (action >>= fun value => pure (answer value)) := by
  rw [← List.append_nil sources]
  exact first.bind fun value => lift (.ok (answer value))

theorem check {action : Compile β} (first : Compiles compiler sources action)
    (check : Except CompileError α) :
    Compiles compiler sources (liftM check >>= fun _ => action) :=
  (lift check).bind fun _ => first

theorem define {source : Source} (build : Compiles compiler sources (source.build compiler)) :
    Compiles compiler (sources ++ [source])
      (Registry.define source.className (source.build compiler)) := by
  refine ⟨build.growing.define, ?_⟩
  intro registry after result consistent ran
  have ends : Defines source.className (source.build compiler) registry _ :=
    define_cases build.growing consistent
  rw [ran] at ends
  cases ends with
  | known => exact .refl compiler _ registry
  | cyclic => exact .refl compiler _ registry
  | failed => exact .refl compiler _ registry
  | @built definition reached absent idle built =>
    have started := consistent.starting absent
    -- marking the name as under way, and unmarking it, leaves the entries alone
    have inside : Adds compiler sources (registry.starting source.className) reached :=
      build.adds started built
    have settled : Adds compiler sources registry (reached.settle source.className) := inside
    exact settled.trans (.insert ⟨rfl, _, reached, started, built, rfl⟩) (List.prefix_append _ _)

theorem undoing {action : Compile α} (first : Compiles compiler sources action) :
    Compiles compiler sources (Registry.undoing action) := by
  refine ⟨first.growing.undoing, ?_⟩
  intro registry after result consistent ran
  rw [outcome_undoing first.growing consistent] at ran
  split at ran
  next value reached began =>
    cases ran
    exact first.adds consistent began
  next =>
    cases ran
    exact .refl compiler sources registry

theorem agreement (compiler : Compiler) : Compiler.Agreement compiler Compiler.registering
    Compiler.registering fun met left _ =>
      Compiles compiler (met.map (Source.ofInline compiler)) left where
  pure value := lift (.ok value)
  step _ := lift _
  bind first rest := by
    rw [List.map_append]
    exact first.bind rest
  inline object build := by
    rw [List.map_append]
    rw [← Source.build_ofInline] at build ⊢
    exact build.define.answer _

end Compiles

def Call.sources (compiler : Compiler) : Call → List Source
  | .generate _ model stem _ =>
    (compiler.inlineObjects stem [] model).map (Source.ofInline compiler)
  | .register name model stem customize =>
    (compiler.inlineObjects stem [] model).map (Source.ofInline compiler) ++
      [⟨compiler.scope.generatedClass name, model, stem, customize⟩]

theorem Call.exists_of_mem_sources {compiler : Compiler} {call : Call} {source : Source}
    (member : source ∈ call.sources compiler) :
    (∃ object, compiler.Inlined call.stem [] call.model object ∧
      source = .ofInline compiler object) ∨
    ∃ name model stem customize, call = .register name model stem customize ∧
      source = ⟨compiler.scope.generatedClass name, model, stem, customize⟩ := by
  cases call with
  | generate name model stem customize =>
    obtain ⟨object, inside, rfl⟩ := List.mem_map.mp member
    exact .inl ⟨object, Compiler.inlined_of_mem model inside, rfl⟩
  | register name model stem customize =>
    rcases List.mem_append.mp member with listed | last
    · obtain ⟨object, inside, rfl⟩ := List.mem_map.mp listed
      exact .inl ⟨object, Compiler.inlined_of_mem model inside, rfl⟩
    · exact .inr ⟨name, model, stem, customize, rfl, List.mem_singleton.mp last⟩

namespace Compiler

theorem compiles_build (compiler : Compiler) (source : Source) :
    Compiles compiler
      ((compiler.inlineObjects source.stem [] source.model).map (Source.ofInline compiler))
      (source.build compiler) := by
  rw [Source.build, buildClass_eq]
  exact (Compiles.agreement compiler).definition _ source.stem [] source.model

theorem compiles_run (compiler : Compiler) (call : Call) :
    Compiles compiler (call.sources compiler) (call.run compiler) := by
  cases call with
  | generate name model stem customize =>
    have builds :=
      compiler.compiles_build ⟨compiler.scope.generatedClass name, model, stem, customize⟩
    exact (builds.undoing.check _).answer _
  | register name model stem customize =>
    have builds :=
      compiler.compiles_build ⟨compiler.scope.generatedClass name, model, stem, customize⟩
    exact ((builds.define.answer _).check _).answer _

theorem adds_runAll (compiler : Compiler) (calls : List Call) {registry : Registry}
    (consistent : registry.Consistent) :
    Adds compiler (calls.flatMap (Call.sources compiler)) registry
      (compiler.runAll registry calls) := by
  induction calls generalizing registry with
  | nil => exact .refl compiler [] registry
  | cons call calls ih =>
    have compiles := compiler.compiles_run call
    have grows := compiles.growing registry consistent
    exact (compiles.adds consistent rfl).trans (ih grows.consistent)
      (compiler.grows_runAll calls grows.consistent).entries

/-- Whatever calls were made, each entry was compiled from an object of one of them, and the fields
of all inline objects in it refer to classes with smaller positions. The same fields of a definition
that is handed back refer to classes that are registered then. -/
theorem references_lead_back (compiler : Compiler) (calls : List Call) :
    (∀ position entry, (compiler.runAll .empty calls).entries[position]? = some entry →
      (∃ call ∈ calls, ∃ source ∈ call.sources compiler,
        source.Gives compiler ((compiler.runAll .empty calls).entries.take position) entry) ∧
      ∀ source : Source,
        source.Gives compiler ((compiler.runAll .empty calls).entries.take position) entry →
          RefersWithin ((compiler.runAll .empty calls).names.take position) source.head
            source.model entry.2) ∧
    ∀ name model stem customize definition after,
      (compiler.generate name model stem customize).outcome (compiler.runAll .empty calls) =
        (.ok definition, after) →
          RefersWithin after.names (customize (publicClass name)) model definition := by
  have consistent := (compiler.grows_runAll calls .empty).consistent
  refine ⟨fun position entry stored => ⟨?_, fun source gives => ?_⟩, ?_⟩
  · obtain ⟨source, member, gives⟩ :=
      compiler.adds_runAll calls .empty position entry (Nat.zero_le position) stored
    obtain ⟨call, made, asked⟩ := List.mem_flatMap.mp member
    exact ⟨call, made, source, asked, gives⟩
  · rw [Registry.names, ← List.map_take]
    exact gives.refersWithin
  · intro name model stem customize definition after done
    have built := built_of_generate consistent done
    exact refersWithin_of_outcome consistent built

/-- The first call fails with the tag registered. The last one finds all its classes. -/
def widgetCalls : List Call := [
  .generate "Widget" brokenWidget "Widget" id,
  .register "Widget" taggedWidget "Widget" id,
  .register "Spare" taggedWidget "Widget" id]

theorem spare_refers_to_tag_of_widget :
    ((forPackage "p").runAll .empty widgetCalls).names.map (·.outermost) =
        ["Size", "WidgetTag", "Widget", "Spare"] ∧
      (∃ entry, ((forPackage "p").runAll .empty widgetCalls).entries[3]? = some entry ∧
        ∃ call ∈ widgetCalls, ∃ source ∈ call.sources (forPackage "p"),
          source.className = entry.1 ∧
            RefersWithin (((forPackage "p").runAll .empty widgetCalls).names.take 3) source.head
              source.model entry.2) ∧
      ∃ definition after, ((forPackage "p").generate "Copy" taggedWidget "Widget").outcome
          ((forPackage "p").runAll .empty widgetCalls) = (.ok definition, after) ∧
        RefersWithin after.names (publicClass "Copy") taggedWidget definition := by
  have order : ((forPackage "p").runAll .empty widgetCalls).names.map (·.outermost) =
      ["Size", "WidgetTag", "Widget", "Spare"] := by
    decide +kernel
  have copies : (((forPackage "p").generate "Copy" taggedWidget "Widget").outcome
      ((forPackage "p").runAll .empty widgetCalls)).1.isOk = true := by
    decide +kernel
  obtain ⟨back, handed⟩ := references_lead_back (forPackage "p") widgetCalls
  refine ⟨order, ?_, ?_⟩
  · cases stored : ((forPackage "p").runAll .empty widgetCalls).entries[3]? with
    | none =>
      have size := congrArg List.length order
      simp only [Registry.names, List.length_map] at size
      have short := List.getElem?_eq_none_iff.mp stored
      rw [size] at short
      exact absurd short (by decide)
    | some entry =>
      obtain ⟨⟨call, made, source, member, gives⟩, refers⟩ := back 3 entry stored
      exact ⟨entry, rfl, call, made, source, member, gives.1.symm, refers source gives⟩
  · obtain ⟨definition, done⟩ := exists_ok_of_isOk copies
    exact ⟨definition, _, done, handed _ _ _ _ _ _ done⟩

end Compiler

end ClassCompiler
