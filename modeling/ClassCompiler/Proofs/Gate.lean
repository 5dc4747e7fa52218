import ClassCompiler.Proofs.Calls
import ClassCompiler.Proofs.Violations

/-! The check of a model is a gate in front of its compilation. A model that does not pass it changes
nothing. One that does is compiled as if there were no check, and what the check looks at is not what
its compilation fails for. -/

namespace ClassCompiler
open Text Compile

/-- What the compilation of a sound model may still fail for. -/
inductive CompileError.Unchecked : CompileError → Prop
  | text {error : CompileError} (textual : error.Textual) : Unchecked error
  | cyclic (name : ClassName) : Unchecked (.cyclic name)

namespace Compile

def FailsWith {α : Type} (errors : CompileError → Prop) (action : Compile α) : Prop :=
  ∀ (registry after : Registry) (error : CompileError),
    action.outcome registry = (.error error, after) → errors error

namespace FailsWith

variable {α β : Type} {errors : CompileError → Prop}

theorem lift {result : Except CompileError α}
    (fails : ∀ error, result = .error error → errors error) :
    FailsWith errors (liftM result : Compile α) :=
  fun _ _ error failed => fails error (congrArg Prod.fst failed)

theorem bind {action : Compile α} {next : α → Compile β} (first : FailsWith errors action)
    (rest : ∀ value, FailsWith errors (next value)) : FailsWith errors (action >>= next) := by
  intro registry after error failed
  rcases outcome_bind_error failed with began | ⟨value, reached, -, ended⟩
  · exact first registry after error began
  · exact rest value reached after error ended

theorem answer {action : Compile α} (first : FailsWith errors action) (answer : α → β) :
    FailsWith errors (action >>= fun value => pure (answer value)) :=
  first.bind fun _ => lift fun _ same => nomatch (same : Except.ok _ = _)

theorem define {name : ClassName} {build : Compile ClassDef} (cyclic : errors (.cyclic name))
    (fails : FailsWith errors build) : FailsWith errors (Registry.define name build) := by
  intro registry after error failed
  unfold Registry.define at failed
  rw [outcome_ofOutcome] at failed
  split at failed
  next => cases failed
  next =>
    by_cases waiting : name ∈ registry.pending
    · simp only [Registry.start_eq_error waiting] at failed
      cases failed
      exact cyclic
    · simp only [Registry.start_eq_ok waiting] at failed
      cases ran : build.outcome (registry.starting name) with
      | mk result reached =>
        rw [ran] at failed
        cases result with
        | ok definition => cases failed
        | error error =>
          cases failed
          exact fails _ _ _ ran

theorem undoing {action : Compile α} (fails : FailsWith errors action) :
    FailsWith errors (Registry.undoing action) := by
  intro registry after error failed
  unfold Registry.undoing at failed
  rw [outcome_ofOutcome] at failed
  split at failed
  next => cases failed
  next undone =>
    cases failed
    exact fails _ _ _ undone

end FailsWith

end Compile

namespace Compiler

section

variable {compiler : Compiler}

/-- A step of the compiler fails as it would without a registry. -/
theorem failsWith_step {α : Type} {result : Except CompileError α} (textual : Textual result) :
    FailsWith CompileError.Unchecked (registering.step result) :=
  .lift fun error failed => .text (textual error failed)

theorem exists_enclosingClass {self : TypeName} (around : self.enclosingClass?.isSome = true) :
    ∃ enclosing, enclosingClass self = .ok enclosing := by
  obtain ⟨enclosing, found⟩ := Option.isSome_iff_exists.mp around
  exact ⟨enclosing, by simp only [enclosingClass, found]⟩

theorem enclosingClass?_selfType (unpinned : compiler.pinnedSelf = none) (head : ClassDef) :
    (compiler.selfType head).enclosingClass? = some (compiler.scope.generatedClass head.name) := by
  unfold selfType Scope.selfType
  rw [unpinned]
  split <;> rfl

theorem isSome_enclosingClass?_selfType (unpinned : compiler.pinnedSelf = none)
    (head : ClassDef) : (compiler.selfType head).enclosingClass?.isSome = true := by
  rw [enclosingClass?_selfType unpinned, Option.isSome_some]

mutual

theorem failsWith_body (unpinned : compiler.pinnedSelf = none) {self : TypeName} (stem : String)
    (around : self.enclosingClass?.isSome = true) : (model : ObjectModel) → model.WellFormed →
      FailsWith CompileError.Unchecked (bodyWith registering compiler self stem model)
  | ⟨_, superName, interfaceNames, nested, properties, methods⟩, valid => by
    obtain ⟨own, inner, inline⟩ := ObjectModel.wellFormed_iff.mp valid
    rw [bodyWith]
    refine (failsWith_step (.optionalTypeName compiler superName)).bind fun _ => ?_
    refine (failsWith_step (.typeNames compiler interfaceNames)).bind fun _ => ?_
    refine (failsWith_nested unpinned stem 0 around nested own.named inner).bind fun _ => ?_
    refine (failsWith_fields unpinned stem properties own.properties.2 inline).bind fun _ => ?_
    refine (failsWith_step (.setters compiler self properties _)).bind fun _ => ?_
    exact (failsWith_step (.methods compiler methods)).answer _

theorem failsWith_nested (unpinned : compiler.pinnedSelf = none) {self : TypeName} (stem : String)
    (index : Nat) (around : self.enclosingClass?.isSome = true) : (models : List ObjectModel) →
      (∀ inner ∈ models, ∃ name, inner.name = some name) → (∀ inner ∈ models, inner.WellFormed) →
      FailsWith CompileError.Unchecked (nestedWith registering compiler self stem index models)
  | [], _, _ => by
    rw [nestedWith]
    exact failsWith_step (.ok [])
  | model :: models, named, valid => by
    obtain ⟨enclosing, found⟩ := exists_enclosingClass around
    obtain ⟨⟨name, called⟩, others⟩ := List.forall_mem_cons.mp named
    obtain ⟨first, later⟩ := List.forall_mem_cons.mp valid
    rw [nestedWith, found, called]
    refine (failsWith_step (.ok enclosing)).bind fun enclosing => ?_
    refine (failsWith_body unpinned _ rfl model first).bind fun _ => ?_
    exact (failsWith_nested unpinned stem (index + 1) around models others later).answer _

theorem failsWith_fields (unpinned : compiler.pinnedSelf = none) (stem : String) :
    (properties : List Property) → (∀ property ∈ properties, property.Sound) →
      (∀ property ∈ properties, ∀ inner ∈ property.object, inner.WellFormed) →
      FailsWith CompileError.Unchecked (fieldsWith registering compiler stem properties)
  | [], _, _ => by
    rw [fieldsWith]
    exact failsWith_step (.ok [])
  | property :: properties, sound, valid => by
    obtain ⟨own, others⟩ := List.forall_mem_cons.mp sound
    obtain ⟨first, later⟩ := List.forall_mem_cons.mp valid
    rw [fieldsWith]
    refine (failsWith_type unpinned stem property own first).bind fun type => ?_
    refine (failsWith_step (.field compiler property type)).bind fun _ => ?_
    exact (failsWith_fields unpinned stem properties others later).answer _

theorem failsWith_type (unpinned : compiler.pinnedSelf = none) (stem : String) :
    (property : Property) → property.Sound → (∀ inner ∈ property.object, inner.WellFormed) →
      FailsWith CompileError.Unchecked (typeWith registering compiler stem property)
  | ⟨_, some token, none, _, _, _⟩, _, _ => by
    rw [typeWith]
    exact failsWith_step (.typeName compiler token)
  | ⟨name, none, some model, _, _, _⟩, _, valid => by
    have around := isSome_enclosingClass?_selfType unpinned
      (publicClass (compiler.inlineClass stem name).simpleName)
    have body := failsWith_body unpinned (compiler.inlineStem (compiler.inlineClass stem name))
      around model (valid model rfl)
    rw [typeWith]
    exact ((FailsWith.define (.cyclic _) (body.answer _)).answer _).answer _
  | ⟨_, none, none, _, _, _⟩, sound, _ => absurd (sound.choice.mp rfl) Bool.false_ne_true
  | ⟨_, some _, some _, _, _, _⟩, sound, _ => absurd (sound.choice.mpr rfl) Bool.false_ne_true

end

theorem failsWith_build (unpinned : compiler.pinnedSelf = none) {model : ObjectModel}
    (valid : model.WellFormed) (name stem : String) (customize : ClassDef → ClassDef) :
    FailsWith CompileError.Unchecked (compiler.buildClass name model stem customize) := by
  rw [buildClass_eq]
  have around := isSome_enclosingClass?_selfType unpinned (customize (publicClass name))
  exact (failsWith_body unpinned stem around model valid).answer _

end

def unchecked (compiler : Compiler) : Compiler :=
  { compiler with options := { compiler.options with validates := false } }

section

variable (compiler : Compiler)

theorem typeNames_unchecked (tokens : List String) :
    compiler.unchecked.typeNames tokens = compiler.typeNames tokens := by
  induction tokens with
  | nil => rfl
  | cons token tokens ih =>
    rw [typeNames, typeNames, ih]
    rfl

theorem optionalTypeName_unchecked (token : Option String) :
    compiler.unchecked.optionalTypeName token = compiler.optionalTypeName token := by
  cases token <;> rfl

theorem argument_unchecked (model : ModelArgument) :
    compiler.unchecked.argument model = compiler.argument model := by
  cases model <;> rfl

theorem arguments_unchecked (models : List ModelArgument) :
    compiler.unchecked.arguments models = compiler.arguments models := by
  induction models with
  | nil => rfl
  | cons model models ih => rw [arguments, arguments, ih, argument_unchecked]

theorem addMembers_unchecked (definition : AnnotationDef) (members : List AnnotationMember) :
    compiler.unchecked.addMembers definition members = compiler.addMembers definition members := by
  induction members generalizing definition with
  | nil => rfl
  | cons member members ih =>
    simp only [addMembers, arguments_unchecked, ih]

theorem annotate_unchecked (model : AnnotationModel) :
    compiler.unchecked.annotate model = compiler.annotate model := by
  simp only [annotate, addMembers_unchecked]
  rfl

theorem annotateAll_unchecked (models : List AnnotationModel) :
    compiler.unchecked.annotateAll models = compiler.annotateAll models := by
  induction models with
  | nil => rfl
  | cons model models ih => rw [annotateAll, annotateAll, ih, annotate_unchecked]

theorem field_unchecked (property : Property) (type : TypeName) :
    compiler.unchecked.field property type = compiler.field property type := by
  rw [field, field, annotateAll_unchecked]
  rfl

theorem setters_unchecked (self : TypeName) (properties : List Property) (fields : List FieldDef) :
    compiler.unchecked.setters self properties fields = compiler.setters self properties fields := by
  induction properties generalizing fields with
  | nil => rfl
  | cons property properties ih =>
    cases fields with
    | nil => rfl
    | cons field fields =>
      rw [setters, setters, ih]
      rfl

theorem parameters_unchecked (models : List ParameterModel) :
    compiler.unchecked.parameters models = compiler.parameters models := by
  induction models with
  | nil => rfl
  | cons model models ih =>
    rw [parameters, parameters, ih]
    rfl

theorem method_unchecked (model : MethodModel) :
    compiler.unchecked.method model = compiler.method model := by
  rw [method, method, parameters_unchecked, arguments_unchecked]
  rfl

theorem methods_unchecked (models : List MethodModel) :
    compiler.unchecked.methods models = compiler.methods models := by
  induction models with
  | nil => rfl
  | cons model models ih => rw [methods, methods, ih, method_unchecked]

mutual

theorem classBody_unchecked (self : TypeName) (stem : String) : (model : ObjectModel) →
    classBody compiler.unchecked self stem model = classBody compiler self stem model
  | ⟨_, _, _, nested, properties, _⟩ => by
    simp only [classBody, optionalTypeName_unchecked, typeNames_unchecked, setters_unchecked,
      methods_unchecked, nestedClasses_unchecked self stem 0 nested,
      fieldsOf_unchecked stem properties]

theorem nestedClasses_unchecked (self : TypeName) (stem : String) (index : Nat) :
    (models : List ObjectModel) → nestedClasses compiler.unchecked self stem index models =
      nestedClasses compiler self stem index models
  | [] => by rw [nestedClasses, nestedClasses]
  | model :: models => by
    simp only [nestedClasses, nestedClasses_unchecked self stem (index + 1) models,
      classBody_unchecked _ _ model]
    rfl

theorem fieldsOf_unchecked (stem : String) : (properties : List Property) →
    fieldsOf compiler.unchecked stem properties = fieldsOf compiler stem properties
  | [] => by rw [fieldsOf, fieldsOf]
  | property :: properties => by
    simp only [fieldsOf, field_unchecked, propertyType_unchecked stem property,
      fieldsOf_unchecked stem properties]

theorem propertyType_unchecked (stem : String) : (property : Property) →
    propertyType compiler.unchecked stem property = propertyType compiler stem property
  | ⟨_, some _, none, _, _, _⟩ => by
    rw [propertyType, propertyType]
    rfl
  | ⟨_, none, some model, _, _, _⟩ => by
    rw [propertyType, propertyType]
    simp only [classBody_unchecked _ _ model]
    rfl
  | ⟨_, none, none, _, _, _⟩ => by rw [propertyType, propertyType]
  | ⟨_, some _, some _, _, _, _⟩ => by rw [propertyType, propertyType]

end

theorem buildClass_unchecked (name : String) (model : ObjectModel) (stem : String)
    (customize : ClassDef → ClassDef) : compiler.unchecked.buildClass name model stem customize =
      compiler.buildClass name model stem customize := by
  rw [buildClass, buildClass, classBody_unchecked]
  rfl

end

section

variable {compiler : Compiler} {call : Call}

theorem outcome_run_of_refused {error : CompileError}
    (refused : compiler.check call.name call.model = .error error) (registry : Registry) :
    (call.run compiler).outcome registry = (.error error, registry) := by
  cases call with
  | generate name model stem customize =>
    change compiler.check name model = _ at refused
    rw [Call.run, outcome_bind, outcome_generate, refused]
  | register name model stem customize =>
    change compiler.check name model = _ at refused
    rw [Call.run, outcome_bind, outcome_register, refused]

/-- Behind the check, the two compilers do the same. -/
theorem outcome_run_of_accepted (accepted : compiler.check call.name call.model = .ok ())
    (registry : Registry) :
    (call.run compiler).outcome registry = (call.run compiler.unchecked).outcome registry := by
  cases call with
  | generate name model stem customize =>
    change compiler.check name model = _ at accepted
    have free : compiler.unchecked.check name model = .ok () := rfl
    rw [Call.run, Call.run, outcome_bind, outcome_bind, outcome_generate, outcome_generate, accepted,
      free, buildClass_unchecked]
  | register name model stem customize =>
    change compiler.check name model = _ at accepted
    have free : compiler.unchecked.check name model = .ok () := rfl
    rw [Call.run, Call.run, outcome_bind, outcome_bind, outcome_register, outcome_register, accepted,
      free, buildClass_unchecked]
    rfl

theorem failsWith_run (unpinned : compiler.pinnedSelf = none) (valid : call.model.WellFormed)
    (accepted : compiler.check call.name call.model = .ok ()) :
    FailsWith CompileError.Unchecked (call.run compiler) := by
  have passes : ∀ error, (Except.ok () : Except CompileError Unit) = .error error →
      error.Unchecked := by
    intro error same
    cases same
  cases call with
  | generate name model stem customize =>
    change compiler.check name model = _ at accepted
    have builds := failsWith_build unpinned valid name stem customize
    rw [Call.run, generate, accepted]
    exact ((FailsWith.lift passes).bind fun _ => builds.undoing).answer _
  | register name model stem customize =>
    change compiler.check name model = _ at accepted
    have builds := failsWith_build unpinned valid (compiler.scope.generatedClass name).simpleName
      stem customize
    rw [Call.run, register, accepted]
    exact ((FailsWith.lift passes).bind fun _ =>
      (FailsWith.define (.cyclic _) builds).answer _).answer _

/-- With validation, a call for a model that is refused says why and changes nothing, whatever is
registered. Any other call does what it does without validation; and if it fails, then for a type
token, a template, the type of an annotation, or a cycle. -/
theorem validation_is_a_gate (validates : compiler.options.validates = true)
    (unpinned : compiler.pinnedSelf = none) (call : Call) (registry : Registry) :
    (isIdentifier call.name = false → (call.run compiler).outcome registry =
      (.error (.model (.invalidIdentifier .object call.name)), registry)) ∧
    (isIdentifier call.name = true → ∀ violation,
      call.model.validate call.name = .error violation →
        (call.run compiler).outcome registry = (.error (.model violation), registry)) ∧
    (isIdentifier call.name = true → call.model.validate call.name = .ok () →
      (call.run compiler).outcome registry = (call.run compiler.unchecked).outcome registry ∧
        ∀ error after, (call.run compiler).outcome registry = (.error error, after) →
          error.Unchecked) := by
  refine ⟨fun other => ?_, fun identifier violation violated => ?_, fun identifier valid => ?_⟩
  · apply outcome_run_of_refused
    rw [check, if_pos validates, other]
    rfl
  · apply outcome_run_of_refused
    rw [check, if_pos validates, if_pos identifier, violated]
    rfl
  · have accepted : compiler.check call.name call.model = .ok () := by
      rw [check, if_pos validates, if_pos identifier, valid]
      rfl
    refine ⟨outcome_run_of_accepted accepted registry, fun error after failed => ?_⟩
    exact failsWith_run unpinned (ObjectModel.validate_eq_ok_iff.mp valid) accepted _ _ _ failed

end

def registersUntyped : Call := .register "Kept" { properties := [{ name := "tag" }] } "Kept" id

def generatesBroken : Call := .generate "Widget" brokenWidget "Widget" id

theorem models_of_kept_are_checked :
    (registersUntyped.run (forPackage "p")).outcome kept =
        (.error (.model (.missingVariant "tag")), kept) ∧
      (generatesBroken.run (forPackage "p")).outcome kept =
        (generatesBroken.run (forPackage "p").unchecked).outcome kept ∧
      ∃ after, (generatesBroken.run (forPackage "p")).outcome kept =
          (.error (.invalidTypeName "List<" .expectedType), after) ∧
        CompileError.Unchecked (.invalidTypeName "List<" .expectedType) := by
  have violated : registersUntyped.model.validate "Kept" = .error (.missingVariant "tag") := by
    decide +kernel
  have valid : generatesBroken.model.validate "Widget" = .ok () := by
    decide +kernel
  have fails : ((generatesBroken.run (forPackage "p")).outcome kept).1 =
      .error (.invalidTypeName "List<" .expectedType) := by
    decide +kernel
  obtain ⟨-, refused, -⟩ :=
    @validation_is_a_gate (forPackage "p") rfl rfl registersUntyped kept
  obtain ⟨-, -, passed⟩ := @validation_is_a_gate (forPackage "p") rfl rfl generatesBroken kept
  obtain ⟨same, unchecked⟩ := passed (by decide +kernel) valid
  obtain ⟨after, failed⟩ := exists_after fails
  exact ⟨refused (by decide +kernel) _ violated, same, after, failed, unchecked _ _ failed⟩

end Compiler

end ClassCompiler
