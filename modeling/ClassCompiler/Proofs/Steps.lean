import ClassCompiler.Compiler.ClassBody

/-! Single steps of a compilation. They have no registry, so none of them finds out that a class is
inside itself; nearly all of them fail only for what a text in the model says. -/

namespace ClassCompiler

theorem exists_of_bind_eq_ok {ε α β : Type} {first : Except ε α} {next : α → Except ε β} {value : β}
    (same : (first >>= next) = .ok value) :
    ∃ middle, first = .ok middle ∧ next middle = .ok value := by
  cases first with
  | error error => cases same
  | ok middle => exact ⟨middle, rfl, same⟩

/-- The faults of texts: of type tokens, of templates, and of tokens that stand for the type of an
annotation. -/
inductive CompileError.Textual : CompileError → Prop
  | token (token : String) (fault : TypeFault) : Textual (.invalidTypeName token fault)
  | template (error : TemplateError) : Textual (.template error)
  | annotationType (type : TypeName) : Textual (.unsupportedShape type .annotationType)

def Textual {α : Type} (result : Except CompileError α) : Prop :=
  ∀ error, result = .error error → error.Textual

def Acyclic {α : Type} (result : Except CompileError α) : Prop :=
  ∀ name, result ≠ .error (.cyclic name)

namespace Textual

variable {α β ε : Type}

theorem acyclic {result : Except CompileError α} (textual : Textual result) : Acyclic result :=
  fun _ failed => nomatch textual _ failed

theorem ok (value : α) : Textual (.ok value) := fun _ same => nomatch same

theorem error {fault : CompileError} (textual : fault.Textual) : Textual (.error fault : Except _ α) :=
  fun _ same => Except.error.inj same ▸ textual

theorem bind {result : Except CompileError α} {next : α → Except CompileError β}
    (first : Textual result) (rest : ∀ value, Textual (next value)) : Textual (result >>= next) := by
  cases result with
  | error fault => exact error (first fault rfl)
  | ok value => exact rest value

theorem map {result : Except CompileError α} (textual : Textual result) (answer : α → β) :
    Textual (answer <$> result) := by
  rw [map_eq_pure_bind]
  exact textual.bind fun value => ok (answer value)

theorem mapError (result : Except ε α) {wrap : ε → CompileError}
    (textual : ∀ fault, (wrap fault).Textual) : Textual (result.mapError wrap) := by
  cases result with
  | error fault => exact error (textual fault)
  | ok value => exact ok value

theorem template (result : Except TemplateError α) : Textual (result.mapError .template) :=
  mapError result .template

section

variable (compiler : Compiler)

theorem typeName (token : String) : Textual (compiler.typeName token) :=
  mapError _ (.token token)

theorem typeNames (tokens : List String) : Textual (compiler.typeNames tokens) := by
  induction tokens with
  | nil => exact ok []
  | cons token tokens ih => exact (typeName compiler token).bind fun _ => ih.bind fun _ => ok _

theorem optionalTypeName (token : Option String) : Textual (compiler.optionalTypeName token) := by
  cases token with
  | none => exact ok none
  | some token => exact (typeName compiler token).map some

theorem argument (model : ModelArgument) : Textual (compiler.argument model) := by
  cases model with
  | literal text => exact ok _
  | type token => exact (typeName compiler token).map Argument.type

theorem arguments (models : List ModelArgument) : Textual (compiler.arguments models) := by
  induction models with
  | nil => exact ok []
  | cons model models ih => exact (argument compiler model).bind fun _ => ih.bind fun _ => ok _

theorem addMembers (definition : AnnotationDef) (members : List AnnotationMember) :
    Textual (compiler.addMembers definition members) := by
  induction members generalizing definition with
  | nil => exact ok definition
  | cons member members ih =>
    exact (arguments compiler _).bind fun _ => (template _).bind fun definition => ih definition

theorem annotate (model : AnnotationModel) : Textual (compiler.annotate model) := by
  refine (typeName compiler model.type).bind fun type => ?_
  split
  · exact addMembers compiler _ _
  · exact error (.annotationType type)

theorem annotateAll (models : List AnnotationModel) : Textual (compiler.annotateAll models) := by
  induction models with
  | nil => exact ok []
  | cons model models ih => exact (annotate compiler model).bind fun _ => ih.bind fun _ => ok _

theorem serializedNameDefs (property : Property) : Textual (compiler.serializedNameDefs property) := by
  unfold Compiler.serializedNameDefs
  split
  · exact ok []
  · exact (template _).bind fun _ => ok _

theorem field (property : Property) (type : TypeName) : Textual (compiler.field property type) :=
  (serializedNameDefs compiler property).bind fun _ =>
    (annotateAll compiler property.annotations).bind fun _ => ok _

theorem setter (self : TypeName) (property : Property) (type : TypeName) :
    Textual (compiler.setter self property type) :=
  (template _).bind fun _ => template _

theorem setters (self : TypeName) (properties : List Property) (fields : List FieldDef) :
    Textual (compiler.setters self properties fields) := by
  induction properties generalizing fields with
  | nil => exact ok []
  | cons property properties ih =>
    cases fields with
    | nil => exact ok []
    | cons field fields =>
      exact (setter compiler self property field.type).bind fun _ => (ih fields).bind fun _ => ok _

theorem parameters (models : List ParameterModel) : Textual (compiler.parameters models) := by
  induction models with
  | nil => exact ok []
  | cons model models ih => exact (typeName compiler model.type).bind fun _ => ih.bind fun _ => ok _

theorem method (model : MethodModel) : Textual (compiler.method model) :=
  (typeName compiler model.returnType).bind fun _ =>
    (parameters compiler model.parameters).bind fun _ =>
      (arguments compiler model.bodyArguments).bind fun _ => (template _).bind fun _ => ok _

theorem methods (models : List MethodModel) : Textual (compiler.methods models) := by
  induction models with
  | nil => exact ok []
  | cons model models ih => exact (method compiler model).bind fun _ => ih.bind fun _ => ok _

end

end Textual

namespace Acyclic

variable {α : Type}

theorem ok (value : α) : Acyclic (.ok value) := fun _ same => nomatch same

theorem model (violation : Violation) : Acyclic (.error (.model violation) : Except _ α) :=
  fun _ same => nomatch same

theorem enclosingClass (self : TypeName) : Acyclic (Compiler.enclosingClass self) := by
  unfold Compiler.enclosingClass
  split <;> exact fun _ same => nomatch same

end Acyclic

end ClassCompiler
