import ClassCompiler.Proofs.References
import ClassCompiler.Proofs.Rendering

/-! The shape of generated classes: which members a class has for a model, and in which order. -/

namespace ClassCompiler
open Text Compile

theorem exists_mem_of_forall₂ {α β : Type} {R : α → β → Prop} {as : List α} {bs : List β}
    (related : List.Forall₂ R as bs) :
    (∀ a ∈ as, ∃ b ∈ bs, R a b) ∧ ∀ b ∈ bs, ∃ a ∈ as, R a b := by
  induction related with
  | nil => exact ⟨fun _ member => absurd member List.not_mem_nil,
      fun _ member => absurd member List.not_mem_nil⟩
  | cons here rest ih =>
    constructor
    · refine List.forall_mem_cons.mpr ⟨⟨_, List.mem_cons_self, here⟩, fun a member => ?_⟩
      obtain ⟨b, found, holds⟩ := ih.1 a member
      exact ⟨b, List.mem_cons_of_mem _ found, holds⟩
    · refine List.forall_mem_cons.mpr ⟨⟨_, List.mem_cons_self, here⟩, fun b member => ?_⟩
      obtain ⟨a, found, holds⟩ := ih.2 b member
      exact ⟨a, List.mem_cons_of_mem _ found, holds⟩

structure ValueShape (compiler : Compiler) (member : AnnotationMember) (value : String × Code) :
    Prop where
  name : value.1 = member.name
  code : ∃ arguments, compiler.arguments member.value.arguments = .ok arguments ∧
    Code.ofTemplate member.value.format arguments = .ok value.2

/-- The annotation has a class for its type, and the values of its members are added in order. -/
structure AnnotationShape (compiler : Compiler) (model : AnnotationModel)
    (definition : AnnotationDef) : Prop where
  type : compiler.typeName model.type = .ok (.named definition.type)
  members : ∃ values, List.Forall₂ (ValueShape compiler) model.members values ∧
    definition.members = values.foldl (fun members value =>
      AnnotationDef.addValue value.1 value.2 members) []

inductive TypeShape (compiler : Compiler) (stem : String) (property : Property) : TypeName → Prop
  | named {token : String} {type : TypeName} (choice : property.choice = .ok (.named token))
      (read : compiler.typeName token = .ok type) : TypeShape compiler stem property type
  | inline {model : ObjectModel} (choice : property.choice = .ok (.inline model)) :
      TypeShape compiler stem property (.named (compiler.inlineClass stem property.name))

def wireNameDefs (compiler : Compiler) (property : Property) : List AnnotationDef :=
  if property.wireName = property.name then []
  else
    [{ type := compiler.options.serializedNameType
       members := [("value", [{ tokens := [.text (Code.quote property.wireName)] }])] }]

structure FieldShape (compiler : Compiler) (stem : String) (property : Property)
    (field : FieldDef) : Prop where
  name : field.name = property.name
  type : TypeShape compiler stem property field.type
  modifiers : field.modifiers = { isPublic := true }
  initializer : field.initializer = none
  annotations : ∃ others, field.annotations = wireNameDefs compiler property ++ others ∧
    List.Forall₂ (AnnotationShape compiler) property.annotations others

structure SetterShape (compiler : Compiler) (self : TypeName) (property : Property)
    (field : FieldDef) (method : MethodDef) : Prop where
  name : method.name = compiler.options.setterPrefix ++ capitalize property.name
  modifiers : method.modifiers = { isPublic := true }
  typeVariables : method.typeVariables = []
  returnType : method.returnType = some self
  annotations : method.annotations = []
  parameters : method.parameters = [{
    type := field.type
    name := field.name
    annotations := if property.required then [] else [{ type := compiler.options.notNullType }] }]
  body : method.body.render =
    "this." ++ property.name ++ " = " ++ property.name ++ ";\nreturn this;\n"

structure ParameterShape (compiler : Compiler) (model : ParameterModel)
    (parameter : ParameterDef) : Prop where
  name : parameter.name = model.name
  type : compiler.typeName model.type = .ok parameter.type
  modifiers : parameter.modifiers = .none
  annotations : parameter.annotations = []

structure MethodShape (compiler : Compiler) (model : MethodModel) (method : MethodDef) : Prop where
  name : method.name = model.name
  modifiers : method.modifiers = { isPublic := true }
  typeVariables : method.typeVariables = model.typeParameters.map fun name => { name }
  returnType : ∃ type, compiler.typeName model.returnType = .ok type ∧ method.returnType = some type
  annotations : method.annotations = []
  parameters : List.Forall₂ (ParameterShape compiler) model.parameters method.parameters
  body : ∃ arguments code, compiler.arguments model.bodyArguments = .ok arguments ∧
    Code.ofTemplate model.body arguments = .ok code ∧
    method.body = Code.indent ++ code ++ Code.unindent

mutual

/-- The body of a class for a model: a field for each property; a setter for each field, then the
methods of the model; and a nested class for each nested model. -/
def Shaped (compiler : Compiler) (self : TypeName) (stem : String) :
    ObjectModel → ClassBody → Prop
  | ⟨_, superName, interfaceNames, nested, properties, methods⟩, body =>
    compiler.optionalTypeName superName = .ok body.superclass ∧
      compiler.typeNames interfaceNames = .ok body.interfaces ∧
      List.Forall₂ (FieldShape compiler stem) properties body.fields ∧
      (∃ setters declared, body.methods = setters ++ declared ∧
        List.Forall₂ (fun pair => SetterShape compiler self pair.1 pair.2)
          (properties.zip body.fields) setters ∧
        List.Forall₂ (MethodShape compiler) methods declared) ∧
      ShapedNested compiler self stem nested body.nested

def ShapedNested (compiler : Compiler) (self : TypeName) (stem : String) :
    List ObjectModel → List ClassDef → Prop
  | [], definitions => definitions = []
  | model :: models, definitions =>
    ∃ name enclosing body more, model.name = some name ∧ self.enclosingClass? = some enclosing ∧
      definitions = (Compiler.staticClass name).extend body :: more ∧
      Shaped compiler (.named (enclosing.nested name)) (compiler.nestedStem stem name) model body ∧
      ShapedNested compiler self stem models more

end

/-- The definition of a class for a model. Whatever the head has comes first. -/
def ClassShape (compiler : Compiler) (head : ClassDef) (stem : String) (model : ObjectModel)
    (definition : ClassDef) : Prop :=
  ∃ body, definition = head.extend body ∧ Shaped compiler (compiler.selfType head) stem model body

namespace Compiler

section

variable {compiler : Compiler}

theorem exists_mapError_ok {ε δ α : Type} {result : Except ε α} {wrap : ε → δ} {value : α}
    (same : result.mapError wrap = .ok value) : result = .ok value := by
  cases result with
  | error error => cases same
  | ok found => exact congrArg Except.ok (Except.ok.inj same)

theorem addMembers_ok {members : List AnnotationMember} {definition result : AnnotationDef}
    (added : compiler.addMembers definition members = .ok result) :
    result.type = definition.type ∧ ∃ values, List.Forall₂ (ValueShape compiler) members values ∧
      result.members = values.foldl (fun members value =>
        AnnotationDef.addValue value.1 value.2 members) definition.members := by
  induction members generalizing definition with
  | nil =>
    cases added
    exact ⟨rfl, [], .nil, rfl⟩
  | cons member members ih =>
    obtain ⟨arguments, resolved, rest⟩ := exists_of_bind_eq_ok added
    obtain ⟨longer, made, rest⟩ := exists_of_bind_eq_ok rest
    obtain ⟨type, values, shapes, all⟩ := ih rest
    have made := exists_mapError_ok made
    unfold AnnotationDef.addMember at made
    cases formatted : Code.ofTemplate member.value.format arguments with
    | error error =>
      rw [formatted] at made
      cases made
    | ok code =>
      rw [formatted] at made
      cases made
      refine ⟨type, (member.name, code) :: values, .cons ⟨rfl, arguments, resolved, formatted⟩ shapes, ?_⟩
      exact all

theorem annotate_ok {model : AnnotationModel} {definition : AnnotationDef}
    (made : compiler.annotate model = .ok definition) :
    AnnotationShape compiler model definition := by
  obtain ⟨type, read, rest⟩ := exists_of_bind_eq_ok made
  split at rest
  next className =>
    obtain ⟨same, values, shapes, all⟩ := addMembers_ok rest
    exact ⟨by rw [read, same], values, shapes, all⟩
  next => cases rest

theorem annotateAll_ok {models : List AnnotationModel} {definitions : List AnnotationDef}
    (made : compiler.annotateAll models = .ok definitions) :
    List.Forall₂ (AnnotationShape compiler) models definitions := by
  induction models generalizing definitions with
  | nil =>
    cases made
    exact .nil
  | cons model models ih =>
    obtain ⟨definition, first, rest⟩ := exists_of_bind_eq_ok made
    obtain ⟨more, later, last⟩ := exists_of_bind_eq_ok rest
    cases last
    exact .cons (annotate_ok first) (ih later)

theorem serializedNameDefs_eq (compiler : Compiler) (property : Property) :
    compiler.serializedNameDefs property = .ok (wireNameDefs compiler property) := by
  unfold serializedNameDefs wireNameDefs
  split
  next => rfl
  next =>
    simp only [AnnotationDef.addMember, Code.ofTemplate_quoted]
    rfl

theorem field_shape {stem : String} {property : Property} {type : TypeName} {field : FieldDef}
    (typed : TypeShape compiler stem property type)
    (made : compiler.field property type = .ok field) : FieldShape compiler stem property field := by
  obtain ⟨wireName, first, rest⟩ := exists_of_bind_eq_ok made
  obtain ⟨others, annotated, last⟩ := exists_of_bind_eq_ok rest
  rw [serializedNameDefs_eq] at first
  cases first
  cases last
  exact ⟨rfl, typed, rfl, rfl, others, rfl, annotateAll_ok annotated⟩

/-- The dollar signs of a name are text: only those of the template have a meaning. -/
theorem exists_assignment (name : String) :
    ∃ code, Code.statement "this.$L = $L" [.literal name, .literal name] = .ok code ∧
      code.Spells ("this." ++ name ++ (" = " ++ name) ++ ";\n") := by
  have filled : Code.ofTemplate "this.$L = $L" [.literal name, .literal name] = .ok
      { tokens := Code.Token.merge (
          (("this.".toList.map fun c => .text (String.singleton c)) ++ [.text name]) ++
            ((" = ".toList.map fun c => .text (String.singleton c)) ++ [.text name])) } := rfl
  have target : Code.Spells _ ("this." ++ name) := (Code.Spells.chars "this.").append (.token name)
  have source : Code.Spells _ (" = " ++ name) := (Code.Spells.chars " = ").append (.token name)
  refine ⟨_, congrArg ((· ++ Code.statementEnd) <$> ·) filled, ?_⟩
  exact (target.append source).merge.append (.token _)

theorem exists_return : ∃ code, Code.statement "return this" [] = .ok code ∧
    code.Spells "return this;\n" := ⟨_, rfl, rfl⟩

theorem setter_shape {self : TypeName} {property : Property} {field : FieldDef}
    {method : MethodDef} (named : field.name = property.name)
    (made : compiler.setter self property field.type = .ok method) :
    SetterShape compiler self property field method := by
  obtain ⟨assignment, assigns, first⟩ := exists_assignment property.name
  obtain ⟨answer, returns, last⟩ := exists_return
  simp only [setter, MethodDef.addStatement, assigns, returns] at made
  cases made
  refine ⟨rfl, rfl, rfl, rfl, rfl, ?_, ?_⟩
  · show [setterParameter _ _ _] = _
    rw [setterParameter, named]
  · have ending : ";\nreturn this;\n" = ";\n" ++ "return this;\n" := rfl
    have whole := first.append last
    rw [ending]
    simp only [String.append_assoc] at whole ⊢
    exact whole.render_eq

theorem setters_shape {self : TypeName} {properties : List Property} {fields : List FieldDef}
    {methods : List MethodDef}
    (named : List.Forall₂ (fun property field => FieldDef.name field = property.name) properties fields)
    (made : compiler.setters self properties fields = .ok methods) :
    List.Forall₂ (fun pair => SetterShape compiler self pair.1 pair.2) (properties.zip fields)
      methods := by
  induction named generalizing methods with
  | nil =>
    cases made
    exact .nil
  | cons named rest ih =>
    obtain ⟨method, first, behind⟩ := exists_of_bind_eq_ok made
    obtain ⟨more, later, last⟩ := exists_of_bind_eq_ok behind
    cases last
    exact .cons (setter_shape named first) (ih later)

theorem parameters_shape {models : List ParameterModel} {parameters : List ParameterDef}
    (made : compiler.parameters models = .ok parameters) :
    List.Forall₂ (ParameterShape compiler) models parameters := by
  induction models generalizing parameters with
  | nil =>
    cases made
    exact .nil
  | cons model models ih =>
    obtain ⟨type, read, rest⟩ := exists_of_bind_eq_ok made
    obtain ⟨more, later, last⟩ := exists_of_bind_eq_ok rest
    cases last
    exact .cons ⟨rfl, read, rfl, rfl⟩ (ih later)

theorem method_shape {model : MethodModel} {method : MethodDef}
    (made : compiler.method model = .ok method) : MethodShape compiler model method := by
  obtain ⟨returnType, read, rest⟩ := exists_of_bind_eq_ok made
  obtain ⟨parameters, declared, rest⟩ := exists_of_bind_eq_ok rest
  obtain ⟨arguments, resolved, rest⟩ := exists_of_bind_eq_ok rest
  obtain ⟨code, formatted, last⟩ := exists_of_bind_eq_ok rest
  cases last
  exact ⟨rfl, rfl, rfl, ⟨returnType, read, rfl⟩, rfl, parameters_shape declared,
    arguments, code, resolved, exists_mapError_ok formatted, rfl⟩

theorem methods_shape {models : List MethodModel} {methods : List MethodDef}
    (made : compiler.methods models = .ok methods) :
    List.Forall₂ (MethodShape compiler) models methods := by
  induction models generalizing methods with
  | nil =>
    cases made
    exact .nil
  | cons model models ih =>
    obtain ⟨method, first, rest⟩ := exists_of_bind_eq_ok made
    obtain ⟨more, later, last⟩ := exists_of_bind_eq_ok rest
    cases last
    exact .cons (method_shape first) (ih later)

theorem enclosingClass_ok {self : TypeName} {enclosing : ClassName}
    (around : enclosingClass self = .ok enclosing) : self.enclosingClass? = some enclosing := by
  unfold enclosingClass at around
  split at around
  next name found =>
    cases around
    exact found
  next => cases around

theorem type_shape {stem : String} {property : Property} {type : TypeName}
    (compiled : typeWith naming compiler stem property = .ok type) :
    TypeShape compiler stem property type := by
  obtain ⟨name, token, object, _, _, _⟩ := property
  cases token with
  | none =>
    cases object with
    | none =>
      rw [typeWith] at compiled
      cases compiled
    | some model =>
      rw [typeWith] at compiled
      cases compiled
      exact .inline rfl
  | some token =>
    cases object with
    | none =>
      rw [typeWith] at compiled
      exact .named rfl compiled
    | some model =>
      rw [typeWith] at compiled
      cases compiled

theorem fields_shape {stem : String} {properties : List Property} {fields : List FieldDef}
    (compiled : fieldsWith naming compiler stem properties = .ok fields) :
    List.Forall₂ (FieldShape compiler stem) properties fields := by
  induction properties generalizing fields with
  | nil =>
    rw [fieldsWith] at compiled
    cases compiled
    exact .nil
  | cons property properties ih =>
    rw [fieldsWith] at compiled
    obtain ⟨type, typed, rest⟩ := exists_of_bind_eq_ok compiled
    obtain ⟨field, first, rest⟩ := exists_of_bind_eq_ok rest
    obtain ⟨others, later, last⟩ := exists_of_bind_eq_ok rest
    cases last
    exact .cons (field_shape (type_shape typed) first) (ih later)

mutual

theorem shaped_of_naming {self : TypeName} {stem : String} {body : ClassBody} :
    (model : ObjectModel) → bodyWith naming compiler self stem model = .ok body →
      Shaped compiler self stem model body
  | ⟨_, _, _, nested, properties, _⟩, compiled => by
    rw [bodyWith] at compiled
    obtain ⟨superclass, superType, rest⟩ := exists_of_bind_eq_ok compiled
    obtain ⟨interfaces, interfaceTypes, rest⟩ := exists_of_bind_eq_ok rest
    obtain ⟨definitions, inside, rest⟩ := exists_of_bind_eq_ok rest
    obtain ⟨fields, own, rest⟩ := exists_of_bind_eq_ok rest
    obtain ⟨setters, sets, rest⟩ := exists_of_bind_eq_ok rest
    obtain ⟨methods, declared, last⟩ := exists_of_bind_eq_ok rest
    cases last
    have fields := fields_shape own
    have named := fields.imp fun _ _ shape => shape.name
    exact ⟨superType, interfaceTypes, fields,
      ⟨setters, methods, rfl, setters_shape named sets, methods_shape declared⟩,
      shapedNested_of_naming nested inside⟩

theorem shapedNested_of_naming {self : TypeName} {stem : String} {index : Nat}
    {definitions : List ClassDef} : (models : List ObjectModel) →
      nestedWith naming compiler self stem index models = .ok definitions →
        ShapedNested compiler self stem models definitions
  | [], compiled => by
    rw [nestedWith] at compiled
    cases compiled
    rfl
  | model :: models, compiled => by
    rw [nestedWith] at compiled
    obtain ⟨enclosing, around, rest⟩ := exists_of_bind_eq_ok compiled
    cases named : model.name with
    | none => simp [named, naming] at rest
    | some name =>
      simp only [named] at rest
      obtain ⟨body, first, rest⟩ := exists_of_bind_eq_ok rest
      obtain ⟨more, later, last⟩ := exists_of_bind_eq_ok rest
      cases last
      exact ⟨name, enclosing, body, more, named, enclosingClass_ok around, rfl,
        shaped_of_naming model first, shapedNested_of_naming models later⟩

end

theorem classShape_of_standalone {head definition : ClassDef} {stem : String} {model : ObjectModel}
    (own : compiler.standalone head stem model = .ok definition) :
    ClassShape compiler head stem model definition := by
  obtain ⟨body, compiled, last⟩ := exists_of_bind_eq_ok own
  cases last
  exact ⟨body, rfl, shaped_of_naming model compiled⟩

end

end Compiler

theorem Source.Gives.classShape {compiler : Compiler} {source : Source}
    {earlier : List (ClassName × ClassDef)} {entry : ClassName × ClassDef}
    (gives : source.Gives compiler earlier entry) :
    ClassShape compiler source.head source.stem source.model entry.2 := by
  obtain ⟨-, before, after, consistent, ran, -⟩ := gives
  exact Compiler.classShape_of_standalone (Compiler.standalone_of_outcome consistent ran)

/-- What a call answers: a definition of the shape that its model asks for, or the name of a class
that has one if the call was the first to register it. -/
def Call.AnswerShape (compiler : Compiler) (before after : Registry) :
    Call → ClassDef ⊕ ClassName → Prop
  | .generate name model stem customize, .inl definition =>
    ClassShape compiler (customize (Compiler.publicClass name)) stem model definition
  | .register name model stem customize, .inr className =>
    className = compiler.scope.generatedClass name ∧
      (className ∉ before.names → ∃ definition, after.get? className = some definition ∧
        ClassShape compiler (customize (Compiler.publicClass name)) stem model definition)
  | _, _ => False

namespace Compiler

section

variable {compiler : Compiler}

theorem built_of_define {name : ClassName} {build : Compile ClassDef} (growing : Growing build)
    {registry after : Registry} {definition : ClassDef} (consistent : registry.Consistent)
    (absent : name ∉ registry.names)
    (ran : (Registry.define name build).outcome registry = (.ok definition, after)) :
    after.get? name = some definition ∧ ∃ before reached : Registry, before.Consistent ∧
      build.outcome before = (.ok definition, reached) := by
  have grows := growing.define.grows consistent ran
  have ends : Defines name build registry _ := define_cases growing consistent
  rw [ran] at ends
  cases ends with
  | known found =>
    exact absurd (Registry.mem_names.mpr ⟨_, consistent.get?_eq_some_iff.mp found⟩) absent
  | @built _ reached absent idle began =>
    refine ⟨?_, _, reached, consistent.starting absent, began⟩
    rw [grows.consistent.get?_eq_some_iff]
    exact List.mem_append_right _ (List.mem_singleton.mpr rfl)

theorem answerShape_of_run {registry after : Registry} (consistent : registry.Consistent)
    {call : Call} {answer : ClassDef ⊕ ClassName}
    (ran : (call.run compiler).outcome registry = (.ok answer, after)) :
    call.AnswerShape compiler registry after answer := by
  cases call with
  | generate name model stem customize =>
    obtain ⟨definition, _, done, last⟩ := outcome_bind_ok ran
    cases last
    exact classShape_of_standalone (standalone_of_outcome consistent
      (built_of_generate consistent done))
  | register name model stem customize =>
    obtain ⟨className, _, done, last⟩ := outcome_bind_ok ran
    cases last
    obtain ⟨_, middle, accepted, rest⟩ := outcome_bind_ok done
    obtain rfl : registry = middle := congrArg Prod.snd accepted
    obtain ⟨definition, _, defined, last⟩ := outcome_bind_ok rest
    cases last
    refine ⟨rfl, fun absent => ⟨definition, ?_⟩⟩
    have growing := Growing.buildClass compiler name model stem customize
    obtain ⟨stored, before, reached, started, built⟩ :=
      built_of_define growing consistent absent defined
    exact ⟨stored, classShape_of_standalone (standalone_of_outcome started built)⟩

/-- Every class that a successful call registers was compiled from an object of its model and has
the shape that the object asks for; so has the class that the call itself is for. -/
theorem generated_classes_are_shaped {registry after : Registry}
    (reached : compiler.Reachable registry) {call : Call} {answer : ClassDef ⊕ ClassName}
    (ran : (call.run compiler).outcome registry = (.ok answer, after)) :
    call.AnswerShape compiler registry after answer ∧
    ∀ position entry, registry.size ≤ position → after.entries[position]? = some entry →
      ∃ source ∈ call.sources compiler,
        source.Gives compiler (after.entries.take position) entry ∧
          ClassShape compiler source.head source.stem source.model entry.2 := by
  obtain ⟨consistent, -⟩ := reached.settled
  refine ⟨answerShape_of_run consistent ran, fun position entry new stored => ?_⟩
  obtain ⟨source, member, gives⟩ :=
    (compiler.compiles_run call).adds consistent ran position entry new stored
  exact ⟨source, member, gives, gives.classShape⟩

end

def pricedItem : ObjectModel where
  nested := [{ name := some "Part", properties := [{ name := "size", type := some "int" }] }]
  properties := [
    { name := "net$price"
      type := some "long"
      required := true
      serializedName := some "net-price"
      annotations := [{ type := "java.lang.Deprecated" }] },
    { name := "tag", object := some { properties := [{ name := "v", type := some "int" }] } }]
  methods := [
    { name := "total", returnType := "long", body := "return this.$L;\n"
      bodyArguments := [.literal "net$price"] }]

def registersItem : Call := .register "Item" pricedItem "Item" id

theorem item_is_shaped : ∃ answer after,
    (registersItem.run (forPackage "p")).outcome .empty = (.ok answer, after) ∧
      registersItem.AnswerShape (forPackage "p") .empty after answer ∧
      after.entries.map (fun entry => (entry.1.outermost, entry.2.methods.map (·.name))) =
        [("ItemTag", ["setV"]), ("Item", ["setNet$price", "setTag", "total"])] ∧
      ∃ entry, after.entries[0]? = some entry ∧
        ∃ source ∈ registersItem.sources (forPackage "p"),
          ClassShape (forPackage "p") source.head source.stem source.model entry.2 := by
  have succeeds : ((registersItem.run (forPackage "p")).outcome .empty).1.isOk = true := by
    decide +kernel
  have methods : ((registersItem.run (forPackage "p")).outcome .empty).2.entries.map
      (fun entry => (entry.1.outermost, entry.2.methods.map (·.name))) =
        [("ItemTag", ["setV"]), ("Item", ["setNet$price", "setTag", "total"])] := by
    decide +kernel
  obtain ⟨answer, ran⟩ := exists_ok_of_isOk succeeds
  generalize ((registersItem.run (forPackage "p")).outcome .empty).2 = after at methods ran
  obtain ⟨answered, added⟩ := generated_classes_are_shaped .empty ran
  refine ⟨answer, after, ran, answered, methods, ?_⟩
  cases entries : after.entries with
  | nil => simp [entries] at methods
  | cons entry more =>
    have stored : after.entries[0]? = some entry := by rw [entries]; rfl
    obtain ⟨source, member, -, shape⟩ := added 0 entry (Nat.zero_le 0) stored
    exact ⟨entry, rfl, source, member, shape⟩

end Compiler

end ClassCompiler
