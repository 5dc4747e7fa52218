import ClassCompiler.Proofs.ClassShape
import ClassCompiler.Proofs.Gate
import ClassCompiler.Proofs.Ways

/-! What the members of generated classes are told apart by. In a class for a sound object, no two
fields and no two nested classes have the same name. Two methods may be the same: setters and the
methods of the model share one list, and the check of a model compares no method with another. -/

namespace ClassCompiler
open Text Compile

/-- What tells a method from others of its class: its name, and the types of its parameters. -/
def MethodDef.profile (method : MethodDef) : String × List TypeName :=
  (method.name, method.parameters.map (·.type))

def Property.Asks (compiler : Compiler) (stem : String) (property : Property)
    (profile : String × List TypeName) : Prop :=
  ∃ type, TypeShape compiler stem property type ∧
    profile = (compiler.options.setterPrefix ++ capitalize property.name, [type])

def MethodModel.Asks (compiler : Compiler) (method : MethodModel)
    (profile : String × List TypeName) : Prop :=
  profile.1 = method.name ∧ compiler.typeNames (method.parameters.map (·.type)) = .ok profile.2

/-- An object asks twice for a method of the same profile. -/
inductive Clash (compiler : Compiler) (stem : String) (object : ObjectModel) : Prop
  | setters {first second : Property} {profile : String × List TypeName}
      (listed : [first, second].Sublist object.properties)
      (asks : first.Asks compiler stem profile) (asks' : second.Asks compiler stem profile)
  | setterAndMethod {property : Property} {method : MethodModel}
      {profile : String × List TypeName} (member : property ∈ object.properties)
      (member' : method ∈ object.methods) (asks : property.Asks compiler stem profile)
      (asks' : method.Asks compiler profile)
  | methods {first second : MethodModel} {profile : String × List TypeName}
      (listed : [first, second].Sublist object.methods) (asks : first.Asks compiler profile)
      (asks' : second.Asks compiler profile)

def MadeFor (compiler : Compiler) (stem : String) (object : ObjectModel) (definition : ClassDef) :
    Prop :=
  ∃ self body, Shaped compiler self stem object body ∧ definition.fields = body.fields ∧
    definition.methods = body.methods ∧ definition.nested = body.nested

inductive ClassDef.Encloses : ClassDef → ClassDef → Prop
  | itself (definition : ClassDef) : Encloses definition definition
  | nested {definition inner part : ClassDef} (member : inner ∈ definition.nested)
      (deeper : Encloses inner part) : Encloses definition part

/-- The classes that a call generates: the one that it hands back, and those it registers. -/
inductive Generates (before after : Registry) (answer : ClassDef ⊕ ClassName) : ClassDef → Prop
  | answered {definition : ClassDef} (same : answer = .inl definition) :
      Generates before after answer definition
  | registered {position : Nat} {entry : ClassName × ClassDef} (new : before.size ≤ position)
      (stored : after.entries[position]? = some entry) : Generates before after answer entry.2

def Call.Plain : Call → Prop
  | .generate _ _ _ customize => customize = id
  | .register _ _ _ customize => customize = id

section

variable {α β : Type} {R : α → β → Prop} {as : List α} {bs : List β}

theorem nodup_iff_pairwise (unique : ∀ a b c, R a b → R a c → b = c)
    (related : List.Forall₂ R as bs) :
    bs.Nodup ↔ as.Pairwise fun first second => ∀ b, R first b → ¬R second b := by
  induction related with
  | nil => simp
  | @cons a b as bs here rest ih =>
    rw [List.nodup_cons, List.pairwise_cons, ih]
    refine and_congr_left' ⟨fun absent other member value holds holds' => ?_, fun none member => ?_⟩
    · obtain ⟨found, inside, given⟩ := (exists_mem_of_forall₂ rest).1 other member
      obtain rfl := unique a value b holds here
      obtain rfl := unique other found value given holds'
      exact absent inside
    · obtain ⟨other, inside, given⟩ := (exists_mem_of_forall₂ rest).2 b member
      exact none other inside b here given

end

theorem TypeShape.unique {compiler : Compiler} {stem : String} {property : Property}
    {type other : TypeName} (shape : TypeShape compiler stem property type)
    (shape' : TypeShape compiler stem property other) : type = other := by
  cases shape with
  | named choice read =>
    cases shape' with
    | named choice' read' =>
      cases choice.symm.trans choice'
      exact Except.ok.inj (read.symm.trans read')
    | inline choice' => cases choice.symm.trans choice'
  | inline choice =>
    cases shape' with
    | named choice' => cases choice.symm.trans choice'
    | inline => rfl

section

variable {compiler : Compiler} {stem : String} {object : ObjectModel}

theorem Property.Asks.unique (property : Property) (first second : String × List TypeName)
    (asks : property.Asks compiler stem first) (asks' : property.Asks compiler stem second) :
    first = second := by
  obtain ⟨type, shape, rfl⟩ := asks
  obtain ⟨other, shape', rfl⟩ := asks'
  rw [shape.unique shape']

theorem MethodModel.Asks.unique (method : MethodModel) (first second : String × List TypeName)
    (asks : method.Asks compiler first) (asks' : method.Asks compiler second) : first = second :=
  Prod.ext (asks.1.trans asks'.1.symm) (Except.ok.inj (asks.2.symm.trans asks'.2))

theorem typeNames_of_parameters {models : List ParameterModel} {parameters : List ParameterDef}
    (shapes : List.Forall₂ (ParameterShape compiler) models parameters) :
    compiler.typeNames (models.map (·.type)) = .ok (parameters.map (·.type)) := by
  induction shapes with
  | nil => rfl
  | cons shape rest ih =>
    rw [List.map_cons, Compiler.typeNames, shape.type, ih]
    rfl

theorem asks_methods {models : List MethodModel} {methods : List MethodDef}
    (shapes : List.Forall₂ (MethodShape compiler) models methods) :
    List.Forall₂ (MethodModel.Asks compiler) models (methods.map MethodDef.profile) := by
  rw [List.forall₂_map_right_iff]
  exact shapes.imp fun model method shape => ⟨shape.name, typeNames_of_parameters shape.parameters⟩

theorem asks_setters {self : TypeName} {properties : List Property} {fields : List FieldDef}
    {setters : List MethodDef} (shapes : List.Forall₂ (FieldShape compiler stem) properties fields)
    (sets : List.Forall₂ (fun pair => SetterShape compiler self pair.1 pair.2)
      (properties.zip fields) setters) :
    List.Forall₂ (Property.Asks compiler stem) properties (setters.map MethodDef.profile) := by
  induction shapes generalizing setters with
  | nil =>
    cases sets
    exact .nil
  | @cons property field _ _ shape rest ih =>
    cases sets with
    | @cons _ method _ _ first others =>
      obtain ⟨name, -, -, -, -, parameters, -⟩ := first
      refine .cons ⟨field.type, shape.type, ?_⟩ (ih others)
      rw [MethodDef.profile, name, parameters]
      rfl

/-- Setters come before methods; one profile is asked for twice among the setters, among the
methods, or by a setter and a method. -/
theorem nodup_profiles_iff {self : TypeName} {body : ClassBody}
    (shaped : Shaped compiler self stem object body) :
    (body.methods.map MethodDef.profile).Nodup ↔ ¬Clash compiler stem object := by
  obtain ⟨_, _, _, nested, properties, methods⟩ := object
  rw [Shaped] at shaped
  obtain ⟨-, -, fields, ⟨setters, declared, all, sets, made⟩, -⟩ := shaped
  have setter := asks_setters fields sets
  have method := asks_methods made
  rw [all, List.map_append, List.nodup_append', nodup_iff_pairwise Property.Asks.unique setter,
    nodup_iff_pairwise MethodModel.Asks.unique method, List.pairwise_iff_forall_sublist,
    List.pairwise_iff_forall_sublist]
  constructor
  · rintro ⟨first, second, between⟩ clash
    cases clash with
    | setters listed asks asks' => exact first listed _ asks asks'
    | setterAndMethod member member' asks asks' =>
      obtain ⟨_, inside, own⟩ := (exists_mem_of_forall₂ setter).1 _ member
      obtain ⟨_, inside', own'⟩ := (exists_mem_of_forall₂ method).1 _ member'
      obtain rfl := Property.Asks.unique _ _ _ asks own
      obtain rfl := MethodModel.Asks.unique _ _ _ asks' own'
      exact between inside inside'
    | methods listed asks asks' => exact second listed _ asks asks'
  · intro none
    refine ⟨fun listed profile asks asks' => none (.setters listed asks asks'),
      fun listed profile asks asks' => none (.methods listed asks asks'), fun profile inside inside' => ?_⟩
    obtain ⟨property, member, asks⟩ := (exists_mem_of_forall₂ setter).2 profile inside
    obtain ⟨model, member', asks'⟩ := (exists_mem_of_forall₂ method).2 profile inside'
    exact none (.setterAndMethod member member' asks asks')

theorem names_of_nested {self : TypeName} {models : List ObjectModel} {definitions : List ClassDef}
    (shaped : ShapedNested compiler self stem models definitions) :
    models.map (·.name) = (definitions.map (·.name)).map some := by
  induction models generalizing definitions with
  | nil =>
    rw [ShapedNested] at shaped
    rw [shaped]
    rfl
  | cons model models ih =>
    rw [ShapedNested] at shaped
    obtain ⟨name, _, body, more, called, -, rfl, -, rest⟩ := shaped
    rw [List.map_cons, List.map_cons, List.map_cons, ih rest, called]
    rfl

theorem distinct_members {definition : ClassDef} (sound : object.Sound)
    (made : MadeFor compiler stem object definition) :
    (definition.fields.map (·.name)).Nodup ∧ (definition.nested.map (·.name)).Nodup ∧
      ((definition.methods.map MethodDef.profile).Nodup ↔ ¬Clash compiler stem object) := by
  obtain ⟨self, body, shaped, fields, methods, nested⟩ := made
  rw [fields, methods, nested]
  refine ⟨?_, ?_, nodup_profiles_iff shaped⟩
  · have declared := sound.properties.1.distinct
    obtain ⟨_, _, _, _, properties, _⟩ := object
    rw [Shaped] at shaped
    have same : body.fields.map (·.name) = properties.map (·.name) := by
      rw [← List.forall₂_eq_eq_eq, List.forall₂_map_left_iff, List.forall₂_map_right_iff]
      exact shaped.2.2.1.flip.imp fun _ _ shape => shape.name
    rw [same]
    exact declared
  · obtain ⟨names, called, declares⟩ := sound.nested
    obtain ⟨_, _, _, models, _, _⟩ := object
    rw [Shaped] at shaped
    have same := (names_of_nested shaped.2.2.2.2).symm.trans called
    rw [List.map_injective_iff.mpr (fun _ _ => Option.some.inj) same]
    exact declares.distinct

theorem exists_madeFor_of_nested {self : TypeName} {models : List ObjectModel}
    {definitions : List ClassDef} (shaped : ShapedNested compiler self stem models definitions)
    {inner : ClassDef} (member : inner ∈ definitions) :
    ∃ model ∈ models, ∃ stem, MadeFor compiler stem model inner := by
  induction models generalizing definitions with
  | nil =>
    rw [ShapedNested] at shaped
    rw [shaped] at member
    exact absurd member List.not_mem_nil
  | cons model models ih =>
    rw [ShapedNested] at shaped
    obtain ⟨name, _, body, more, -, -, rfl, first, rest⟩ := shaped
    rcases List.mem_cons.mp member with rfl | later
    · exact ⟨model, List.mem_cons_self, _, _, body, first, rfl, rfl, rfl⟩
    · obtain ⟨other, listed, made⟩ := ih rest later
      exact ⟨other, List.mem_cons_of_mem _ listed, made⟩

theorem exists_madeFor_of_encloses {definition part : ClassDef} (encloses : definition.Encloses part)
    (made : MadeFor compiler stem object definition) :
    ∃ stem inner, object.Contains inner ∧ MadeFor compiler stem inner part := by
  induction encloses generalizing stem object with
  | itself definition => exact ⟨stem, object, .itself object, made⟩
  | nested member deeper ih =>
    obtain ⟨self, body, shaped, -, -, nested⟩ := made
    obtain ⟨_, _, _, models, _, _⟩ := object
    rw [Shaped] at shaped
    rw [nested] at member
    obtain ⟨model, listed, _, inside⟩ := exists_madeFor_of_nested shaped.2.2.2.2 member
    obtain ⟨stem, inner, contained, found⟩ := ih inside
    exact ⟨stem, inner, .nested listed contained, found⟩

theorem ClassShape.madeFor {name : String} {definition : ClassDef}
    (shape : ClassShape compiler (Compiler.publicClass name) stem object definition) :
    MadeFor compiler stem object definition := by
  obtain ⟨body, rfl, shaped⟩ := shape
  exact ⟨_, body, shaped, rfl, rfl, rfl⟩

end

theorem ObjectModel.Contains.trans {model inner object : ObjectModel} (first : model.Contains inner)
    (second : inner.Contains object) : model.Contains object := by
  induction first with
  | itself => exact second
  | nested member _ ih => exact .nested member (ih second)
  | inline member inline _ ih => exact .inline member inline (ih second)

namespace Compiler

section

variable {compiler : Compiler}

theorem Inlined.contains {stem : String} {path : List String} {model : ObjectModel}
    {object : InlineObject} (way : compiler.Inlined stem path model object) :
    model.Contains object.model := by
  induction way with
  | nested member _ _ ih => exact .nested member ih
  | within member inline _ ih => exact .inline member inline ih
  | property member inline => exact .inline member inline (.itself _)

theorem source_of_plain {call : Call} (plain : call.Plain) {source : Source}
    (member : source ∈ call.sources compiler) : call.model.Contains source.model ∧
      source.head = publicClass source.className.simpleName := by
  rcases call.exists_of_mem_sources member with ⟨object, way, rfl⟩ | ⟨_, model, _, customize, rfl, rfl⟩
  · exact ⟨way.contains, rfl⟩
  · obtain rfl : customize = id := plain
    exact ⟨.itself model, rfl⟩

theorem exists_madeFor_of_generates {registry after : Registry}
    (reached : compiler.Reachable registry) {call : Call} (plain : call.Plain)
    {answer : ClassDef ⊕ ClassName}
    (ran : (call.run compiler).outcome registry = (.ok answer, after)) {definition : ClassDef}
    (generates : Generates registry after answer definition) :
    ∃ stem object, call.model.Contains object ∧ MadeFor compiler stem object definition := by
  obtain ⟨consistent, -⟩ := reached.settled
  cases generates with
  | answered same =>
    subst same
    have shape := answerShape_of_run consistent ran
    cases call with
    | generate name model stem customize =>
      obtain rfl : customize = id := plain
      exact ⟨stem, model, .itself model, shape.madeFor⟩
    | register name model stem customize => exact absurd shape not_false
  | registered new stored =>
    obtain ⟨source, member, gives⟩ :=
      (compiler.compiles_run call).adds consistent ran _ _ new stored
    obtain ⟨contained, head⟩ := source_of_plain plain member
    have shape := gives.classShape
    rw [head] at shape
    exact ⟨source.stem, source.model, contained, shape.madeFor⟩

/-- Every class that a plain call generates for a model that passes validation, nested ones included,
is for an object in the model. Its fields have distinct names, and its nested classes have. Its
methods are distinct exactly if the object does not ask for one of them twice. -/
theorem generated_members_are_distinct {registry after : Registry}
    (reached : compiler.Reachable registry) {call : Call} (plain : call.Plain)
    (valid : call.model.validate call.name = .ok ()) {answer : ClassDef ⊕ ClassName}
    (ran : (call.run compiler).outcome registry = (.ok answer, after)) :
    ∀ definition, Generates registry after answer definition → ∀ part, definition.Encloses part →
      ∃ stem object, call.model.Contains object ∧ MadeFor compiler stem object part ∧
        (part.fields.map (·.name)).Nodup ∧ (part.nested.map (·.name)).Nodup ∧
        ((part.methods.map MethodDef.profile).Nodup ↔ ¬Clash compiler stem object) := by
  intro definition generates part encloses
  obtain ⟨_, whole, contained, made⟩ := exists_madeFor_of_generates reached plain ran generates
  obtain ⟨stem, object, inside, made⟩ := exists_madeFor_of_encloses encloses made
  have contained := contained.trans inside
  have sound := ObjectModel.validate_eq_ok_iff.mp valid object contained
  exact ⟨stem, object, contained, made, distinct_members sound made⟩

end

def clearedCart : ObjectModel where
  methods := [
    { name := "clear", returnType := "void", body := "items = null;\n" },
    { name := "clear", returnType := "void", body := "items = null;\n" }]

def generatesCart : Call := .generate "Cart" clearedCart "Cart" id

theorem cart_is_cleared_twice : clearedCart.validate "Cart" = .ok () ∧
    ∃ definition after,
      (generatesCart.run (forPackage "com.shop")).outcome .empty = (.ok (.inl definition), after) ∧
      definition.methods.map MethodDef.profile = [("clear", []), ("clear", [])] ∧
      ∃ stem object, clearedCart.Contains object ∧
        MadeFor (forPackage "com.shop") stem object definition ∧
        Clash (forPackage "com.shop") stem object := by
  have valid : generatesCart.model.validate "Cart" = .ok () := by
    decide +kernel
  have compiles : (((forPackage "com.shop").generate "Cart" clearedCart "Cart").outcome
      .empty).1.toOption.map (fun definition => definition.methods.map MethodDef.profile) =
        some [("clear", []), ("clear", [])] := by
    decide +kernel
  cases made : ((forPackage "com.shop").generate "Cart" clearedCart "Cart").outcome .empty with
  | mk result after =>
    rw [made] at compiles
    cases result with
    | error error => cases compiles
    | ok definition =>
      have methods : definition.methods.map MethodDef.profile = [("clear", []), ("clear", [])] :=
        Option.some.inj compiles
      have ran : (generatesCart.run (forPackage "com.shop")).outcome .empty =
          (.ok (.inl definition), after) := by
        rw [generatesCart, Call.run, outcome_bind, made]
        rfl
      obtain ⟨stem, object, contained, found, -, -, distinct⟩ :=
        @generated_members_are_distinct (forPackage "com.shop") .empty after .empty generatesCart rfl
          valid _ ran definition (.answered rfl) definition (.itself definition)
      refine ⟨valid, definition, after, ran, methods, stem, object, contained, found, ?_⟩
      by_contra none
      have distinct := distinct.mpr none
      rw [methods] at distinct
      exact absurd distinct (by decide)

end Compiler

end ClassCompiler
