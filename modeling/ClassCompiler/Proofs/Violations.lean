import ClassCompiler.Model.Validation

/-! What the check of a model finds. A model is accepted if all objects in it are sound; of any other
model, the check reports the first of all violations, in the order in which it walks the model. -/

namespace ClassCompiler
open Text

structure Declares (names : List String) : Prop where
  identifiers : ∀ name ∈ names, isIdentifier name = true
  distinct : names.Nodup

structure MethodModel.Sound (method : MethodModel) : Prop where
  name : isIdentifier method.name = true
  typeParameters : Declares method.typeParameters
  parameters : Declares (method.parameters.map (·.name))

structure Property.Sound (property : Property) : Prop where
  annotations : ∀ annotation ∈ property.annotations, isBlankText annotation.type = false
  choice : property.type.isNone ↔ property.object.isSome

namespace Declares

theorem nil : Declares [] := ⟨fun _ member => absurd member List.not_mem_nil, List.nodup_nil⟩

theorem cons_beside {seen names : List String} {name : String} :
    (Declares (name :: names) ∧ ∀ other ∈ name :: names, other ∉ seen) ↔
      (isIdentifier name = true ∧ name ∉ seen) ∧
        Declares names ∧ ∀ other ∈ names, other ∉ name :: seen := by
  constructor
  · rintro ⟨declares, apart⟩
    obtain ⟨absent, distinct⟩ := List.nodup_cons.mp declares.distinct
    refine ⟨⟨declares.identifiers name List.mem_cons_self, apart name List.mem_cons_self⟩,
      ⟨fun other member => declares.identifiers other (List.mem_cons_of_mem _ member), distinct⟩,
      fun other member again => ?_⟩
    rcases List.mem_cons.mp again with rfl | before
    · exact absent member
    · exact apart other (List.mem_cons_of_mem _ member) before
  · rintro ⟨⟨identifier, fresh⟩, declares, apart⟩
    refine ⟨⟨List.forall_mem_cons.mpr ⟨identifier, declares.identifiers⟩,
      List.nodup_cons.mpr ⟨fun member => apart name member List.mem_cons_self,
        declares.distinct⟩⟩, List.forall_mem_cons.mpr ⟨fresh, fun other member before => ?_⟩⟩
    exact apart other member (List.mem_cons_of_mem _ before)

end Declares

namespace ObjectModel

/-- What an object declares itself is sound; nothing is said of the objects in it. -/
structure Sound (object : ObjectModel) : Prop where
  nested : ∃ names, object.nested.map (·.name) = names.map some ∧ Declares names
  properties : Declares (object.properties.map (·.name)) ∧
    ∀ property ∈ object.properties, property.Sound
  methods : ∀ method ∈ object.methods, method.Sound

/-- The objects in a model, nested and inline, at any depth. -/
inductive Contains : ObjectModel → ObjectModel → Prop
  | itself (model : ObjectModel) : Contains model model
  | nested {model inner object : ObjectModel} (member : inner ∈ model.nested)
      (deeper : Contains inner object) : Contains model object
  | inline {model inner object : ObjectModel} {property : Property}
      (member : property ∈ model.properties) (inline : property.object = some inner)
      (deeper : Contains inner object) : Contains model object

def WellFormed (model : ObjectModel) : Prop :=
  ∀ object, model.Contains object → object.Sound

theorem Sound.named {object : ObjectModel} (sound : object.Sound) :
    ∀ inner ∈ object.nested, ∃ name, inner.name = some name := by
  intro inner member
  obtain ⟨names, same, -⟩ := sound.nested
  have listed := List.mem_map_of_mem (f := ObjectModel.name) member
  rw [same] at listed
  obtain ⟨name, -, called⟩ := List.mem_map.mp listed
  exact ⟨name, called.symm⟩

theorem wellFormed_iff {model : ObjectModel} : model.WellFormed ↔ model.Sound ∧
    (∀ inner ∈ model.nested, inner.WellFormed) ∧
    ∀ property ∈ model.properties, ∀ inner ∈ property.object, inner.WellFormed := by
  constructor
  · intro valid
    exact ⟨valid model (.itself model),
      fun inner member object deeper => valid object (.nested member deeper),
      fun property member inner inline object deeper => valid object (.inline member inline deeper)⟩
  · rintro ⟨own, nested, inline⟩ object contained
    cases contained with
    | itself => exact own
    | nested member deeper => exact nested _ member object deeper
    | inline member given deeper => exact inline _ member _ given object deeper

def nameViolations (kind duplicated : NameKind) (owner : String) (seen : List String)
    (name : String) : List Violation :=
  (if isIdentifier name then [] else [.invalidIdentifier kind name]) ++
    if seen.contains name then [.duplicate duplicated name owner] else []

def namesViolations (kind : NameKind) (owner : String) : List String → List String → List Violation
  | _, [] => []
  | seen, name :: names =>
    nameViolations kind kind owner seen name ++ namesViolations kind owner (name :: seen) names

def methodViolations (method : MethodModel) : List Violation :=
  (if isIdentifier method.name then [] else [.invalidIdentifier .method method.name]) ++
    (namesViolations .typeParameter method.name [] method.typeParameters ++
      namesViolations .parameter method.name [] (method.parameters.map (·.name)))

def annotationViolations (model : AnnotationModel) : List Violation :=
  if isBlankText model.type then [.invalidIdentifier .annotationType model.type] else []

def choiceViolations (name : String) (type : Option String) (object : Option ObjectModel) :
    List Violation :=
  match type, object with
  | none, none => [.missingVariant name]
  | some _, some _ => [.conflictingVariants name]
  | _, _ => []

mutual

/-- All violations in a model that they call `owner`. What is wrong in one place keeps nothing in
another from being found. -/
def violations (owner : String) : ObjectModel → List Violation
  | ⟨_, _, _, nested, properties, methods⟩ =>
    nestedViolations owner 0 [] nested ++
      (propertyViolations owner [] properties ++ methods.flatMap methodViolations)

/-- A nested object owns what is wrong in it, unless it has no name. -/
def nestedViolations (owner : String) (index : Nat) (seen : List String) :
    List ObjectModel → List Violation
  | [] => []
  | model :: models =>
    match model.name with
    | none =>
      .missingName owner index :: (violations owner model ++
        nestedViolations owner (index + 1) seen models)
    | some name =>
      nameViolations .object .nestedObject owner seen name ++
        (violations name model ++ nestedViolations owner (index + 1) (name :: seen) models)

def propertyViolations (owner : String) (seen : List String) : List Property → List Violation
  | [] => []
  | ⟨name, type, object, _, _, annotations⟩ :: properties =>
    nameViolations .property .property owner seen name ++
      (annotations.flatMap annotationViolations ++ (choiceViolations name type object ++
        (inlineViolations (owner ++ "." ++ name) object ++
          propertyViolations owner (name :: seen) properties)))

def inlineViolations (owner : String) : Option ObjectModel → List Violation
  | none => []
  | some model => violations owner model

end

def report : List Violation → Except Violation Unit
  | [] => .ok ()
  | violation :: _ => .error violation

theorem report_append (before after : List Violation) :
    report (before ++ after) = (do report before; report after) := by
  cases before <;> rfl

theorem report_eq_ok_iff {found : List Violation} : report found = .ok () ↔ found = [] := by
  cases found <;> simp [report]

theorem report_eq_error_iff {found : List Violation} {violation : Violation} :
    report found = .error violation ↔ found.head? = some violation := by
  cases found <;> simp [report]

section

variable (owner : String)

theorem checkName_eq (kind duplicated : NameKind) (seen : List String) (name : String) :
    checkName kind duplicated owner seen name =
      report (nameViolations kind duplicated owner seen name) := by
  unfold checkName nameViolations
  cases isIdentifier name with
  | false => rfl
  | true => cases seen.contains name <;> rfl

theorem checkNames_eq (kind : NameKind) (seen names : List String) :
    checkNames kind owner seen names = report (namesViolations kind owner seen names) := by
  induction names generalizing seen with
  | nil => rfl
  | cons name names ih => rw [checkNames, namesViolations, report_append, ← checkName_eq, ih]

theorem checkMethod_eq (method : MethodModel) :
    checkMethod method = report (methodViolations method) := by
  unfold checkMethod methodViolations
  rw [report_append, report_append, ← checkNames_eq, ← checkNames_eq]
  cases isIdentifier method.name <;> rfl

theorem checkMethods_eq (methods : List MethodModel) :
    checkMethods methods = report (methods.flatMap methodViolations) := by
  induction methods with
  | nil => rfl
  | cons method methods ih =>
    rw [checkMethods, List.flatMap_cons, report_append, checkMethod_eq, ih]

theorem checkAnnotations_eq (models : List AnnotationModel) :
    checkAnnotations models = report (models.flatMap annotationViolations) := by
  induction models with
  | nil => rfl
  | cons model models ih =>
    rw [checkAnnotations, List.flatMap_cons, report_append, ← ih, annotationViolations]
    cases isBlankText model.type <;> rfl

mutual

theorem validate_eq (owner : String) : (model : ObjectModel) →
    validate owner model = report (violations owner model)
  | ⟨_, _, _, nested, properties, methods⟩ => by
    rw [validate, violations, report_append, report_append, ← validateNested_eq owner 0 [] nested,
      ← validateProperties_eq owner [] properties, ← checkMethods_eq]

theorem validateNested_eq (owner : String) (index : Nat) (seen : List String) :
    (models : List ObjectModel) →
      validateNested owner index seen models = report (nestedViolations owner index seen models)
  | [] => by
    rw [validateNested, nestedViolations]
    rfl
  | model :: models => by
    rw [validateNested, nestedViolations]
    cases model.name with
    | none => rfl
    | some name =>
      simp only [report_append]
      rw [checkName_eq, validate_eq name model,
        validateNested_eq owner (index + 1) (name :: seen) models]

theorem validateProperties_eq (owner : String) (seen : List String) :
    (properties : List Property) →
      validateProperties owner seen properties = report (propertyViolations owner seen properties)
  | [] => by
    rw [validateProperties, propertyViolations]
    rfl
  | ⟨name, type, object, _, _, annotations⟩ :: properties => by
    rw [validateProperties, propertyViolations, report_append, report_append, report_append,
      report_append, ← checkName_eq, ← checkAnnotations_eq,
      ← validateProperties_eq owner (name :: seen) properties]
    cases type with
    | none =>
      cases object with
      | none => rfl
      | some model =>
        rw [inlineViolations, ← validate_eq (owner ++ "." ++ name) model]
        rfl
    | some token =>
      cases object with
      | none =>
        rw [inlineViolations]
        rfl
      | some model => rfl

end

end

section

variable {owner : String}

theorem nameViolations_eq_nil_iff {kind duplicated : NameKind} {seen : List String} {name : String} :
    nameViolations kind duplicated owner seen name = [] ↔ isIdentifier name = true ∧ name ∉ seen := by
  unfold nameViolations
  cases isIdentifier name <;> simp

theorem namesViolations_eq_nil_iff {kind : NameKind} {seen names : List String} :
    namesViolations kind owner seen names = [] ↔
      Declares names ∧ ∀ name ∈ names, name ∉ seen := by
  induction names generalizing seen with
  | nil => simp [namesViolations, Declares.nil]
  | cons name names ih =>
    rw [namesViolations, List.append_eq_nil_iff, nameViolations_eq_nil_iff, ih, Declares.cons_beside]

theorem methodViolations_eq_nil_iff {method : MethodModel} :
    methodViolations method = [] ↔ method.Sound := by
  unfold methodViolations
  rw [List.append_eq_nil_iff, List.append_eq_nil_iff, namesViolations_eq_nil_iff,
    namesViolations_eq_nil_iff]
  constructor
  · rintro ⟨named, ⟨typeParameters, -⟩, parameters, -⟩
    exact ⟨by simpa using named, typeParameters, parameters⟩
  · intro sound
    exact ⟨by simp [sound.name], ⟨sound.typeParameters, fun _ _ => List.not_mem_nil⟩,
      sound.parameters, fun _ _ => List.not_mem_nil⟩

theorem annotationViolations_eq_nil_iff {model : AnnotationModel} :
    annotationViolations model = [] ↔ isBlankText model.type = false := by
  unfold annotationViolations
  cases isBlankText model.type <;> simp

theorem choiceViolations_eq_nil_iff {name : String} {type : Option String}
    {object : Option ObjectModel} :
    choiceViolations name type object = [] ↔ (type.isNone ↔ object.isSome) := by
  cases type <;> cases object <;> simp [choiceViolations]

mutual

theorem violations_eq_nil_iff (owner : String) : (model : ObjectModel) →
    (violations owner model = [] ↔ model.WellFormed)
  | ⟨_, _, _, nested, properties, methods⟩ => by
    rw [violations, List.append_eq_nil_iff, List.append_eq_nil_iff,
      nestedViolations_eq_nil_iff owner 0 [] nested,
      propertyViolations_eq_nil_iff owner [] properties, List.flatMap_eq_nil_iff, wellFormed_iff]
    simp only [methodViolations_eq_nil_iff]
    constructor
    · rintro ⟨⟨⟨names, same, declares, -⟩, inner⟩, ⟨⟨declared, -⟩, own⟩, sound⟩
      exact ⟨⟨⟨names, same, declares⟩, ⟨declared, fun property member => (own property member).1⟩,
        sound⟩, inner, fun property member => (own property member).2⟩
    · rintro ⟨⟨⟨names, same, declares⟩, ⟨declared, own⟩, sound⟩, inner, inline⟩
      exact ⟨⟨⟨names, same, declares, fun _ _ => List.not_mem_nil⟩, inner⟩,
        ⟨⟨declared, fun _ _ => List.not_mem_nil⟩,
          fun property member => ⟨own property member, inline property member⟩⟩, sound⟩

theorem nestedViolations_eq_nil_iff (owner : String) (index : Nat) (seen : List String) :
    (models : List ObjectModel) → (nestedViolations owner index seen models = [] ↔
      (∃ names, models.map (·.name) = names.map some ∧ Declares names ∧
        ∀ name ∈ names, name ∉ seen) ∧ ∀ inner ∈ models, inner.WellFormed)
  | [] => by
    rw [nestedViolations]
    exact iff_of_true rfl ⟨⟨[], rfl, .nil, fun _ member => absurd member List.not_mem_nil⟩,
      fun _ member => absurd member List.not_mem_nil⟩
  | model :: models => by
    rw [nestedViolations, List.forall_mem_cons, List.map_cons]
    cases named : model.name with
    | none =>
      refine iff_of_false (List.cons_ne_nil _ _) ?_
      rintro ⟨⟨names, same, -⟩, -⟩
      cases names <;> cases same
    | some name =>
      dsimp only
      rw [List.append_eq_nil_iff, List.append_eq_nil_iff, nameViolations_eq_nil_iff,
        violations_eq_nil_iff name model,
        nestedViolations_eq_nil_iff owner (index + 1) (name :: seen) models]
      constructor
      · rintro ⟨fresh, first, ⟨names, same, declares⟩, later⟩
        exact ⟨⟨name :: names, by rw [same, List.map_cons],
          Declares.cons_beside.mpr ⟨fresh, declares⟩⟩, first, later⟩
      · rintro ⟨⟨names, same, declares⟩, first, later⟩
        cases names with
        | nil => cases same
        | cons other names =>
          obtain ⟨head, rest⟩ := List.cons.inj same
          obtain rfl := Option.some.inj head
          obtain ⟨fresh, declares⟩ := Declares.cons_beside.mp declares
          exact ⟨fresh, first, ⟨names, rest, declares⟩, later⟩

theorem propertyViolations_eq_nil_iff (owner : String) (seen : List String) :
    (properties : List Property) → (propertyViolations owner seen properties = [] ↔
      (Declares (properties.map (·.name)) ∧ ∀ name ∈ properties.map (·.name), name ∉ seen) ∧
        ∀ property ∈ properties, property.Sound ∧ ∀ inner ∈ property.object, inner.WellFormed)
  | [] => by
    rw [propertyViolations]
    exact iff_of_true rfl ⟨⟨.nil, fun _ member => absurd member List.not_mem_nil⟩,
      fun _ member => absurd member List.not_mem_nil⟩
  | ⟨name, type, object, _, _, annotations⟩ :: properties => by
    rw [propertyViolations, List.map_cons, Declares.cons_beside, List.forall_mem_cons]
    simp only [List.append_eq_nil_iff, nameViolations_eq_nil_iff, List.flatMap_eq_nil_iff,
      annotationViolations_eq_nil_iff, choiceViolations_eq_nil_iff,
      inlineViolations_eq_nil_iff _ object, propertyViolations_eq_nil_iff owner _ properties]
    constructor
    · rintro ⟨fresh, annotated, choice, inside, declares, later⟩
      exact ⟨⟨fresh, declares⟩, ⟨⟨annotated, choice⟩, inside⟩, later⟩
    · rintro ⟨⟨fresh, declares⟩, ⟨⟨annotated, choice⟩, inside⟩, later⟩
      exact ⟨fresh, annotated, choice, inside, declares, later⟩

theorem inlineViolations_eq_nil_iff (owner : String) : (object : Option ObjectModel) →
    (inlineViolations owner object = [] ↔ ∀ inner ∈ object, inner.WellFormed)
  | none => by
    rw [inlineViolations]
    exact iff_of_true rfl fun _ member => absurd member (Option.not_mem_none _)
  | some model => by
    rw [inlineViolations, violations_eq_nil_iff owner model]
    simp

end

theorem validate_eq_ok_iff {model : ObjectModel} :
    model.validate owner = .ok () ↔ model.WellFormed := by
  rw [validate_eq, report_eq_ok_iff, violations_eq_nil_iff]

end

/-- A model is accepted exactly if all objects in it are sound, and any other model is refused for
the first of its violations. -/
theorem first_violation_is_reported (owner : String) (model : ObjectModel) :
    (model.validate owner = .ok () ↔ model.WellFormed) ∧
      ∀ violation, model.validate owner = .error violation ↔
        (model.violations owner).head? = some violation := by
  refine ⟨validate_eq_ok_iff, fun violation => ?_⟩
  rw [validate_eq, report_eq_error_iff]

/-- What comes after a violation is still found. -/
example : violations "Shop" {
    nested := [{}, { name := some "Item", properties := [{ name := "price" }] }]
    properties := [
      { name := "1st"
        object := some {
          properties := [{ name := "v", type := some "int" }, { name := "v", type := some "int" }] } }]
    methods := [{ name := "reset", returnType := "void", body := "", typeParameters := ["class"] }] } =
    [.missingName "Shop" 0, .missingVariant "price", .invalidIdentifier .property "1st",
      .duplicate .property "v" "Shop.1st", .invalidIdentifier .typeParameter "class"] := by
  decide +kernel

end ObjectModel

end ClassCompiler
