import ClassCompiler.Model.Wire
import ClassCompiler.Proofs.RecordForms

/-! The forms of models in JSON, all of which are read as the model. -/

namespace ClassCompiler
open Json

/-! ### Forms -/

namespace ModelArgument

def marker : String := "<type>"

/-- A text that does not begin with the marker may stand for itself; a type may stand behind the
marker. -/
def Form : ModelArgument → Json → Prop
  | literal text, json => json = object [("literal", string text)] ∨
      ¬marker.toList <+: text.toList ∧ json = string text
  | type token, json => json = object [("type", string token)] ∨ json = string (marker ++ token)

end ModelArgument

namespace MemberValue

def fieldForms (value : MemberValue) : List FieldForm :=
  [.text "format" value.format, .list "arguments" (value.arguments.map ModelArgument.Form)]

def Form (value : MemberValue) : Json → Prop := RecordForm value.fieldForms

end MemberValue

/-- A member is never an array. What it may hold under unknown names is a parameter, because all of
it is stored before it is known what is of use. -/
def AnnotationMember.Form (extra : Json → Prop) (member : AnnotationMember) : Json → Prop :=
  ObjectForm extra (.text "name" member.name :: member.value.fieldForms)

def AnnotationModel.Form (extra : Json → Prop) (model : AnnotationModel) : Json → Prop :=
  RecordForm [
    .text "type" model.type,
    .list "members" (model.members.map (AnnotationMember.Form extra))]

def ParameterModel.Form (parameter : ParameterModel) : Json → Prop :=
  RecordForm [.text "name" parameter.name, .text "type" parameter.type]

def MethodModel.Form (method : MethodModel) : Json → Prop :=
  RecordForm [
    .text "name" method.name,
    .text "returnType" method.returnType,
    .list "typeParameters" (method.typeParameters.map TextForm),
    .list "parameters" (method.parameters.map ParameterModel.Form),
    .text "body" method.body,
    .list "bodyArguments" (method.bodyArguments.map ModelArgument.Form)]

namespace ObjectModel

mutual

def Form (extra : Json → Prop) : ObjectModel → Json → Prop
  | ⟨name, superName, interfaceNames, nested, properties, methods⟩ =>
    RecordForm [
      .optional "name" (name.map TextForm),
      .optional "superName" (superName.map TextForm),
      .list "interfaceNames" (interfaceNames.map TextForm),
      .list "nested" (forms extra nested),
      .list "properties" (propertyForms extra properties),
      .list "methods" (methods.map MethodModel.Form)]

def forms (extra : Json → Prop) : List ObjectModel → List (Json → Prop)
  | [] => []
  | model :: models => Form extra model :: forms extra models

def PropertyForm (extra : Json → Prop) : Property → Json → Prop
  | ⟨name, type, inlined, required, serializedName, annotations⟩ =>
    RecordForm [
      .text "name" name,
      .optional "type" (type.map TextForm),
      .optional "object" (inlineForm extra inlined),
      .flag "required" required,
      .optional "serializedName" (serializedName.map TextForm),
      .list "annotations" (annotations.map (AnnotationModel.Form extra))]

def inlineForm (extra : Json → Prop) : Option ObjectModel → Option (Json → Prop)
  | none => none
  | some model => some (Form extra model)

def propertyForms (extra : Json → Prop) : List Property → List (Json → Prop)
  | [] => []
  | property :: properties => PropertyForm extra property :: propertyForms extra properties

end

theorem forms_eq_map (extra : Json → Prop) (models : List ObjectModel) :
    forms extra models = models.map (Form extra) := by
  induction models with
  | nil => rfl
  | cons model models ih => rw [forms, ih, List.map_cons]

theorem propertyForms_eq_map (extra : Json → Prop) (properties : List Property) :
    propertyForms extra properties = properties.map (PropertyForm extra) := by
  induction properties with
  | nil => rfl
  | cons property properties ih => rw [propertyForms, ih, List.map_cons]

theorem inlineForm_eq_map (extra : Json → Prop) (inlined : Option ObjectModel) :
    inlineForm extra inlined = inlined.map (Form extra) := by
  cases inlined <;> rfl

theorem inlineJson_eq_map (inlined : Option ObjectModel) :
    inlineJson inlined = inlined.map toJson := by
  cases inlined <;> rfl

/-! ### Induction -/

mutual

/-- What holds of an object whenever it holds of all nested and all inline objects in it, holds of
every object. -/
theorem induction {P : ObjectModel → Prop}
    (step : ∀ model : ObjectModel, (∀ nested ∈ model.nested, P nested) →
      (∀ property ∈ model.properties, ∀ inlined ∈ property.object, P inlined) → P model) :
    (model : ObjectModel) → P model
  | ⟨name, superName, interfaceNames, nested, properties, methods⟩ =>
    step ⟨name, superName, interfaceNames, nested, properties, methods⟩
      (induction_nested step nested) (induction_properties step properties)

theorem induction_nested {P : ObjectModel → Prop}
    (step : ∀ model : ObjectModel, (∀ nested ∈ model.nested, P nested) →
      (∀ property ∈ model.properties, ∀ inlined ∈ property.object, P inlined) → P model) :
    (models : List ObjectModel) → ∀ model ∈ models, P model
  | [] => fun _ member => absurd member List.not_mem_nil
  | model :: models =>
    List.forall_mem_cons.mpr ⟨induction step model, induction_nested step models⟩

theorem induction_properties {P : ObjectModel → Prop}
    (step : ∀ model : ObjectModel, (∀ nested ∈ model.nested, P nested) →
      (∀ property ∈ model.properties, ∀ inlined ∈ property.object, P inlined) → P model) :
    (properties : List Property) → ∀ property ∈ properties, ∀ inlined ∈ property.object, P inlined
  | [] => fun _ member => absurd member List.not_mem_nil
  | ⟨_, _, inlined, _, _, _⟩ :: properties =>
    List.forall_mem_cons.mpr ⟨induction_inline step inlined, induction_properties step properties⟩

theorem induction_inline {P : ObjectModel → Prop}
    (step : ∀ model : ObjectModel, (∀ nested ∈ model.nested, P nested) →
      (∀ property ∈ model.properties, ∀ inlined ∈ property.object, P inlined) → P model) :
    (inlined : Option ObjectModel) → ∀ model ∈ inlined, P model
  | none => fun _ member => nomatch member
  | some model => fun _ same => Option.some.inj same ▸ induction step model

end

end ObjectModel

def Property.Form (extra : Json → Prop) (property : Property) : Json → Prop :=
  ObjectModel.PropertyForm extra property

/-! ### Reading forms -/

theorem ModelArgument.parse_type (token : String) : parse (marker ++ token) = .type token := by
  have marked : (marker ++ token).toList = '<' :: 't' :: 'y' :: 'p' :: 'e' :: '>' :: token.toList :=
    String.toList_append
  unfold parse
  rw [marked]
  exact congrArg type String.ofList_toList

theorem ModelArgument.parse_literal {text : String} (plain : ¬marker.toList <+: text.toList) :
    parse text = .literal text := by
  unfold parse
  split
  next token marked => exact absurd ⟨token, marked.symm⟩ plain
  next => rfl

theorem ModelArgument.reads (argument : ModelArgument) (depth : Nat) :
    Reads ofJson? depth argument.Form argument := by
  intro json _ form
  cases argument with
  | literal text =>
    rcases form with rfl | ⟨plain, rfl⟩
    · rfl
    · exact congrArg some (parse_literal plain)
  | type token =>
    rcases form with rfl | rfl
    · rfl
    · exact congrArg some (parse_type token)

namespace MemberValue

variable (value : MemberValue) {found : List (String × Json)} {depth : Nat}

theorem ofFields?_of_accepts
    (accepts : ∀ field ∈ value.fieldForms, field.Accepts depth (found.lookup field.name)) :
    ofFields? found = some value := by
  simp only [fieldForms, List.forall_mem_cons] at accepts
  obtain ⟨format, arguments, -⟩ := accepts
  rw [ofFields?, required?_text format,
    default?_list (fun argument _ => argument.reads depth) arguments]
  rfl

theorem reads (depth : Nat) : Reads ofJson? depth value.Form value := by
  intro json shallow form
  obtain ⟨found, read, accepts⟩ := RecordForm.exists_fields? form (rfl : _ = fieldNames)
    (by decide) (Nat.le_succ_of_le shallow)
  rw [ofJson?, read]
  exact value.ofFields?_of_accepts accepts

end MemberValue

theorem ModelArgument.storable_form (argument : ModelArgument) : Storable argument.Form := by
  intro json form
  cases argument with
  | literal text => rcases form with rfl | ⟨_, rfl⟩ <;> rfl
  | type token => rcases form with rfl | rfl <;> rfl

namespace AnnotationMember

variable (member : AnnotationMember)

theorem storable_form {extra : Json → Prop} (storable : Storable extra) :
    Storable (member.Form extra) := by
  refine ObjectForm.storable ?_ storable
  simp only [MemberValue.fieldForms, List.forall_mem_cons]
  refine ⟨FieldForm.storable_text _ _, FieldForm.storable_text _ _,
    FieldForm.storable_list _ fun form inside => ?_, by simp⟩
  obtain ⟨argument, -, rfl⟩ := List.mem_map.mp inside
  exact argument.storable_form

theorem reads {extra : Json → Prop} (storable : Storable extra)
    (depth : Nat) : Reads ofJson? depth (member.Form extra) member := by
  intro json shallow form
  obtain ⟨found, read, accepts⟩ := ObjectForm.exists_fields? form
    (rfl : _ = "name" :: MemberValue.fieldNames) (by decide) (Nat.le_succ_of_le shallow)
  have object : json.isObject := by
    obtain ⟨_, _, _, rfl, -⟩ := form
    rfl
  obtain ⟨name, value⟩ := List.forall_mem_cons.mp accepts
  rw [ofJson?, object, member.storable_form storable json form, read, Bool.and_true, if_pos rfl,
    Option.bind_eq_bind, Option.bind_some, required?_text name,
    member.value.ofFields?_of_accepts value]
  rfl

end AnnotationMember

theorem AnnotationModel.reads (model : AnnotationModel) {extra : Json → Prop}
    (storable : Storable extra) (depth : Nat) :
    Reads ofJson? depth (model.Form extra) model := by
  intro json shallow form
  obtain ⟨found, read, accepts⟩ := RecordForm.exists_fields? form (rfl : _ = fieldNames)
    (by decide) (Nat.le_succ_of_le shallow)
  simp only [List.forall_mem_cons] at accepts
  obtain ⟨type, members, -⟩ := accepts
  rw [ofJson?, read, Option.bind_eq_bind, Option.bind_some, required?_text type,
    default?_list (fun member _ => member.reads storable depth) members]
  rfl

theorem ParameterModel.reads (parameter : ParameterModel) (depth : Nat) :
    Reads ofJson? depth parameter.Form parameter := by
  intro json shallow form
  obtain ⟨found, read, accepts⟩ := RecordForm.exists_fields? form (rfl : _ = fieldNames)
    (by decide) (Nat.le_succ_of_le shallow)
  simp only [List.forall_mem_cons] at accepts
  obtain ⟨name, type, -⟩ := accepts
  rw [ofJson?, read, Option.bind_eq_bind, Option.bind_some, required?_text name,
    required?_text type]
  rfl

theorem MethodModel.reads (method : MethodModel) (depth : Nat) :
    Reads ofJson? depth method.Form method := by
  intro json shallow form
  obtain ⟨found, read, accepts⟩ := RecordForm.exists_fields? form (rfl : _ = fieldNames)
    (by decide) (Nat.le_succ_of_le shallow)
  simp only [List.forall_mem_cons] at accepts
  obtain ⟨name, returnType, typeParameters, parameters, body, bodyArguments, -⟩ := accepts
  rw [ofJson?, read, Option.bind_eq_bind, Option.bind_some, required?_text name,
    required?_text returnType, default?_list (fun text _ => reads_text depth text) typeParameters,
    default?_list (fun parameter _ => parameter.reads depth) parameters, required?_text body,
    default?_list (fun argument _ => argument.reads depth) bodyArguments]
  rfl

namespace ObjectModel

variable {extra : Json → Prop} (storable : Storable extra)

include storable

theorem reads_property {readObject : Json → Option ObjectModel} (strict : readObject null = none)
    {depth : Nat} (property : Property)
    (readsInline : ∀ model ∈ property.object, Reads readObject depth (Form extra model) model) :
    Reads (readProperty? readObject) depth (PropertyForm extra property) property := by
  obtain ⟨name, type, inlined, required, serializedName, annotations⟩ := property
  intro json shallow form
  rw [PropertyForm, inlineForm_eq_map] at form
  obtain ⟨found, read, accepts⟩ := RecordForm.exists_fields? form (rfl : _ = propertyFieldNames)
    (by decide) (Nat.le_succ_of_le shallow)
  simp only [List.forall_mem_cons] at accepts
  obtain ⟨name, type, object, required, serializedName, annotations, -⟩ := accepts
  rw [readProperty?, read, Option.bind_eq_bind, Option.bind_some, required?_text name,
    default?_optional rfl (fun text _ => reads_text depth text) type,
    default?_optional strict readsInline object, default?_flag required,
    default?_optional rfl (fun text _ => reads_text depth text) serializedName,
    default?_list (fun model _ => model.reads storable depth) annotations]
  rfl

theorem reads (model : ObjectModel) :
    ∀ depth, Reads (read? depth) depth (Form extra model) model := by
  induction model using induction with
  | step model nested inlined =>
    obtain ⟨name, superName, interfaceNames, models, properties, methods⟩ := model
    intro depth json shallow form
    rw [Form, forms_eq_map, propertyForms_eq_map] at form
    cases depth with
    | zero =>
      have := form.depth_pos
      omega
    | succ depth =>
      -- What the fields hold is less deep, so the fuel that is left is enough for it.
      obtain ⟨found, read, accepts⟩ := RecordForm.exists_fields? form (rfl : _ = fieldNames)
        (by decide) shallow
      have strict : read? depth null = none := by cases depth <;> rfl
      simp only [List.forall_mem_cons] at accepts
      obtain ⟨name, superName, interfaceNames, models, properties, methods, -⟩ := accepts
      rw [read?, read, Option.bind_eq_bind, Option.bind_some,
        default?_optional rfl (fun text _ => reads_text depth text) name,
        default?_optional rfl (fun text _ => reads_text depth text) superName,
        default?_list (fun text _ => reads_text depth text) interfaceNames,
        default?_list (fun model member => nested model member depth) models,
        default?_list (fun property member => reads_property storable strict property
          fun model same => inlined property member model same depth) properties,
        default?_list (fun method _ => method.reads depth) methods]
      rfl

end ObjectModel

end ClassCompiler
