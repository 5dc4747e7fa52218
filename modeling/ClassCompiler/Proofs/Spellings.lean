import ClassCompiler.Proofs.JsonText
import ClassCompiler.Proofs.ModelForms

/-! Models written as JSON and read again, from the form they are written in and from all others. -/

namespace ClassCompiler
open Json

/-! ### The written form -/

theorem ModelArgument.form_toJson (argument : ModelArgument) : argument.Form argument.toJson := by
  cases argument <;> exact .inl rfl

theorem MemberValue.given_toMembers (value : MemberValue) :
    Given value.fieldForms value.toMembers :=
  (Given.text "format" value.format).append
    (.list "arguments" fun argument _ => argument.form_toJson)

theorem MemberValue.form_toJson (value : MemberValue) : value.Form value.toJson :=
  .inl (value.given_toMembers.objectForm _)

theorem AnnotationMember.form_toJson (extra : Json → Prop) (member : AnnotationMember) :
    member.Form extra member.toJson :=
  ((Given.text "name" member.name).append member.value.given_toMembers).objectForm extra

theorem AnnotationModel.form_toJson (extra : Json → Prop) (model : AnnotationModel) :
    model.Form extra model.toJson :=
  .inl (((Given.text "type" model.type).append
    (.list "members" fun member _ => member.form_toJson extra)).objectForm _)

theorem ParameterModel.form_toJson (parameter : ParameterModel) :
    parameter.Form parameter.toJson :=
  .inl (((Given.text "name" parameter.name).append (.text "type" parameter.type)).objectForm _)

theorem MethodModel.form_toJson (method : MethodModel) : method.Form method.toJson := by
  have head := (Given.text "name" method.name).append (.text "returnType" method.returnType)
  have typeParameters := Given.texts "typeParameters" method.typeParameters
  have parameters := Given.list "parameters" fun parameter (_ : parameter ∈ method.parameters) =>
    parameter.form_toJson
  have body := Given.text "body" method.body
  have arguments := Given.list "bodyArguments" fun argument (_ : argument ∈ method.bodyArguments) =>
    argument.form_toJson
  exact .inl (((((head.append typeParameters).append parameters).append body).append
    arguments).objectForm _)

namespace ObjectModel

theorem form_propertyJson (extra : Json → Prop) (property : Property)
    (writesInline : ∀ model ∈ property.object, model.Form extra model.toJson) :
    PropertyForm extra property (propertyJson property) := by
  obtain ⟨name, type, inlined, required, serializedName, annotations⟩ := property
  rw [PropertyForm, propertyJson, inlineForm_eq_map, inlineJson_eq_map, optionalMember_map]
  have head := (Given.text "name" name).append (.optionalText "type" type)
  have object := Given.optional "object" writesInline
  have required := Given.flag "required" required
  have serializedName := Given.optionalText "serializedName" serializedName
  have annotations := Given.list "annotations" fun model (_ : model ∈ annotations) =>
    model.form_toJson extra
  exact .inl ((((head.append object).append required).append serializedName).append
    annotations |>.objectForm _)

theorem form_toJson (extra : Json → Prop) (model : ObjectModel) :
    model.Form extra model.toJson := by
  induction model using induction with
  | step model nested inlined =>
    obtain ⟨name, superName, interfaceNames, models, properties, methods⟩ := model
    rw [Form, toJson, forms_eq_map, propertyForms_eq_map, toJsons_eq_map, propertyJsons_eq_map,
      listMember_map, listMember_map]
    have head := (Given.optionalText "name" name).append (.optionalText "superName" superName)
    have interfaceNames := Given.texts "interfaceNames" interfaceNames
    have nested := Given.list "nested" nested
    have properties := Given.list "properties" fun property (member : property ∈ properties) =>
      form_propertyJson extra property (inlined property member)
    have methods := Given.list "methods" fun method (_ : method ∈ methods) => method.form_toJson
    exact .inl ((((head.append interfaceNames).append nested).append properties).append
      methods |>.objectForm _)

end ObjectModel

theorem Property.form_toJson (extra : Json → Prop) (property : Property) :
    property.Form extra property.toJson :=
  ObjectModel.form_propertyJson extra property fun model _ => model.form_toJson extra

/-! ### The text of the written form -/

section

variable {α : Type} (name : String) {write : α → Json}

theorem verbal_optionalMember {value : Option α} (verbal : ∀ v ∈ value, (write v).Verbal) :
    ∀ member ∈ optionalMember name write value, member.2.Verbal := by
  cases value with
  | none => simp [optionalMember]
  | some value => simpa [optionalMember] using verbal

theorem verbal_listMember {values : List α} (verbal : ∀ v ∈ values, (write v).Verbal) :
    ∀ member ∈ listMember name write values, member.2.Verbal := by
  cases values with
  | nil => simp [listMember]
  | cons value values =>
    show ∀ member ∈ [(name, array ((value :: values).map write))], member.2.Verbal
    exact List.forall_mem_singleton.mpr (.array (List.forall_mem_map.mpr verbal))

end

theorem ModelArgument.verbal (argument : ModelArgument) : argument.toJson.Verbal := by
  cases argument <;> exact .object (List.forall_mem_singleton.mpr (.string _))

theorem MemberValue.verbal_toMembers (value : MemberValue) :
    ∀ member ∈ value.toMembers, member.2.Verbal :=
  List.forall_mem_cons.mpr
    ⟨.string _, verbal_listMember "arguments" fun argument _ => argument.verbal⟩

theorem MemberValue.verbal (value : MemberValue) : value.toJson.Verbal :=
  .object value.verbal_toMembers

theorem AnnotationMember.verbal (member : AnnotationMember) : member.toJson.Verbal :=
  .object (List.forall_mem_cons.mpr ⟨.string _, member.value.verbal_toMembers⟩)

theorem AnnotationModel.verbal (model : AnnotationModel) : model.toJson.Verbal :=
  .object (List.forall_mem_cons.mpr
    ⟨.string _, verbal_listMember "members" fun member _ => member.verbal⟩)

theorem ParameterModel.verbal (parameter : ParameterModel) : parameter.toJson.Verbal :=
  .object (List.forall_mem_cons.mpr ⟨.string _, List.forall_mem_singleton.mpr (.string _)⟩)

theorem MethodModel.verbal (method : MethodModel) : method.toJson.Verbal := by
  have texts : ∀ member ∈ [("name", string method.name), ("returnType", string method.returnType)],
      member.2.Verbal := by
    simp [Verbal.string]
  have body : ∀ member ∈ [("body", string method.body)], member.2.Verbal :=
    List.forall_mem_singleton.mpr (.string _)
  have typeParameters := verbal_listMember "typeParameters" fun text
    (_ : text ∈ method.typeParameters) => .string text
  have parameters := verbal_listMember "parameters" fun parameter
    (_ : parameter ∈ method.parameters) => parameter.verbal
  have arguments := verbal_listMember "bodyArguments" fun argument
    (_ : argument ∈ method.bodyArguments) => argument.verbal
  refine .object ?_
  simp only [List.forall_mem_append]
  exact ⟨⟨⟨⟨texts, typeParameters⟩, parameters⟩, body⟩, arguments⟩

namespace ObjectModel

theorem verbal_propertyJson (property : Property)
    (verbalInline : ∀ model ∈ property.object, model.toJson.Verbal) :
    (propertyJson property).Verbal := by
  obtain ⟨name, type, inlined, required, serializedName, annotations⟩ := property
  have name : ∀ member ∈ [("name", string name)], member.2.Verbal :=
    List.forall_mem_singleton.mpr (.string _)
  have type := verbal_optionalMember "type" fun text (_ : text ∈ type) => .string text
  have object := verbal_optionalMember "object" verbalInline
  have required : ∀ member ∈ [("required", bool required)], member.2.Verbal :=
    List.forall_mem_singleton.mpr (.bool _)
  have serializedName := verbal_optionalMember "serializedName" fun text
    (_ : text ∈ serializedName) => .string text
  have annotations := verbal_listMember "annotations" fun model (_ : model ∈ annotations) =>
    model.verbal
  rw [propertyJson, inlineJson_eq_map, optionalMember_map]
  refine .object ?_
  simp only [List.forall_mem_append]
  exact ⟨⟨⟨⟨⟨name, type⟩, object⟩, required⟩, serializedName⟩, annotations⟩

theorem verbal (model : ObjectModel) : model.toJson.Verbal := by
  induction model using induction with
  | step model nested inlined =>
    obtain ⟨name, superName, interfaceNames, models, properties, methods⟩ := model
    have name := verbal_optionalMember "name" fun text (_ : text ∈ name) => .string text
    have superName := verbal_optionalMember "superName" fun text (_ : text ∈ superName) =>
      .string text
    have interfaceNames := verbal_listMember "interfaceNames" fun text
      (_ : text ∈ interfaceNames) => .string text
    have nested := verbal_listMember "nested" nested
    have properties := verbal_listMember "properties" fun property
      (member : property ∈ properties) => verbal_propertyJson property (inlined property member)
    have methods := verbal_listMember "methods" fun method (_ : method ∈ methods) => method.verbal
    rw [toJson, toJsons_eq_map, propertyJsons_eq_map, listMember_map, listMember_map]
    refine .object ?_
    simp only [List.forall_mem_append]
    exact ⟨⟨⟨⟨⟨name, superName⟩, interfaceNames⟩, nested⟩, properties⟩, methods⟩

end ObjectModel

theorem Property.verbal (property : Property) : property.toJson.Verbal :=
  ObjectModel.verbal_propertyJson property fun model _ => model.verbal

/-! ### Reading -/

theorem ObjectModel.ofJson?_of_form {extra : Json → Prop} (storable : Storable extra)
    {model : ObjectModel} {json : Json} (form : model.Form extra json) :
    ofJson? json = some model :=
  model.reads storable json.depth json (Nat.le_refl _) form

theorem Property.ofJson?_of_form {extra : Json → Prop} (storable : Storable extra)
    {property : Property} {json : Json} (form : property.Form extra json) :
    ofJson? json = some property :=
  ObjectModel.reads_property storable (by cases json.depth <;> rfl) property
    (fun model _ => model.reads storable json.depth) json (Nat.le_refl _) form

theorem read?_write_bind {α : Type} {read : Json → Option α} {value : α} {json : Json}
    (verbal : json.Verbal) (known : read json = some value) :
    (Json.read? json.write).bind read = some value := by
  rw [read?_write verbal]
  exact known

/-- Every part of a model is read from the text that it is written in. -/
theorem models_are_read_from_their_texts :
    (∀ model : ObjectModel,
      (Json.read? model.toJson.write).bind ObjectModel.ofJson? = some model) ∧
    (∀ property : Property,
      (Json.read? property.toJson.write).bind Property.ofJson? = some property) ∧
    (∀ model : AnnotationModel,
      (Json.read? model.toJson.write).bind AnnotationModel.ofJson? = some model) ∧
    (∀ member : AnnotationMember,
      (Json.read? member.toJson.write).bind AnnotationMember.ofJson? = some member) ∧
    (∀ value : MemberValue,
      (Json.read? value.toJson.write).bind MemberValue.ofJson? = some value) ∧
    (∀ method : MethodModel,
      (Json.read? method.toJson.write).bind MethodModel.ofJson? = some method) ∧
    (∀ parameter : ParameterModel,
      (Json.read? parameter.toJson.write).bind ParameterModel.ofJson? = some parameter) ∧
    (∀ argument : ModelArgument,
      (Json.read? argument.toJson.write).bind ModelArgument.ofJson? = some argument) ∧
    ∀ token : String,
      (Json.read? (ModelArgument.literal (ModelArgument.marker ++ token)).toJson.write).bind
        ModelArgument.ofJson? = some (.literal (ModelArgument.marker ++ token)) := by
  have storable : Storable (fun _ => False) := fun _ none => none.elim
  refine ⟨fun model => ?_, fun property => ?_, fun model => ?_, fun member => ?_, fun value => ?_,
    fun method => ?_, fun parameter => ?_, fun argument => ?_, fun token => ?_⟩
  · exact read?_write_bind model.verbal (ObjectModel.ofJson?_of_form storable (model.form_toJson _))
  · exact read?_write_bind property.verbal
      (Property.ofJson?_of_form storable (property.form_toJson _))
  · exact read?_write_bind model.verbal
      (model.reads storable _ _ (Nat.le_refl _) (model.form_toJson _))
  · exact read?_write_bind member.verbal
      (member.reads storable _ _ (Nat.le_refl _) (member.form_toJson _))
  · exact read?_write_bind value.verbal (value.reads _ _ (Nat.le_refl _) value.form_toJson)
  · exact read?_write_bind method.verbal (method.reads _ _ (Nat.le_refl _) method.form_toJson)
  · exact read?_write_bind parameter.verbal
      (parameter.reads _ _ (Nat.le_refl _) parameter.form_toJson)
  · exact read?_write_bind argument.verbal
      (argument.reads _ _ (Nat.le_refl _) argument.form_toJson)
  · exact read?_write_bind (ModelArgument.literal _).verbal rfl

/-- Written arguments name their kind, so the marker is no part of the text here. -/
example : (Json.read? "\x7b\"literal\":\"<type>a\"\x7d").bind ModelArgument.ofJson? =
    some (.literal "<type>a") := by decide +kernel

/-- A model is read from its written form and from all its other forms, as long as what annotation
members hold besides their fields can be stored. -/
theorem models_are_read_from_their_forms (model : ObjectModel) :
    model.Form (·.isStorable) model.toJson ∧
      ∀ json, model.Form (·.isStorable) json → ObjectModel.ofJson? json = some model :=
  ⟨model.form_toJson _, fun _ form => ObjectModel.ofJson?_of_form (fun _ storable => storable) form⟩

/-- The shop is the array of its first fields. The members of its property and of the annotation's
member come in reverse order behind an unknown one, and the arguments are plain strings. Only the
number outside of the annotation is too large for a double. -/
theorem listed_shop_is_read :
    let member : AnnotationMember :=
      ⟨"max", { format := "$T$S", arguments := [.type "Shop", .literal "m"] }⟩
    let note : AnnotationModel := ⟨"Size", [member]⟩
    let property : Property := { name := "size", annotations := [note] }
    let model : ObjectModel := { name := some "Shop", properties := [property] }
    let memberFields : List (String × Json) := [("name", string "max"), ("format", string "$T$S"),
      ("arguments", array [string "<type>Shop", string "m"])]
    let noteJson : Json :=
      array [string "Size", array [object (("y", number "1e99") :: memberFields.reverse)]]
    let propertyFields : List (String × Json) :=
      [("name", string "size"), ("annotations", array [noteJson])]
    let json : Json := array [string "Shop", null, array [], array [],
      array [object (("x", number "1e999") :: propertyFields.reverse)]]
    model.Form (·.isStorable) json ∧ ObjectModel.ofJson? json = some model := by
  intro member note property model memberFields noteJson propertyFields json
  have memberForm : member.Form (·.isStorable)
      (object (("y", number "1e99") :: memberFields.reverse)) := by
    have arguments : ListForm (member.value.arguments.map ModelArgument.Form)
        (array [string "<type>Shop", string "m"]) :=
      ⟨_, rfl, .cons (.inr rfl) (.cons (.inr ⟨by decide, rfl⟩) .nil)⟩
    have given : Given (.text "name" "max" :: member.value.fieldForms) memberFields :=
      .given rfl (.given rfl (.given arguments .nil))
    refine ⟨_, _, [("y", number "1e99")], rfl, ?_, given, ?_⟩
    · exact List.reverse_perm (memberFields ++ [("y", number "1e99")])
    · exact List.forall_mem_singleton.mpr ⟨by decide, by decide +kernel⟩
  have noteForm : note.Form (·.isStorable) noteJson :=
    .inr ⟨_, rfl, .given rfl (.given (ListForm.singleton memberForm) (.omitted (by simp)))⟩
  have propertyForm : property.Form (·.isStorable)
      (object (("x", number "1e999") :: propertyFields.reverse)) := by
    refine .inl ⟨_, propertyFields, [("x", number "1e999")], rfl, ?_, ?_, ?_⟩
    · exact List.reverse_perm (propertyFields ++ [("x", number "1e999")])
    · exact .given rfl (.omitted rfl (.omitted rfl (.omitted rfl (.omitted rfl
        (.given (ListForm.singleton noteForm) .nil)))))
    · exact List.forall_mem_singleton.mpr ⟨by decide, trivial⟩
  have form : model.Form (·.isStorable) json := by
    refine .inr ⟨_, rfl, ?_⟩
    exact .given rfl (.given rfl (.given ListForm.empty (.given ListForm.empty
      (.given (ListForm.singleton propertyForm)
        (.omitted (List.forall_mem_singleton.mpr rfl))))))
  exact ⟨form, (models_are_read_from_their_forms model).2 json form⟩

/-- A number that no double can hold keeps an annotation member from being read, although no field
has its name. -/
theorem unread_number_is_in_the_way :
    let member : AnnotationMember := ⟨"n", { format := "f" }⟩
    let note : AnnotationModel := ⟨"A", [member]⟩
    let property : Property := { name := "p", annotations := [note] }
    let model : ObjectModel := { properties := [property] }
    let memberJson : Json :=
      object [("name", string "n"), ("format", string "f"), ("x", number "1e999")]
    let noteJson : Json := object [("type", string "A"), ("members", array [memberJson])]
    let propertyJson : Json :=
      object [("name", string "p"), ("annotations", array [noteJson])]
    let json : Json := object [("properties", array [propertyJson])]
    model.Form (fun _ => True) json ∧ ObjectModel.ofJson? json = none := by
  intro member note property model memberJson noteJson propertyJson json
  have memberForm : member.Form (fun _ => True) memberJson := by
    refine ⟨_, [("name", string "n"), ("format", string "f")], [("x", number "1e999")], rfl,
      .refl _, .given rfl (.given rfl (.omitted rfl .nil)), ?_⟩
    exact List.forall_mem_singleton.mpr ⟨by decide, trivial⟩
  have noteForm : note.Form (fun _ => True) noteJson :=
    .inl (Given.objectForm (.given rfl (.given (ListForm.singleton memberForm) .nil)) _)
  have propertyForm : property.Form (fun _ => True) propertyJson :=
    .inl (Given.objectForm (.given rfl (.omitted rfl (.omitted rfl (.omitted rfl (.omitted rfl
      (.given (ListForm.singleton noteForm) .nil)))))) _)
  have form : model.Form (fun _ => True) json :=
    .inl (Given.objectForm (.omitted rfl (.omitted rfl (.omitted rfl (.omitted rfl
      (.given (ListForm.singleton propertyForm) (.omitted rfl .nil)))))) _)
  exact ⟨form, by decide +kernel⟩

end ClassCompiler
