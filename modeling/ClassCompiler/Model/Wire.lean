import ClassCompiler.Json.Depth
import ClassCompiler.Json.Reader
import ClassCompiler.Json.Record
import ClassCompiler.Json.Storable
import ClassCompiler.Json.Writer
import ClassCompiler.Model.ObjectModel

/-! Models as JSON. Written forms list the fields in order of declaration and leave out absent
values and empty lists; readers take any record form. -/

namespace ClassCompiler
open Json

namespace ModelArgument

/-- A string is the plain form; an object names the kind of argument by its only key. -/
def ofJson? : Json → Option ModelArgument
  | .string text => some (parse text)
  | .object [("literal", .string text)] => some (.literal text)
  | .object [("type", .string token)] => some (.type token)
  | _ => none

def toJson : ModelArgument → Json
  | literal text => .object [("literal", .string text)]
  | type token => .object [("type", .string token)]

end ModelArgument

namespace MemberValue

def fieldNames : List String := ["format", "arguments"]

def ofFields? (fields : List (String × Json)) : Option MemberValue := do
  return {
    format := ← required? text? "format" fields
    arguments := ← default? [] (list? ModelArgument.ofJson?) "arguments" fields }

def ofJson? (json : Json) : Option MemberValue := do
  ofFields? (← json.fields? fieldNames)

def toMembers (value : MemberValue) : List (String × Json) :=
  ("format", .string value.format) ::
    listMember "arguments" ModelArgument.toJson value.arguments

def toJson (value : MemberValue) : Json := .object value.toMembers

end MemberValue

namespace AnnotationMember

/-- A member has the fields of its value beside its name. It is always an object, and all of it, read
or not, can be stored. -/
def ofJson? (json : Json) : Option AnnotationMember :=
  if json.isObject && json.isStorable then do
    let fields ← json.fields? ("name" :: MemberValue.fieldNames)
    return { name := ← required? text? "name" fields, value := ← MemberValue.ofFields? fields }
  else none

def toJson (member : AnnotationMember) : Json :=
  .object (("name", .string member.name) :: member.value.toMembers)

end AnnotationMember

namespace AnnotationModel

def fieldNames : List String := ["type", "members"]

def ofJson? (json : Json) : Option AnnotationModel := do
  let fields ← json.fields? fieldNames
  return {
    type := ← required? text? "type" fields
    members := ← default? [] (list? AnnotationMember.ofJson?) "members" fields }

def toJson (model : AnnotationModel) : Json :=
  .object (("type", .string model.type) ::
    listMember "members" AnnotationMember.toJson model.members)

end AnnotationModel

namespace ParameterModel

def fieldNames : List String := ["name", "type"]

def ofJson? (json : Json) : Option ParameterModel := do
  let fields ← json.fields? fieldNames
  return { name := ← required? text? "name" fields, type := ← required? text? "type" fields }

def toJson (parameter : ParameterModel) : Json :=
  .object [("name", .string parameter.name), ("type", .string parameter.type)]

end ParameterModel

namespace MethodModel

def fieldNames : List String :=
  ["name", "returnType", "typeParameters", "parameters", "body", "bodyArguments"]

def ofJson? (json : Json) : Option MethodModel := do
  let fields ← json.fields? fieldNames
  return {
    name := ← required? text? "name" fields
    returnType := ← required? text? "returnType" fields
    typeParameters := ← default? [] (list? text?) "typeParameters" fields
    parameters := ← default? [] (list? ParameterModel.ofJson?) "parameters" fields
    body := ← required? text? "body" fields
    bodyArguments := ← default? [] (list? ModelArgument.ofJson?) "bodyArguments" fields }

def toJson (method : MethodModel) : Json :=
  .object (
    [("name", .string method.name), ("returnType", .string method.returnType)] ++
    listMember "typeParameters" .string method.typeParameters ++
    listMember "parameters" ParameterModel.toJson method.parameters ++
    [("body", .string method.body)] ++
    listMember "bodyArguments" ModelArgument.toJson method.bodyArguments)

end MethodModel

namespace ObjectModel

def propertyFieldNames : List String :=
  ["name", "type", "object", "required", "serializedName", "annotations"]

def fieldNames : List String :=
  ["name", "superName", "interfaceNames", "nested", "properties", "methods"]

def readProperty? (readObject : Json → Option ObjectModel) (json : Json) : Option Property := do
  let fields ← json.fields? propertyFieldNames
  return {
    name := ← required? text? "name" fields
    type := ← default? none (optional? text?) "type" fields
    object := ← default? none (optional? readObject) "object" fields
    required := ← default? false bool? "required" fields
    serializedName := ← default? none (optional? text?) "serializedName" fields
    annotations := ← default? [] (list? AnnotationModel.ofJson?) "annotations" fields }

/-- Reads an object; one unit of fuel for each object around the one that is read. -/
def read? : Nat → Json → Option ObjectModel
  | 0, _ => none
  | fuel + 1, json => do
    let fields ← json.fields? fieldNames
    return {
      name := ← default? none (optional? text?) "name" fields
      superName := ← default? none (optional? text?) "superName" fields
      interfaceNames := ← default? [] (list? text?) "interfaceNames" fields
      nested := ← default? [] (list? (read? fuel)) "nested" fields
      properties := ← default? [] (list? (readProperty? (read? fuel))) "properties" fields
      methods := ← default? [] (list? MethodModel.ofJson?) "methods" fields }

/-- Objects inside an object lie deeper in the JSON, so the depth of the whole is fuel enough. -/
def ofJson? (json : Json) : Option ObjectModel := read? json.depth json

mutual

def toJson : ObjectModel → Json
  | ⟨name, superName, interfaceNames, nested, properties, methods⟩ =>
    .object (
      optionalMember "name" .string name ++
      optionalMember "superName" .string superName ++
      listMember "interfaceNames" .string interfaceNames ++
      listMember "nested" id (toJsons nested) ++
      listMember "properties" id (propertyJsons properties) ++
      listMember "methods" MethodModel.toJson methods)

def toJsons : List ObjectModel → List Json
  | [] => []
  | model :: models => toJson model :: toJsons models

def propertyJson : Property → Json
  | ⟨name, type, inlined, required, serializedName, annotations⟩ =>
    .object (
      [("name", .string name)] ++
      optionalMember "type" .string type ++
      optionalMember "object" id (inlineJson inlined) ++
      [("required", .bool required)] ++
      optionalMember "serializedName" .string serializedName ++
      listMember "annotations" AnnotationModel.toJson annotations)

def inlineJson : Option ObjectModel → Option Json
  | none => none
  | some model => some (toJson model)

def propertyJsons : List Property → List Json
  | [] => []
  | property :: properties => propertyJson property :: propertyJsons properties

end

theorem toJsons_eq_map (models : List ObjectModel) : toJsons models = models.map toJson := by
  induction models with
  | nil => rfl
  | cons model models ih => rw [toJsons, ih, List.map_cons]

theorem propertyJsons_eq_map (properties : List Property) :
    propertyJsons properties = properties.map propertyJson := by
  induction properties with
  | nil => rfl
  | cons property properties ih => rw [propertyJsons, ih, List.map_cons]

end ObjectModel

namespace Property

def ofJson? (json : Json) : Option Property :=
  ObjectModel.readProperty? (ObjectModel.read? json.depth) json

def toJson (property : Property) : Json := ObjectModel.propertyJson property

end Property

end ClassCompiler
