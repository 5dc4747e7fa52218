import ClassCompiler.Proofs.References
import ClassCompiler.Proofs.ScopedNames
import Mathlib.Data.List.Induction

/-! Compiling along ways. With scoped names the compiler hands a stem from class to class, and makes
each name from the stem and the last step. The result is the same as if it knew the whole way to each
inline object and spelled it in one go. -/

namespace ClassCompiler
open Text Compile

theorem spelling_cons (step : String) (way : List String) :
    spelling (step :: way) = capitalize step ++ spelling way := by
  rw [spelling, List.map_cons, String.join_cons, spelling]

theorem spelling_nonempty (way : List String) : spelling (way.filter (· ≠ "")) = spelling way := by
  induction way with
  | nil => rfl
  | cons step way ih =>
    by_cases empty : step = ""
    · subst empty
      rw [List.filter_cons_of_neg (by simp), ih, spelling_cons, capitalize_empty,
        String.empty_append]
    · rw [List.filter_cons_of_pos (by simpa using empty), spelling_cons, ih, spelling_cons]

namespace Compiler

def wayClass (compiler : Compiler) (way : List String) : ClassName :=
  compiler.scope.generatedClass (spelling way)

section

variable {m : Type → Type} [Monad m]

mutual

/-- The body of a class at the end of a way, in the order of `bodyWith`. -/
def bodyAlong (handler : Handler m) (compiler : Compiler) (self : TypeName) (way : List String) :
    ObjectModel → m ClassBody
  | ⟨_, superName, interfaceNames, nested, properties, methods⟩ => do
    let superclass ← handler.step (compiler.optionalTypeName superName)
    let interfaces ← handler.step (compiler.typeNames interfaceNames)
    let nested ← nestedAlong handler compiler self way 0 nested
    let fields ← fieldsAlong handler compiler way properties
    let setters ← handler.step (compiler.setters self properties fields)
    let methods ← handler.step (compiler.methods methods)
    return { superclass, interfaces, nested, fields, methods := setters ++ methods }

def nestedAlong (handler : Handler m) (compiler : Compiler) (self : TypeName) (way : List String)
    (index : Nat) : List ObjectModel → m (List ClassDef)
  | [] => return []
  | model :: models => do
    let enclosing ← handler.step (enclosingClass self)
    match model.name with
    | none => handler.step (.error (.model (.missingName enclosing.simpleName index)))
    | some name =>
      let body ← bodyAlong handler compiler (.named (enclosing.nested name)) (way ++ [name]) model
      let more ← nestedAlong handler compiler self way (index + 1) models
      return (staticClass name).extend body :: more

def fieldsAlong (handler : Handler m) (compiler : Compiler) (way : List String) :
    List Property → m (List FieldDef)
  | [] => return []
  | property :: properties => do
    let type ← typeAlong handler compiler way property
    let field ← handler.step (compiler.field property type)
    return field :: (← fieldsAlong handler compiler way properties)

/-- The name of a property is a step. The class of its inline object spells the way up to it. -/
def typeAlong (handler : Handler m) (compiler : Compiler) (way : List String) :
    Property → m TypeName
  | ⟨_, some token, none, _, _, _⟩ => handler.step (compiler.typeName token)
  | ⟨name, none, some model, _, _, _⟩ => do
    let className := compiler.wayClass (way ++ [name])
    let head := publicClass className.simpleName
    handler.inline className do
      let body ← bodyAlong handler compiler (compiler.selfType head) (way ++ [name]) model
      return head.extend body
    return .named className
  | ⟨name, none, none, _, _, _⟩ => handler.step (.error (.model (.missingVariant name)))
  | ⟨name, some _, some _, _, _, _⟩ => handler.step (.error (.model (.conflictingVariants name)))

end

def classAlong (handler : Handler m) (compiler : Compiler) (head : ClassDef) (way : List String)
    (model : ObjectModel) : m ClassDef := do
  let body ← bodyAlong handler compiler (compiler.selfType head) way model
  return head.extend body

variable {handler : Handler m} {compiler : Compiler}

mutual

/-- A stem that spells the way stands for all of it. -/
theorem bodyWith_eq_along (scopes : compiler.options.scopedPrefixes = true) {self : TypeName}
    {stem : String} {way : List String} (spells : Spells stem way) : (model : ObjectModel) →
      bodyWith handler compiler self stem model = bodyAlong handler compiler self way model
  | ⟨_, _, _, nested, properties, _⟩ => by
    rw [bodyWith, bodyAlong, nestedWith_eq_along scopes spells nested,
      fieldsWith_eq_along scopes spells properties]

theorem nestedWith_eq_along (scopes : compiler.options.scopedPrefixes = true) {self : TypeName}
    {stem : String} {way : List String} {index : Nat} (spells : Spells stem way) :
    (models : List ObjectModel) → nestedWith handler compiler self stem index models =
      nestedAlong handler compiler self way index models
  | [] => by rw [nestedWith, nestedAlong]
  | model :: models => by
    rw [nestedWith, nestedAlong, nestedWith_eq_along scopes spells models]
    cases model.name with
    | none => rfl
    | some name => simp only [bodyWith_eq_along scopes (spells.nested scopes) model]

theorem fieldsWith_eq_along (scopes : compiler.options.scopedPrefixes = true) {stem : String}
    {way : List String} (spells : Spells stem way) : (properties : List Property) →
      fieldsWith handler compiler stem properties = fieldsAlong handler compiler way properties
  | [] => by rw [fieldsWith, fieldsAlong]
  | property :: properties => by
    rw [fieldsWith, fieldsAlong, typeWith_eq_along scopes spells property,
      fieldsWith_eq_along scopes spells properties]

theorem typeWith_eq_along (scopes : compiler.options.scopedPrefixes = true) {stem : String}
    {way : List String} (spells : Spells stem way) : (property : Property) →
      typeWith handler compiler stem property = typeAlong handler compiler way property
  | ⟨_, some _, none, _, _, _⟩ => by rw [typeWith, typeAlong]
  | ⟨name, none, some model, _, _, _⟩ => by
    rw [typeWith, typeAlong, bodyWith_eq_along scopes (spells.inline scopes) model,
      spells.inlineClass_eq]
    rfl
  | ⟨_, none, none, _, _, _⟩ => by rw [typeWith, typeAlong]
  | ⟨_, some _, some _, _, _, _⟩ => by rw [typeWith, typeAlong]

end

end

structure FieldAlong (compiler : Compiler) (classes : List ClassName) (way : List String)
    (property : Property) (field : FieldDef) : Prop where
  name : field.name = property.name
  type {model : ObjectModel} : property.object = some model →
    field.type = .named (compiler.wayClass (way ++ [property.name]))
  stored {model : ObjectModel} : property.object = some model →
    compiler.wayClass (way ++ [property.name]) ∈ classes

mutual

/-- Nested classes and fields for a model at the end of a way. The fields of all inline objects in
it, and in the objects nested in it, refer to the classes of their ways. -/
def RefersAlong (compiler : Compiler) (classes : List ClassName) (way : List String) :
    ObjectModel → List ClassDef → List FieldDef → Prop
  | ⟨_, _, _, nested, properties, _⟩, definitions, fields =>
    RefersAlongNested compiler classes way nested definitions ∧
      List.Forall₂ (compiler.FieldAlong classes way) properties fields

def RefersAlongNested (compiler : Compiler) (classes : List ClassName) (way : List String) :
    List ObjectModel → List ClassDef → Prop
  | [], definitions => definitions = []
  | model :: models, definitions =>
    ∃ definition more, definitions = definition :: more ∧ model.name = some definition.name ∧
      RefersAlong compiler classes (way ++ [definition.name]) model definition.nested
        definition.fields ∧ RefersAlongNested compiler classes way models more

end

section

variable {compiler : Compiler} {classes : List ClassName} {stem : String} {way : List String}

theorem fieldAlong_of_within (spells : Spells stem way) {property : Property} {field : FieldDef}
    (refers : compiler.FieldOf stem property field) (within : FieldWithin classes property field) :
    compiler.FieldAlong classes way property field where
  name := refers.name
  type inline := by
    rw [refers.type inline, spells.inlineClass_eq]
    rfl
  stored inline := by
    obtain ⟨className, member, same⟩ := within.type inline
    rw [refers.type inline, spells.inlineClass_eq] at same
    cases same
    exact member

mutual

theorem refersAlong_of_within (scopes : compiler.options.scopedPrefixes = true) {stem : String}
    {way : List String} (spells : Spells stem way) {definitions : List ClassDef}
    {fields : List FieldDef} : (model : ObjectModel) →
      compiler.Refers stem model definitions fields → Within classes model definitions fields →
        compiler.RefersAlong classes way model definitions fields
  | ⟨_, _, _, nested, properties, _⟩, refers, within => by
    rw [Refers] at refers
    rw [Within] at within
    rw [RefersAlong]
    refine ⟨refersAlongNested_of_within scopes spells nested refers.1 within.1, ?_⟩
    exact .mp (fun _ _ => fieldAlong_of_within spells) refers.2 within.2

theorem refersAlongNested_of_within (scopes : compiler.options.scopedPrefixes = true)
    {stem : String} {way : List String} (spells : Spells stem way) {definitions : List ClassDef} :
    (models : List ObjectModel) → compiler.RefersNested stem models definitions →
      NestedWithin classes models definitions →
        compiler.RefersAlongNested classes way models definitions
  | [], refers, _ => by
    rw [RefersNested] at refers
    rw [RefersAlongNested]
    exact refers
  | model :: models, refers, within => by
    rw [RefersNested] at refers
    rw [NestedWithin] at within
    rw [RefersAlongNested]
    obtain ⟨definition, more, rfl, named, first, rest⟩ := refers
    obtain ⟨_, _, same, -, inside, others⟩ := within
    cases same
    exact ⟨definition, more, rfl, named,
      refersAlong_of_within scopes (spells.nested scopes) model first inside,
      refersAlongNested_of_within scopes spells models rest others⟩

end

def MadeAlong (compiler : Compiler) (classes : List ClassName) (head : ClassDef) (way : List String)
    (model : ObjectModel) (definition : ClassDef) : Prop :=
  ∃ body, definition = head.extend body ∧
    compiler.RefersAlong classes way model body.nested body.fields

theorem madeAlong_of_outcome (scopes : compiler.options.scopedPrefixes = true)
    (spells : Spells stem way) {name : String} {model : ObjectModel}
    {customize : ClassDef → ClassDef} {registry after : Registry} {definition : ClassDef}
    (consistent : registry.Consistent)
    (ran : (compiler.buildClass name model stem customize).outcome registry =
      (.ok definition, after)) :
    compiler.MadeAlong after.names (customize (publicClass name)) way model definition := by
  obtain ⟨body, rfl, within⟩ := refersWithin_of_outcome consistent ran
  obtain ⟨other, compiled, last⟩ := exists_of_bind_eq_ok (standalone_of_outcome consistent ran)
  have same := Except.ok.inj last
  have nested : other.nested = body.nested :=
    List.append_cancel_left (congrArg ClassDef.nested same)
  have fields : other.fields = body.fields :=
    List.append_cancel_left (congrArg ClassDef.fields same)
  have refers := refers_of_naming model compiled
  rw [nested, fields] at refers
  exact ⟨body, rfl, refersAlong_of_within scopes spells model refers within⟩

theorem capitalize_spelling (way : List String) : capitalize (spelling way) = spelling way := by
  induction way using List.reverseRecOn with
  | nil => rfl
  | append_singleton way step ih =>
    rw [spelling_append, capitalize_append_capitalize, ih]

theorem Spells.inlineStem (scopes : compiler.options.scopedPrefixes = true) (way : List String) :
    Spells (compiler.inlineStem (compiler.wayClass way)) way := by
  rw [Spells, Compiler.inlineStem, if_pos scopes]
  exact capitalize_spelling way

theorem madeAlong_of_gives (scopes : compiler.options.scopedPrefixes = true) {source : Source}
    (spells : Spells source.stem way) {earlier : List (ClassName × ClassDef)}
    {entry : ClassName × ClassDef} (gives : source.Gives compiler earlier entry) :
    compiler.MadeAlong (earlier.map (·.1)) source.head way source.model entry.2 := by
  obtain ⟨-, before, after, consistent, ran, rfl⟩ := gives
  exact madeAlong_of_outcome scopes spells consistent ran

/-- What a call registers: the class that it is for, or the class of an inline object in its model,
under the spelling of the way to the object. -/
inductive RegistersAlong (compiler : Compiler) (classes : List ClassName) :
    Call → ClassName × ClassDef → Prop
  | whole {name stem : String} {model : ObjectModel} {customize : ClassDef → ClassDef}
      {definition : ClassDef}
      (made : compiler.MadeAlong classes (customize (publicClass name)) [stem] model definition) :
      RegistersAlong compiler classes (.register name model stem customize)
        (compiler.scope.generatedClass name, definition)
  | inline {call : Call} {object : InlineObject} {definition : ClassDef}
      (way : compiler.Inlined call.stem [] call.model object)
      (made : compiler.MadeAlong classes (publicClass (spelling (call.stem :: object.path)))
        (call.stem :: object.path) object.model definition) :
      RegistersAlong compiler classes call
        (compiler.wayClass (call.stem :: object.path), definition)

end

end Compiler

def Call.along (compiler : Compiler) : Call → Compile (ClassDef ⊕ ClassName)
  | .generate name model stem customize => do
    compiler.check name model
    let definition ← Registry.undoing (compiler.classAlong Compiler.registering
      (customize (Compiler.publicClass name)) [stem] model)
    return .inl definition
  | .register name model stem customize => do
    compiler.check name model
    let className := compiler.scope.generatedClass name
    let _ ← Registry.define className (compiler.classAlong Compiler.registering
      (customize (Compiler.publicClass name)) [stem] model)
    return .inr className

namespace Compiler

section

variable {compiler : Compiler}

theorem buildClass_eq_along (scopes : compiler.options.scopedPrefixes = true) (name stem : String)
    (model : ObjectModel) (customize : ClassDef → ClassDef) :
    compiler.buildClass name model stem customize =
      compiler.classAlong registering (customize (publicClass name)) [stem] model := by
  rw [buildClass_eq, classWith, classAlong, bodyWith_eq_along scopes (.start stem)]

theorem run_eq_along (scopes : compiler.options.scopedPrefixes = true) (call : Call) :
    call.run compiler = call.along compiler := by
  cases call with
  | generate name model stem customize =>
    simp only [Call.run, Call.along, generate, buildClass_eq_along scopes, bind_assoc]
  | register name model stem customize =>
    simp only [Call.run, Call.along, register, buildClass_eq_along scopes, bind_assoc, pure_bind]
    rfl

theorem registersAlong_of_gives (scopes : compiler.options.scopedPrefixes = true) {call : Call}
    {source : Source} (member : source ∈ call.sources compiler)
    {earlier : List (ClassName × ClassDef)} {entry : ClassName × ClassDef}
    (gives : source.Gives compiler earlier entry) :
    compiler.RegistersAlong (earlier.map (·.1)) call entry := by
  obtain ⟨className, definition⟩ := entry
  rcases Call.exists_of_mem_sources member with ⟨object, way, rfl⟩ | ⟨name, model, stem, _, rfl, rfl⟩
  · have spelled : object.className = compiler.wayClass (call.stem :: object.path) :=
      way.spelled scopes (.start call.stem)
    have spells : Spells (compiler.inlineStem object.className) (call.stem :: object.path) :=
      spelled ▸ .inlineStem scopes _
    have head : (Source.ofInline compiler object).head =
        publicClass (spelling (call.stem :: object.path)) := by
      show publicClass object.className.simpleName = _
      rw [spelled]
      rfl
    have made := head ▸ madeAlong_of_gives scopes spells gives
    obtain rfl : className = object.className := gives.1
    rw [spelled]
    exact .inline way made
  · obtain rfl : className = compiler.scope.generatedClass name := gives.1
    exact .whole (madeAlong_of_gives scopes (.start stem) gives)

/-- With scoped names, a call compiles as if it knew the whole way to each inline object: whatever
becomes of the call, each inline object that it reaches receives the class that spells the names on
the way, the stem of the call in front. When it succeeds, fields refer to inline objects by these
classes, in all classes that it hands back or registers, and in the classes nested in them; and what
it registers besides its own class are classes of ways. -/
theorem scoped_names_follow_ways (scopes : compiler.options.scopedPrefixes = true)
    {registry : Registry} (reached : compiler.Reachable registry) (call : Call) :
    (∀ way, compiler.wayClass (way.filter (· ≠ "")) = compiler.wayClass way) ∧
    call.run compiler = call.along compiler ∧
    ∀ answer after, (call.run compiler).outcome registry = (.ok answer, after) →
      (∀ definition, answer = .inl definition →
        compiler.MadeAlong after.names call.head [call.stem] call.model definition) ∧
      ∀ position entry, registry.size ≤ position → after.entries[position]? = some entry →
        compiler.RegistersAlong ((after.entries.take position).map (·.1)) call entry := by
  obtain ⟨consistent, -⟩ := reached.settled
  refine ⟨fun way => ?_, run_eq_along scopes call, fun answer after ran => ⟨?_, ?_⟩⟩
  · rw [wayClass, wayClass, spelling_nonempty]
  · rintro definition rfl
    cases call with
    | generate name model stem customize =>
      obtain ⟨made, _, done, last⟩ := outcome_bind_ok ran
      cases last
      exact madeAlong_of_outcome scopes (.start stem) consistent (built_of_generate consistent done)
    | register name model stem customize =>
      obtain ⟨_, _, -, last⟩ := outcome_bind_ok ran
      cases last
  · intro position entry new stored
    obtain ⟨source, member, gives⟩ :=
      (compiler.compiles_run call).adds consistent ran position entry new stored
    exact registersAlong_of_gives scopes member gives

end

def stockedShop : ObjectModel where
  nested := [{
    name := some "line"
    properties := [{
      name := "item"
      object := some {
        nested := [{
          name := some "box"
          properties := [{
            name := "size"
            object := some { properties := [{ name := "width", type := some "int" }] } }] }] } }] }]

def generatesStocked : Call := .generate "Shop" stockedShop "shop" id

theorem size_spells_its_way : ∃ definition after entry,
    (generatesStocked.run scopedShop).outcome .empty = (.ok (.inl definition), after) ∧
      (generatesStocked.along scopedShop).outcome .empty = (.ok (.inl definition), after) ∧
      after.names =
        [⟨"com.shop", "ShopLineItemBoxSize", []⟩, ⟨"com.shop", "ShopLineItem", []⟩] ∧
      scopedShop.MadeAlong after.names (publicClass "Shop") ["shop"] stockedShop definition ∧
      after.entries[0]? = some entry ∧
      entry.1 = scopedShop.wayClass ["shop", "line", "item", "box", "size"] ∧
      scopedShop.RegistersAlong [] generatesStocked entry := by
  have succeeds : ((generatesStocked.run scopedShop).outcome .empty).1.map Sum.isLeft =
      .ok true := by
    decide +kernel
  have names : ((generatesStocked.run scopedShop).outcome .empty).2.names =
      [⟨"com.shop", "ShopLineItemBoxSize", []⟩, ⟨"com.shop", "ShopLineItem", []⟩] := by
    decide +kernel
  have spelled : scopedShop.wayClass ["shop", "line", "item", "box", "size"] =
      ⟨"com.shop", "ShopLineItemBoxSize", []⟩ := by
    decide +kernel
  have scopes : scopedShop.options.scopedPrefixes = true := rfl
  obtain ⟨-, along, made⟩ := scoped_names_follow_ways scopes .empty generatesStocked
  cases ran : (generatesStocked.run scopedShop).outcome .empty with
  | mk result after =>
    rw [ran] at succeeds names
    rcases result with error | definition | className
    · cases succeeds
    · obtain ⟨answered, registered⟩ := made _ after ran
      obtain ⟨entry, more, entries, size, -⟩ := List.map_eq_cons_iff.mp names
      have stored : after.entries[0]? = some entry := by
        rw [entries]
        rfl
      exact ⟨definition, after, entry, rfl, along ▸ ran, names, answered definition rfl, stored,
        size.trans spelled.symm, registered 0 entry (Nat.zero_le 0) stored⟩
    · cases succeeds

end Compiler

end ClassCompiler
