import ClassCompiler.Proofs.CapitalIdentifiers
import ClassCompiler.Proofs.Clashes
import ClassCompiler.Proofs.ScopedCycles
import ClassCompiler.Proofs.ScopedNames

/-! Names that are derived from the names in a model: those of setters, and of the classes of inline
objects. Capitalizing is all that can make an identifier something else. -/

namespace ClassCompiler
open Text Compile

def SetterNamed (property : Property) (setter : MethodDef) : Prop :=
  setter.name = "set" ++ capitalize property.name ∧
    (isIdentifier setter.name = true ↔ startsMarked property.name = false)

mutual

/-- Behind what its head has, the class has a setter for each property of the object and a class for
each object that is nested in it. -/
def HasSetters : ObjectModel → ClassDef → Prop
  | ⟨_, _, _, nested, properties, _⟩, definition =>
    (∃ others setters declared, definition.methods = others ++ (setters ++ declared) ∧
      List.Forall₂ SetterNamed properties setters) ∧
    ∃ others inner, definition.nested = others ++ inner ∧ HaveSetters nested inner

def HaveSetters : List ObjectModel → List ClassDef → Prop
  | [], definitions => definitions = []
  | model :: models, definitions => ∃ first more, definitions = first :: more ∧
      HasSetters model first ∧ HaveSetters models more

end

namespace Compiler

variable {compiler : Compiler}

/-- The names that the class of an inline object is put together from: those on the way to it. With
plain prefixes it is only the last one, and the name at the top where the way has one step. -/
def fragments (compiler : Compiler) (top : String) (path : List String) : List String :=
  if compiler.options.scopedPrefixes ∨ path.length = 1 then top :: path else path.getLast?.toList

/-! ### Setters -/

theorem setters_named {self : TypeName} {stem : String} {properties : List Property}
    {fields : List FieldDef} {setters : List MethodDef}
    (prefixed : compiler.options.setterPrefix = "set")
    (identifiers : ∀ property ∈ properties, isIdentifier property.name = true)
    (shapes : List.Forall₂ (FieldShape compiler stem) properties fields)
    (sets : List.Forall₂ (fun pair => SetterShape compiler self pair.1 pair.2)
      (properties.zip fields) setters) : List.Forall₂ SetterNamed properties setters := by
  induction shapes generalizing setters with
  | nil =>
    cases sets
    exact .nil
  | cons shape rest ih =>
    rw [List.forall_mem_cons] at identifiers
    cases sets with
    | cons first others =>
      obtain ⟨named, -⟩ := first
      rw [prefixed] at named
      refine .cons ⟨named, ?_⟩ (ih identifiers.2 others)
      rw [named]
      exact isIdentifier_set_capitalize_iff identifiers.1

mutual

theorem hasSetters_of_shaped (prefixed : compiler.options.setterPrefix = "set") {self : TypeName}
    {stem : String} {body : ClassBody} (head : ClassDef) : (model : ObjectModel) →
      model.WellFormed → Shaped compiler self stem model body → HasSetters model (head.extend body)
  | ⟨_, _, _, nested, properties, _⟩, valid, shaped => by
    obtain ⟨sound, inner, -⟩ := ObjectModel.wellFormed_iff.mp valid
    rw [Shaped] at shaped
    obtain ⟨-, -, fields, ⟨setters, declared, methods, sets, -⟩, inside⟩ := shaped
    have identifiers : ∀ property ∈ properties, isIdentifier property.name = true :=
      fun property member => sound.properties.1.identifiers _ (List.mem_map_of_mem member)
    rw [HasSetters]
    refine ⟨⟨head.methods, setters, declared, ?_, setters_named prefixed identifiers fields sets⟩,
      head.nested, body.nested, rfl, haveSetters_of_shaped prefixed nested inner inside⟩
    rw [← methods]
    rfl

theorem haveSetters_of_shaped (prefixed : compiler.options.setterPrefix = "set") {self : TypeName}
    {stem : String} {definitions : List ClassDef} : (models : List ObjectModel) →
      (∀ inner ∈ models, inner.WellFormed) → ShapedNested compiler self stem models definitions →
        HaveSetters models definitions
  | [], _, shaped => by
    rw [ShapedNested] at shaped
    rwa [HaveSetters]
  | model :: models, valid, shaped => by
    rw [List.forall_mem_cons] at valid
    rw [ShapedNested] at shaped
    obtain ⟨name, enclosing, body, more, -, -, rfl, own, rest⟩ := shaped
    rw [HaveSetters]
    exact ⟨_, more, rfl, hasSetters_of_shaped prefixed _ model valid.1 own,
      haveSetters_of_shaped prefixed models valid.2 rest⟩

end

theorem hasSetters_of_classShape (prefixed : compiler.options.setterPrefix = "set")
    {head definition : ClassDef} {stem : String} {model : ObjectModel} (valid : model.WellFormed)
    (shape : ClassShape compiler head stem model definition) : HasSetters model definition := by
  obtain ⟨body, rfl, shaped⟩ := shape
  exact hasSetters_of_shaped prefixed head model valid shaped

/-! ### Classes of inline objects -/

theorem Inlined.exists_last {stem : String} {path : List String} {model : ObjectModel}
    {object : InlineObject} (way : compiler.Inlined stem path model object) :
    ∃ before name, object.path = path ++ before ++ [name] ∧
      (compiler.options.scopedPrefixes = false →
        object.className = compiler.inlineClass (if before = [] then stem else "") name) := by
  induction way with
  | @nested stem step path _ _ _ member named way ih =>
    obtain ⟨before, name, there, spelled⟩ := ih
    refine ⟨step :: before, name, by rw [there]; simp, fun plain => ?_⟩
    simpa [nestedStem, plain] using spelled plain
  | @within stem path _ _ property _ member inline way ih =>
    obtain ⟨before, name, there, spelled⟩ := ih
    refine ⟨property.name :: before, name, by rw [there]; simp, fun plain => ?_⟩
    simpa [inlineStem, plain] using spelled plain
  | @property stem path _ _ property member inline =>
    exact ⟨[], property.name, by simp, fun _ => by simp⟩

theorem fragments_unscoped (plain : compiler.options.scopedPrefixes = false) (top name : String)
    (before : List String) : compiler.fragments top (before ++ [name]) =
      if before = [] then [top, name] else [name] := by
  cases before with
  | nil => simp [fragments]
  | cons step before =>
    have last : (step :: before ++ [name]).getLast? = some name := List.getLast?_concat
    rw [fragments, if_neg (by simp [plain]), last, if_neg (List.cons_ne_nil _ _), Option.toList]

theorem Inlined.spells_fragments {top : String} {model : ObjectModel} {object : InlineObject}
    (way : compiler.Inlined top [] model object) :
    object.className.simpleName = spelling (compiler.fragments top object.path) := by
  cases scopes : compiler.options.scopedPrefixes with
  | true =>
    rw [way.spelled scopes (.start top), fragments, if_pos (.inl scopes)]
    rfl
  | false =>
    obtain ⟨before, name, there, spelled⟩ := way.exists_last
    rw [spelled scopes, simpleName_inlineClass, there, List.nil_append, fragments_unscoped scopes]
    split
    next => simp [spelling, String.join_cons]
    next => simp [spelling, capitalize_empty, String.join_cons]

theorem Inlined.identifiers {stem : String} {path : List String} {model : ObjectModel}
    {object : InlineObject} (way : compiler.Inlined stem path model object)
    (valid : model.WellFormed) (before : ∀ step ∈ path, isIdentifier step = true) :
    ∀ step ∈ object.path, isIdentifier step = true := by
  have longer {path : List String} {name : String}
      (before : ∀ step ∈ path, isIdentifier step = true) (next : isIdentifier name = true) :
      ∀ step ∈ path ++ [name], isIdentifier step = true := by
    rw [List.forall_mem_append, List.forall_mem_singleton]
    exact ⟨before, next⟩
  have property_named {model : ObjectModel} {property : Property} (valid : model.WellFormed)
      (member : property ∈ model.properties) : isIdentifier property.name = true :=
    (ObjectModel.wellFormed_iff.mp valid).1.properties.1.identifiers _ (List.mem_map_of_mem member)
  induction way with
  | nested member named way ih =>
    obtain ⟨sound, inner, -⟩ := ObjectModel.wellFormed_iff.mp valid
    obtain ⟨names, same, declares⟩ := sound.nested
    have listed := List.mem_map_of_mem (f := ObjectModel.name) member
    rw [same, named] at listed
    obtain ⟨name, inside, called⟩ := List.mem_map.mp listed
    obtain rfl := Option.some.inj called
    exact ih (inner _ member) (longer before (declares.identifiers name inside))
  | within member inline way ih =>
    obtain ⟨-, -, inner⟩ := ObjectModel.wellFormed_iff.mp valid
    exact ih (inner _ member _ inline) (longer before (property_named valid member))
  | property member inline => exact longer before (property_named valid member)

theorem fragments_ne_nil {path : List String} (some : path ≠ []) (top : String) :
    compiler.fragments top path ≠ [] := by
  rw [fragments]
  split
  next => exact List.cons_ne_nil _ _
  next => simpa using some

theorem mem_of_mem_fragments {path : List String} {top name : String}
    (member : name ∈ compiler.fragments top path) : name = top ∨ name ∈ path := by
  rw [fragments] at member
  split at member
  next => exact List.mem_cons.mp member
  next => exact .inr (List.mem_of_getLast? (Option.mem_toList.mp member))

theorem Inlined.isIdentifier_iff {top : String} {model : ObjectModel} {object : InlineObject}
    (way : compiler.Inlined top [] model object) (valid : model.WellFormed)
    (named : isIdentifier top = true) : isIdentifier object.className.simpleName = true ↔
      ∀ name ∈ compiler.fragments top object.path, startsMarked name = false := by
  have some : object.path ≠ [] := by
    obtain ⟨before, name, there, -⟩ := way.exists_last
    simp [there]
  rw [way.spells_fragments]
  refine isIdentifier_join_iff (fragments_ne_nil some top) fun name member => ?_
  rcases mem_of_mem_fragments member with rfl | inside
  · exact named
  · exact way.identifiers valid (List.forall_mem_nil _) name inside

/-- After a call for a valid model, with an identifier for its name and its stem: a setter is named by
an identifier unless the name of its property begins with a marked letter, and the class of an inline
object unless one of the names does that it is put together from. These are all the classes that were
registered, but for that of the call itself. -/
theorem derived_names_are_identifiers {registry after : Registry}
    (reached : compiler.Reachable registry)
    {call : Call} (stem : call.stem = call.name) (prefixed : compiler.options.setterPrefix = "set")
    (named : isIdentifier call.name = true) (valid : call.model.validate call.name = .ok ())
    {answer : ClassDef ⊕ ClassName}
    (ran : (call.run compiler).outcome registry = (.ok answer, after)) :
    (∀ object, compiler.Inlined call.name [] call.model object →
      object.className.simpleName = spelling (compiler.fragments call.name object.path) ∧
      (isIdentifier object.className.simpleName = true ↔
        ∀ name ∈ compiler.fragments call.name object.path, startsMarked name = false)) ∧
    (∀ definition, answer = .inl definition → HasSetters call.model definition) ∧
    ∀ position entry, registry.size ≤ position → after.entries[position]? = some entry →
      (∃ object, compiler.Inlined call.name [] call.model object ∧
        entry.1 = object.className ∧ HasSetters object.model entry.2) ∨
      entry.1 = compiler.scope.generatedClass call.name ∧ HasSetters call.model entry.2 := by
  have wellFormed := ObjectModel.validate_eq_ok_iff.mp valid
  obtain ⟨answered, added⟩ := generated_classes_are_shaped reached ran
  refine ⟨fun object way => ⟨way.spells_fragments, way.isIdentifier_iff wellFormed named⟩, ?_, ?_⟩
  · rintro definition rfl
    cases call with
    | generate name model stem customize => exact hasSetters_of_classShape prefixed wellFormed answered
    | register name model stem customize => exact absurd answered not_false
  · intro position entry new stored
    obtain ⟨source, member, gives, shape⟩ := added position entry new stored
    rcases call.exists_of_mem_sources member with ⟨object, way, rfl⟩ |
      ⟨name, model, stem, customize, rfl, rfl⟩
    · rw [stem] at way
      have inside : object.model.WellFormed := fun other contained =>
        wellFormed other (way.contains.trans contained)
      exact .inl ⟨object, way, gives.1, hasSetters_of_classShape prefixed inside shape⟩
    · exact .inr ⟨gives.1, hasSetters_of_classShape prefixed wellFormed shape⟩

/-- The name of the property begins with a small j with a caron, which has no capital of its own. -/
def caronWidget : ObjectModel where
  properties := [
    { name := "\u01F0"
      object := some { properties := [{ name := "v", type := some "int" }] } }]

def generatesCaron : Call := .generate "Widget" caronWidget "Widget" id

theorem caron_is_generated : ∃ definition after,
    (generatesCaron.run (forPackage "com.shop")).outcome .empty = (.ok (.inl definition), after) ∧
      definition.methods.map (·.name) = ["setJ\u030C"] ∧
      after.names.map (·.simpleName) = ["WidgetJ\u030C"] := by
  have methods : (((generatesCaron.run (forPackage "com.shop")).outcome .empty).1.toOption.bind
      Sum.getLeft?).map (fun definition => definition.methods.map (·.name)) =
        some ["setJ\u030C"] := by
    decide +kernel
  have classes : ((generatesCaron.run (forPackage "com.shop")).outcome .empty).2.names.map
      (·.simpleName) = ["WidgetJ\u030C"] := by
    decide +kernel
  generalize (generatesCaron.run (forPackage "com.shop")).outcome .empty = ran at *
  obtain ⟨result, after⟩ := ran
  rcases result with error | definition | name
  · cases methods
  · exact ⟨definition, after, rfl, Option.some.inj methods, classes⟩
  · cases methods

theorem caron_spoils_class_name : ∃ definition after,
    (generatesCaron.run (forPackage "com.shop")).outcome .empty = (.ok (.inl definition), after) ∧
      HasSetters caronWidget definition ∧
      ∃ object, (forPackage "com.shop").Inlined "Widget" [] caronWidget object ∧
        object.path = ["\u01F0"] ∧ ¬isIdentifier object.className.simpleName = true := by
  obtain ⟨definition, after, ran, -⟩ := caron_is_generated
  have named : isIdentifier generatesCaron.name = true := by decide +kernel
  have valid : generatesCaron.model.validate generatesCaron.name = .ok () := by decide +kernel
  obtain ⟨classes, setters, -⟩ := derived_names_are_identifiers .empty rfl rfl named valid ran
  have way : (forPackage "com.shop").Inlined "Widget" [] caronWidget _ :=
    .property List.mem_cons_self rfl
  refine ⟨definition, after, ran, setters definition rfl, _, way, rfl, fun identifier => ?_⟩
  have unmarked := (classes _ way).2.mp identifier "\u01F0" (by decide)
  have marked : startsMarked "\u01F0" = true := by decide +kernel
  rw [unmarked] at marked
  cases marked

theorem caron_names_are_no_identifiers :
    caronWidget.validate "Widget" = .ok () ∧ isIdentifier "Widget" = true ∧
      generatesCaron.name = "Widget" ∧ generatesCaron.stem = "Widget" ∧
      (forPackage "com.shop").options = {} ∧ ∃ definition after,
        (generatesCaron.run (forPackage "com.shop")).outcome .empty =
          (.ok (.inl definition), after) ∧
        (∃ method ∈ definition.methods, isIdentifier method.name = false) ∧
        ∃ name ∈ after.names, isIdentifier name.simpleName = false := by
  obtain ⟨definition, after, ran, methods, classes⟩ := caron_is_generated
  refine ⟨by decide +kernel, by decide +kernel, rfl, rfl, rfl, definition, after, ran, ?_, ?_⟩
  · obtain ⟨method, rest, listed, same, -⟩ := List.map_eq_cons_iff.mp methods
    refine ⟨method, listed ▸ List.mem_cons_self, ?_⟩
    rw [same]
    decide +kernel
  · obtain ⟨name, rest, listed, same, -⟩ := List.map_eq_cons_iff.mp classes
    refine ⟨name, listed ▸ List.mem_cons_self, ?_⟩
    rw [same]
    decide +kernel

end Compiler

end ClassCompiler
