import ClassCompiler.Compiler.Generate
import ClassCompiler.Proofs.Steps

/-! The compilation of a model, with the treatment of inline objects left open. A handler says how
single steps fail and what becomes of an inline object; the registry is one handler. Two handlers
that agree on the parts of a compilation, in whatever sense, agree on all of it. -/

namespace ClassCompiler

/-- How to run a compilation in `m`. An inline object is given by its class and the computation of
its definition. -/
structure Handler (m : Type → Type) where
  step {α : Type} : Except CompileError α → m α
  inline : ClassName → m ClassDef → m Unit

/-- An inline object in a model: the names on the way to it, of nested objects and of properties,
the class it receives, and what it is a model of. -/
structure InlineObject where
  path : List String
  className : ClassName
  model : ObjectModel

namespace Compiler

section

variable {m : Type → Type} [Monad m]

mutual

def bodyWith (handler : Handler m) (compiler : Compiler) (self : TypeName) (stem : String) :
    ObjectModel → m ClassBody
  | ⟨_, superName, interfaceNames, nested, properties, methods⟩ => do
    let superclass ← handler.step (compiler.optionalTypeName superName)
    let interfaces ← handler.step (compiler.typeNames interfaceNames)
    let nested ← nestedWith handler compiler self stem 0 nested
    let fields ← fieldsWith handler compiler stem properties
    let setters ← handler.step (compiler.setters self properties fields)
    let methods ← handler.step (compiler.methods methods)
    return { superclass, interfaces, nested, fields, methods := setters ++ methods }

def nestedWith (handler : Handler m) (compiler : Compiler) (self : TypeName) (stem : String)
    (index : Nat) : List ObjectModel → m (List ClassDef)
  | [] => return []
  | model :: models => do
    let enclosing ← handler.step (enclosingClass self)
    match model.name with
    | none => handler.step (.error (.model (.missingName enclosing.simpleName index)))
    | some name =>
      let body ←
        bodyWith handler compiler (.named (enclosing.nested name)) (compiler.nestedStem stem name) model
      let more ← nestedWith handler compiler self stem (index + 1) models
      return (staticClass name).extend body :: more

def fieldsWith (handler : Handler m) (compiler : Compiler) (stem : String) :
    List Property → m (List FieldDef)
  | [] => return []
  | property :: properties => do
    let type ← typeWith handler compiler stem property
    let field ← handler.step (compiler.field property type)
    return field :: (← fieldsWith handler compiler stem properties)

def typeWith (handler : Handler m) (compiler : Compiler) (stem : String) : Property → m TypeName
  | ⟨_, some token, none, _, _, _⟩ => handler.step (compiler.typeName token)
  | ⟨name, none, some model, _, _, _⟩ => do
    let inlineName := compiler.inlineClass stem name
    let head := publicClass inlineName.simpleName
    handler.inline inlineName do
      let body ←
        bodyWith handler compiler (compiler.selfType head) (compiler.inlineStem inlineName) model
      return head.extend body
    return .named inlineName
  | ⟨name, none, none, _, _, _⟩ => handler.step (.error (.model (.missingVariant name)))
  | ⟨name, some _, some _, _, _, _⟩ => handler.step (.error (.model (.conflictingVariants name)))

end

def classWith (handler : Handler m) (compiler : Compiler) (head : ClassDef) (stem : String)
    (model : ObjectModel) : m ClassDef := do
  let body ← bodyWith handler compiler (compiler.selfType head) stem model
  return head.extend body

def inlineWith (handler : Handler m) (compiler : Compiler) (object : InlineObject) : m ClassDef :=
  classWith handler compiler (publicClass object.className.simpleName)
    (compiler.inlineStem object.className) object.model

end

mutual

/-- The inline objects of a model in the order in which their definitions are finished: those of
nested objects before those of properties, and the inline objects of an inline object before it. -/
def inlineObjects (compiler : Compiler) (stem : String) (path : List String) :
    ObjectModel → List InlineObject
  | ⟨_, _, _, nested, properties, _⟩ =>
    inlineNested compiler stem path nested ++ inlineProperties compiler stem path properties

def inlineNested (compiler : Compiler) (stem : String) (path : List String) :
    List ObjectModel → List InlineObject
  | [] => []
  | model :: models =>
    match model.name with
    | none => []
    | some name =>
      inlineObjects compiler (compiler.nestedStem stem name) (path ++ [name]) model ++
        inlineNested compiler stem path models

def inlineProperties (compiler : Compiler) (stem : String) (path : List String) :
    List Property → List InlineObject
  | [] => []
  | property :: properties =>
    inlineProperty compiler stem path property ++ inlineProperties compiler stem path properties

def inlineProperty (compiler : Compiler) (stem : String) (path : List String) :
    Property → List InlineObject
  | ⟨name, none, some model, _, _, _⟩ =>
    let className := compiler.inlineClass stem name
    inlineObjects compiler (compiler.inlineStem className) (path ++ [name]) model ++
      [⟨path ++ [name], className, model⟩]
  | ⟨_, none, none, _, _, _⟩ => []
  | ⟨_, some _, _, _, _, _⟩ => []

end

def inside (compiler : Compiler) (object : InlineObject) : List InlineObject :=
  compiler.inlineObjects (compiler.inlineStem object.className) object.path object.model

/-- A relation between computations under two handlers that all parts of a compilation have. It may
depend on the inline objects that are met on the way. -/
structure Agreement {m n : Type → Type} [Monad m] [Monad n] (compiler : Compiler)
    (first : Handler m) (second : Handler n)
    (agree : ∀ {α : Type}, List InlineObject → m α → n α → Prop) : Prop where
  pure {α : Type} (value : α) : agree [] (pure value) (pure value)
  step {α : Type} {result : Except CompileError α} (acyclic : Acyclic result) :
    agree [] (first.step result) (second.step result)
  bind {α β : Type} {met more : List InlineObject} {left : m α} {right : n α}
    {left' : α → m β} {right' : α → n β} : agree met left right →
      (∀ value, agree more (left' value) (right' value)) →
      agree (met ++ more) (left >>= left') (right >>= right')
  inline (object : InlineObject) :
    agree (compiler.inside object) (compiler.inlineWith first object)
        (compiler.inlineWith second object) →
      agree (compiler.inside object ++ [object])
        (first.inline object.className (compiler.inlineWith first object))
        (second.inline object.className (compiler.inlineWith second object))

namespace Agreement

variable {m n : Type → Type} [Monad m] [Monad n] {compiler : Compiler} {first : Handler m}
  {second : Handler n} {agree : ∀ {α : Type}, List InlineObject → m α → n α → Prop}

theorem stepThen {α β : Type} (agreement : Agreement compiler first second agree)
    {result : Except CompileError α} (acyclic : Acyclic result) {met : List InlineObject}
    {left : α → m β} {right : α → n β} (rest : ∀ value, agree met (left value) (right value)) :
    agree met (first.step result >>= left) (second.step result >>= right) :=
  agreement.bind (agreement.step acyclic) rest

theorem thenPure {α β : Type} (agreement : Agreement compiler first second agree)
    {met : List InlineObject} {left : m α} {right : n α} (before : agree met left right)
    (answer : α → β) :
    agree met (left >>= fun value => Pure.pure (answer value))
      (right >>= fun value => Pure.pure (answer value)) := by
  simpa using agreement.bind before fun value => agreement.pure (answer value)

mutual

theorem body (agreement : Agreement compiler first second agree) (self : TypeName) (stem : String)
    (path : List String) :
    (model : ObjectModel) → agree (compiler.inlineObjects stem path model)
      (bodyWith first compiler self stem model) (bodyWith second compiler self stem model)
  | ⟨_, _, _, nested, properties, _⟩ => by
    rw [bodyWith, bodyWith, inlineObjects]
    refine agreement.stepThen (Textual.optionalTypeName compiler _).acyclic fun _ => ?_
    refine agreement.stepThen (Textual.typeNames compiler _).acyclic fun _ => ?_
    refine agreement.bind (agreement.nested self stem path 0 nested) fun _ => ?_
    rw [← List.append_nil (inlineProperties ..)]
    refine agreement.bind (agreement.fields stem path properties) fun _ => ?_
    refine agreement.stepThen (Textual.setters compiler self _ _).acyclic fun _ => ?_
    exact agreement.thenPure (agreement.step (Textual.methods compiler _).acyclic) _

theorem nested (agreement : Agreement compiler first second agree) (self : TypeName)
    (stem : String) (path : List String) (index : Nat) :
    (models : List ObjectModel) → agree (compiler.inlineNested stem path models)
      (nestedWith first compiler self stem index models)
      (nestedWith second compiler self stem index models)
  | [] => by
    rw [nestedWith, nestedWith, inlineNested]
    exact agreement.pure _
  | model :: models => by
    rw [nestedWith, nestedWith, inlineNested]
    refine agreement.stepThen (.enclosingClass self) fun enclosing => ?_
    cases named : model.name with
    | none => exact agreement.step (.model _)
    | some name =>
      refine agreement.bind (agreement.body _ _ (path ++ [name]) model) fun _ => ?_
      exact agreement.thenPure (agreement.nested self stem path _ models) _

theorem fields (agreement : Agreement compiler first second agree) (stem : String)
    (path : List String) :
    (properties : List Property) → agree (compiler.inlineProperties stem path properties)
      (fieldsWith first compiler stem properties) (fieldsWith second compiler stem properties)
  | [] => by
    rw [fieldsWith, fieldsWith, inlineProperties]
    exact agreement.pure _
  | property :: properties => by
    rw [fieldsWith, fieldsWith, inlineProperties]
    refine agreement.bind (agreement.type stem path property) fun _ => ?_
    refine agreement.stepThen (Textual.field compiler property _).acyclic fun _ => ?_
    exact agreement.thenPure (agreement.fields stem path properties) _

theorem type (agreement : Agreement compiler first second agree) (stem : String)
    (path : List String) :
    (property : Property) → agree (compiler.inlineProperty stem path property)
      (typeWith first compiler stem property) (typeWith second compiler stem property)
  | ⟨_, some token, none, _, _, _⟩ => by
    rw [typeWith, typeWith, inlineProperty]
    exact agreement.step (Textual.typeName compiler token).acyclic
  | ⟨name, none, some model, _, _, _⟩ => by
    rw [typeWith, typeWith, inlineProperty]
    refine agreement.thenPure (agreement.inline ⟨path ++ [name], _, model⟩ ?_) _
    exact agreement.thenPure (agreement.body _ _ (path ++ [name]) model) _
  | ⟨_, none, none, _, _, _⟩ => by
    rw [typeWith, typeWith, inlineProperty]
    exact agreement.step (.model _)
  | ⟨_, some _, some _, _, _, _⟩ => by
    rw [typeWith, typeWith, inlineProperty]
    exact agreement.step (.model _)

end

theorem definition (agreement : Agreement compiler first second agree) (head : ClassDef)
    (stem : String) (path : List String) (model : ObjectModel) :
    agree (compiler.inlineObjects stem path model) (compiler.classWith first head stem model)
      (compiler.classWith second head stem model) :=
  agreement.thenPure (agreement.body _ stem path model) _

end Agreement

def registering : Handler Compile where
  step result := liftM result
  inline name build := do
    let _ ← Registry.define name build

mutual

theorem classBody_eq (compiler : Compiler) (self : TypeName) (stem : String) :
    (model : ObjectModel) →
      classBody compiler self stem model = bodyWith registering compiler self stem model
  | ⟨_, _, _, nested, properties, _⟩ => by
    rw [classBody, bodyWith, ← fieldsOf_eq compiler stem properties,
      ← nestedClasses_eq compiler self stem 0 nested]
    rfl

theorem nestedClasses_eq (compiler : Compiler) (self : TypeName) (stem : String) (index : Nat) :
    (models : List ObjectModel) → nestedClasses compiler self stem index models =
      nestedWith registering compiler self stem index models
  | [] => by rw [nestedClasses, nestedWith]
  | model :: models => by
    rw [nestedClasses, nestedWith, ← nestedClasses_eq compiler self stem (index + 1) models]
    refine bind_congr fun enclosing => ?_
    cases model.name with
    | none => rfl
    | some name => simp only [classBody_eq compiler _ _ model]

theorem fieldsOf_eq (compiler : Compiler) (stem : String) :
    (properties : List Property) →
      fieldsOf compiler stem properties = fieldsWith registering compiler stem properties
  | [] => by rw [fieldsOf, fieldsWith]
  | property :: properties => by
    rw [fieldsOf, fieldsWith, ← propertyType_eq compiler stem property,
      ← fieldsOf_eq compiler stem properties]
    rfl

theorem propertyType_eq (compiler : Compiler) (stem : String) :
    (property : Property) →
      propertyType compiler stem property = typeWith registering compiler stem property
  | ⟨_, some _, none, _, _, _⟩ => by
    rw [propertyType, typeWith]
    rfl
  | ⟨name, none, some model, _, _, _⟩ => by
    rw [propertyType, typeWith]
    simp only [registering, classBody_eq compiler _ _ model, bind_assoc, pure_bind]
  | ⟨_, none, none, _, _, _⟩ => by
    rw [propertyType, typeWith]
    rfl
  | ⟨_, some _, some _, _, _, _⟩ => by
    rw [propertyType, typeWith]
    rfl

end

theorem buildClass_eq (compiler : Compiler) (name : String) (model : ObjectModel) (stem : String)
    (customize : ClassDef → ClassDef) : compiler.buildClass name model stem customize =
      compiler.classWith registering (customize (publicClass name)) stem model := by
  rw [buildClass, classBody_eq, classWith]

end Compiler

end ClassCompiler
