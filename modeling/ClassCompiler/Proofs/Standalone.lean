import ClassCompiler.Proofs.Growth
import ClassCompiler.Proofs.Steps

/-! The definition that a model has by itself. Its inline objects are named and not compiled, so no
registry takes part; whatever registry a compilation starts with, the definition it succeeds with is
this one. -/

namespace ClassCompiler
open Compile

namespace Compiler

def naming : Handler (Except CompileError) where
  step result := result
  inline _ _ := .ok ()

def standalone (compiler : Compiler) (head : ClassDef) (stem : String) (model : ObjectModel) :
    Except CompileError ClassDef :=
  compiler.classWith naming head stem model

def Holds (compiler : Compiler) (object : InlineObject) (entry : ClassName × ClassDef) : Prop :=
  entry.1 = object.className ∧ compiler.inlineWith naming object = .ok entry.2

/-- A computation that succeeds gives what the one without a registry gives. -/
structure Settles {α : Type} (action : Compile α) (result : Except CompileError α) : Prop where
  growing : Growing action
  gives {registry after : Registry} {value : α} : registry.Consistent →
    action.outcome registry = (.ok value, after) → result = .ok value

theorem agreement_settles (compiler : Compiler) :
    Agreement compiler registering naming fun _ action result => Settles action result where
  pure value := ⟨.lift (.ok value), fun _ ran => congrArg Prod.fst ran⟩
  step _ := ⟨.lift _, fun _ ran => congrArg Prod.fst ran⟩
  bind := by
    intro α β _ _ action result next continued first rest
    refine ⟨first.growing.bind fun value => (rest value).growing, ?_⟩
    intro registry after value consistent ran
    obtain ⟨middle, reached, began, ended⟩ := outcome_bind_ok ran
    have grows := first.growing.grows consistent began
    rw [first.gives consistent began]
    exact (rest middle).gives grows.consistent ended
  inline _ settles := ⟨settles.growing.define.answer _, fun _ _ => rfl⟩

theorem standalone_of_outcome {compiler : Compiler} {name stem : String} {model : ObjectModel}
    {customize : ClassDef → ClassDef} {registry after : Registry} {definition : ClassDef}
    (consistent : registry.Consistent)
    (ran : (compiler.buildClass name model stem customize).outcome registry =
      (.ok definition, after)) :
    compiler.standalone (customize (publicClass name)) stem model = .ok definition := by
  rw [buildClass_eq] at ran
  exact ((agreement_settles compiler).definition _ stem [] model).gives consistent ran

structure FieldOf (compiler : Compiler) (stem : String) (property : Property)
    (field : FieldDef) : Prop where
  name : field.name = property.name
  type {model : ObjectModel} : property.object = some model →
    field.type = .named (compiler.inlineClass stem property.name)

mutual

/-- In nested classes and fields compiled from a model, the fields of all properties in it that have
inline objects name their classes. -/
def Refers (compiler : Compiler) (stem : String) :
    ObjectModel → List ClassDef → List FieldDef → Prop
  | ⟨_, _, _, nested, properties, _⟩, definitions, fields =>
    RefersNested compiler stem nested definitions ∧
      List.Forall₂ (compiler.FieldOf stem) properties fields

def RefersNested (compiler : Compiler) (stem : String) :
    List ObjectModel → List ClassDef → Prop
  | [], definitions => definitions = []
  | model :: models, definitions =>
    ∃ definition more, definitions = definition :: more ∧ model.name = some definition.name ∧
      Refers compiler (compiler.nestedStem stem definition.name) model definition.nested
        definition.fields ∧ RefersNested compiler stem models more

end

theorem field_ok {compiler : Compiler} {property : Property} {type : TypeName} {field : FieldDef}
    (compiled : compiler.field property type = .ok field) :
    field.type = type ∧ field.name = property.name := by
  unfold Compiler.field at compiled
  obtain ⟨wireName, _, rest⟩ := exists_of_bind_eq_ok compiled
  obtain ⟨others, _, last⟩ := exists_of_bind_eq_ok rest
  cases last
  exact ⟨rfl, rfl⟩

theorem type_of_object {compiler : Compiler} {stem : String} {property : Property}
    {type : TypeName} {model : ObjectModel} (inline : property.object = some model)
    (compiled : typeWith naming compiler stem property = .ok type) :
    type = .named (compiler.inlineClass stem property.name) := by
  obtain ⟨name, token, object, _, _, _⟩ := property
  obtain rfl : object = some model := inline
  cases token with
  | none =>
    rw [typeWith] at compiled
    cases compiled
    rfl
  | some token =>
    rw [typeWith] at compiled
    cases compiled

theorem fieldsOf_of_naming {compiler : Compiler} {stem : String} {properties : List Property}
    {fields : List FieldDef} (compiled : fieldsWith naming compiler stem properties = .ok fields) :
    List.Forall₂ (compiler.FieldOf stem) properties fields := by
  induction properties generalizing fields with
  | nil =>
    rw [fieldsWith] at compiled
    cases compiled
    exact .nil
  | cons property properties ih =>
    rw [fieldsWith] at compiled
    obtain ⟨type, typed, rest⟩ := exists_of_bind_eq_ok compiled
    obtain ⟨field, first, rest⟩ := exists_of_bind_eq_ok rest
    obtain ⟨others, later, last⟩ := exists_of_bind_eq_ok rest
    cases last
    obtain ⟨same, named⟩ := field_ok first
    exact .cons ⟨named, fun inline => same.trans (type_of_object inline typed)⟩ (ih later)

mutual

theorem refers_of_naming {compiler : Compiler} {self : TypeName} {stem : String}
    {body : ClassBody} : (model : ObjectModel) →
      bodyWith naming compiler self stem model = .ok body →
        Refers compiler stem model body.nested body.fields
  | ⟨_, _, _, nested, properties, _⟩, compiled => by
    rw [bodyWith] at compiled
    obtain ⟨superclass, _, rest⟩ := exists_of_bind_eq_ok compiled
    obtain ⟨interfaces, _, rest⟩ := exists_of_bind_eq_ok rest
    obtain ⟨definitions, inside, rest⟩ := exists_of_bind_eq_ok rest
    obtain ⟨fields, own, rest⟩ := exists_of_bind_eq_ok rest
    obtain ⟨setters, _, rest⟩ := exists_of_bind_eq_ok rest
    obtain ⟨methods, _, last⟩ := exists_of_bind_eq_ok rest
    cases last
    exact ⟨refersNested_of_naming nested inside, fieldsOf_of_naming own⟩

theorem refersNested_of_naming {compiler : Compiler} {self : TypeName} {stem : String}
    {index : Nat} {definitions : List ClassDef} : (models : List ObjectModel) →
      nestedWith naming compiler self stem index models = .ok definitions →
        RefersNested compiler stem models definitions
  | [], compiled => by
    rw [nestedWith] at compiled
    cases compiled
    rfl
  | model :: models, compiled => by
    rw [nestedWith] at compiled
    obtain ⟨enclosing, _, rest⟩ := exists_of_bind_eq_ok compiled
    cases named : model.name with
    | none => simp [named, naming] at rest
    | some name =>
      simp only [named] at rest
      obtain ⟨body, first, rest⟩ := exists_of_bind_eq_ok rest
      obtain ⟨more, later, last⟩ := exists_of_bind_eq_ok rest
      cases last
      exact ⟨_, more, rfl, named, refers_of_naming model first, refersNested_of_naming models later⟩

end

theorem refers_of_standalone {compiler : Compiler} {name stem : String} {model : ObjectModel}
    {definition : ClassDef}
    (own : compiler.standalone (publicClass name) stem model = .ok definition) :
    Refers compiler stem model definition.nested definition.fields := by
  obtain ⟨body, compiled, last⟩ := exists_of_bind_eq_ok own
  cases last
  exact refers_of_naming model compiled

end Compiler

end ClassCompiler
