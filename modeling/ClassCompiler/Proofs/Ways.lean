import ClassCompiler.Proofs.Handler

/-! The ways into a model. An inline object is reached through nested objects and properties, one
step after the other, and the names on the way decide on its class. -/

namespace ClassCompiler
namespace Compiler

/-- A way to an inline object. It goes through nested objects and through other inline objects, and
ends with the property that holds the object. -/
inductive Inlined (compiler : Compiler) : String → List String → ObjectModel → InlineObject → Prop
  | nested {stem name : String} {path : List String} {model inner : ObjectModel}
      {object : InlineObject} (member : inner ∈ model.nested) (named : inner.name = some name)
      (way : Inlined compiler (compiler.nestedStem stem name) (path ++ [name]) inner object) :
      Inlined compiler stem path model object
  | within {stem : String} {path : List String} {model inner : ObjectModel} {property : Property}
      {object : InlineObject} (member : property ∈ model.properties)
      (inline : property.object = some inner)
      (way : Inlined compiler (compiler.inlineStem (compiler.inlineClass stem property.name))
        (path ++ [property.name]) inner object) :
      Inlined compiler stem path model object
  | property {stem : String} {path : List String} {model inner : ObjectModel} {property : Property}
      (member : property ∈ model.properties) (inline : property.object = some inner) :
      Inlined compiler stem path model
        ⟨path ++ [property.name], compiler.inlineClass stem property.name, inner⟩

section

variable {compiler : Compiler} {object : InlineObject}

mutual

theorem inlined_of_mem {stem : String} {path : List String} :
    (model : ObjectModel) → object ∈ compiler.inlineObjects stem path model →
      compiler.Inlined stem path model object
  | ⟨_, _, _, nested, properties, _⟩, member => by
    rw [inlineObjects] at member
    rcases List.mem_append.mp member with inside | own
    · obtain ⟨inner, listed, name, named, way⟩ := inlined_of_mem_nested nested inside
      exact .nested listed named way
    · obtain ⟨property, listed, inner, inline, rfl | way⟩ := inlined_of_mem_properties properties own
      · exact .property listed inline
      · exact .within listed inline way

theorem inlined_of_mem_nested {stem : String} {path : List String} :
    (models : List ObjectModel) → object ∈ compiler.inlineNested stem path models →
      ∃ inner ∈ models, ∃ name, inner.name = some name ∧
        compiler.Inlined (compiler.nestedStem stem name) (path ++ [name]) inner object
  | [], member => by
    rw [inlineNested] at member
    exact absurd member List.not_mem_nil
  | model :: models, member => by
    rw [inlineNested] at member
    cases named : model.name with
    | none => simp [named] at member
    | some name =>
      simp only [named] at member
      rcases List.mem_append.mp member with first | later
      · exact ⟨model, List.mem_cons_self, name, named, inlined_of_mem model first⟩
      · obtain ⟨inner, listed, found⟩ := inlined_of_mem_nested models later
        exact ⟨inner, List.mem_cons_of_mem _ listed, found⟩

theorem inlined_of_mem_properties {stem : String} {path : List String} :
    (properties : List Property) → object ∈ compiler.inlineProperties stem path properties →
      ∃ property ∈ properties, ∃ inner, property.object = some inner ∧
        (object = ⟨path ++ [property.name], compiler.inlineClass stem property.name, inner⟩ ∨
          compiler.Inlined (compiler.inlineStem (compiler.inlineClass stem property.name))
            (path ++ [property.name]) inner object)
  | [], member => by
    rw [inlineProperties] at member
    exact absurd member List.not_mem_nil
  | property :: properties, member => by
    rw [inlineProperties] at member
    rcases List.mem_append.mp member with first | later
    · exact ⟨property, List.mem_cons_self, inlined_of_mem_property property first⟩
    · obtain ⟨other, listed, found⟩ := inlined_of_mem_properties properties later
      exact ⟨other, List.mem_cons_of_mem _ listed, found⟩

theorem inlined_of_mem_property {stem : String} {path : List String} :
    (property : Property) → object ∈ compiler.inlineProperty stem path property →
      ∃ inner, property.object = some inner ∧
        (object = ⟨path ++ [property.name], compiler.inlineClass stem property.name, inner⟩ ∨
          compiler.Inlined (compiler.inlineStem (compiler.inlineClass stem property.name))
            (path ++ [property.name]) inner object)
  | ⟨_, none, some inner, _, _, _⟩, member => by
    rw [inlineProperty] at member
    refine ⟨inner, rfl, ?_⟩
    rcases List.mem_append.mp member with inside | whole
    · exact .inr (inlined_of_mem inner inside)
    · exact .inl (List.mem_singleton.mp whole)
  | ⟨_, none, none, _, _, _⟩, member => by
    rw [inlineProperty] at member
    exact absurd member List.not_mem_nil
  | ⟨_, some _, _, _, _, _⟩, member => by
    rw [inlineProperty] at member
    exact absurd member List.not_mem_nil

end

end

end Compiler

end ClassCompiler
