import ClassCompiler.Proofs.Capital
import ClassCompiler.Proofs.Cycles
import ClassCompiler.Proofs.Violations
import ClassCompiler.Proofs.Ways

/-! With scoped names, an inline object has a longer name than what it is in. So a model that passes
validation has no class that encloses itself, and no call is cyclic. -/

namespace ClassCompiler
open Text Compile

theorem nonempty_of_isIdentifier {name : String} (identifier : isIdentifier name = true) :
    0 < name.length := by
  obtain ⟨_, _, spelled, -⟩ := exists_of_isIdentifier identifier
  rw [← String.length_toList, spelled]
  exact Nat.succ_pos _

namespace Compiler

theorem simpleName_inlineClass (compiler : Compiler) (stem property : String) :
    (compiler.inlineClass stem property).simpleName = capitalize stem ++ capitalize property := by
  simp [inlineClass, Scope.classFor, Scope.generatedClass, ClassName.simpleName, String.join_cons]

def Outgrows (stem : String) (object : InlineObject) : Prop :=
  (capitalize stem).length < object.className.simpleName.length ∧
    ∃ owner, object.model.validate owner = .ok ()

section

variable {compiler : Compiler}

theorem length_lt_inlineClass {stem name : String} (identifier : isIdentifier name = true) :
    (capitalize stem).length < (compiler.inlineClass stem name).simpleName.length := by
  have nonempty : 0 < name.length := nonempty_of_isIdentifier identifier
  have grown := length_le_capitalize name
  rw [simpleName_inlineClass, String.length_append]
  omega

/-- No step on the way makes the name shorter, and the last one, the property, makes it longer. -/
theorem Inlined.outgrows (scopes : compiler.options.scopedPrefixes = true) {stem : String}
    {path : List String} {model : ObjectModel} {object : InlineObject}
    (way : compiler.Inlined stem path model object) (valid : model.WellFormed) :
    Outgrows stem object := by
  induction way with
  | nested member named way ih =>
    obtain ⟨-, inner, -⟩ := ObjectModel.wellFormed_iff.mp valid
    obtain ⟨longer, valid⟩ := ih (inner _ member)
    refine ⟨?_, valid⟩
    rw [nestedStem, if_pos scopes, capitalize_append_capitalize, String.length_append] at longer
    omega
  | @within stem _ _ _ property _ member inline way ih =>
    obtain ⟨sound, -, inside⟩ := ObjectModel.wellFormed_iff.mp valid
    obtain ⟨longer, valid⟩ := ih (inside _ member _ inline)
    have identifier := sound.properties.1.identifiers _ (List.mem_map_of_mem member)
    have own := @length_lt_inlineClass compiler stem _ identifier
    have kept := length_le_capitalize (compiler.inlineClass stem property.name).simpleName
    refine ⟨?_, valid⟩
    rw [inlineStem, if_pos scopes] at longer
    omega
  | property member inline =>
    obtain ⟨sound, -, inside⟩ := ObjectModel.wellFormed_iff.mp valid
    have identifier := sound.properties.1.identifiers _ (List.mem_map_of_mem member)
    refine ⟨length_lt_inlineClass identifier, "", ?_⟩
    exact ObjectModel.validate_eq_ok_iff.mpr (inside _ member _ inline)

theorem outgrows_of_mem (scopes : compiler.options.scopedPrefixes = true) {owner stem : String}
    {path : List String} {model : ObjectModel} (valid : model.validate owner = .ok ())
    {object : InlineObject} (member : object ∈ compiler.inlineObjects stem path model) :
    Outgrows stem object :=
  (inlined_of_mem model member).outgrows scopes (ObjectModel.validate_eq_ok_iff.mp valid)

theorem className_ne_of_inside (scopes : compiler.options.scopedPrefixes = true)
    {owner stem : String} {path : List String} {model : ObjectModel}
    (valid : model.validate owner = .ok ()) {outer object : InlineObject}
    (met : outer ∈ compiler.inlineObjects stem path model)
    (inside : object ∈ compiler.inside outer) : object.className ≠ outer.className := by
  obtain ⟨_, called, inner⟩ := outgrows_of_mem scopes valid met
  have longer := (outgrows_of_mem scopes inner inside).1
  have kept := length_le_capitalize outer.className.simpleName
  rw [inlineStem, if_pos scopes] at longer
  intro same
  rw [same] at longer
  omega

theorem valid_of_check {name : String} {model : ObjectModel}
    (validates : compiler.options.validates = true) (accepted : compiler.check name model = .ok ()) :
    model.validate name = .ok () := by
  rw [check, if_pos validates] at accepted
  split at accepted
  next =>
    cases valid : model.validate name with
    | ok => rfl
    | error violation =>
      rw [valid] at accepted
      cases accepted
  next => cases accepted

theorem accepted_of_cyclic {α : Type} {check : Except CompileError Unit} {action : Compile α}
    {registry : Registry} {name : ClassName} (acyclic : Acyclic check)
    (cyclic : ((liftM check >>= fun _ => action : Compile α).outcome registry).1 =
      .error (.cyclic name)) : check = .ok () := by
  cases check with
  | ok => rfl
  | error error => exact absurd (congrArg Except.error (Except.error.inj cyclic)) (acyclic name)

theorem fst_answer_error {α β : Type} {action : Compile α} {registry : Registry}
    {error : CompileError} (answer : α → β) (failed : (action.outcome registry).1 = .error error) :
    ((action >>= fun value => pure (answer value)).outcome registry).1 = .error error := by
  obtain ⟨after, failed⟩ := exists_after failed
  rw [outcome_bind, failed]

theorem not_enclosesItself (scopes : compiler.options.scopedPrefixes = true) {call : Call}
    {owner stem : String} {model : ObjectModel} (valid : model.validate owner = .ok ())
    (objects : call.objects compiler = compiler.inlineObjects stem [] model)
    (apart : ∀ object ∈ compiler.inlineObjects stem [] model, object.className ∉ call.top compiler)
    (name : ClassName) : ¬compiler.EnclosesItself call name := by
  rw [EnclosesItself, objects]
  rintro ⟨object, member, rfl, top | ⟨outer, met, same, inside⟩⟩
  · exact apart object member top
  · exact className_ne_of_inside scopes valid met inside same.symm

/-- With scoped names and validation, no model is cyclic, whatever names are repeated in it. -/
theorem scoped_calls_are_acyclic {registry : Registry} (reached : compiler.Reachable registry)
    (scopes : compiler.options.scopedPrefixes = true)
    (validates : compiler.options.validates = true) (name : String) (model : ObjectModel)
    (customize : ClassDef → ClassDef) :
    (∀ stem, Acyclic ((compiler.generate name model stem customize).outcome registry).1) ∧
      Acyclic ((compiler.register name model name customize).outcome registry).1 := by
  have acyclic := compiler.acyclic_check name model
  refine ⟨fun stem className cyclic => ?_, fun className cyclic => ?_⟩
  · have valid := valid_of_check validates (accepted_of_cyclic acyclic cyclic)
    have call : (((Call.generate name model stem customize).run compiler).outcome registry).1 =
      .error (.cyclic className) := fst_answer_error Sum.inl cyclic
    refine not_enclosesItself scopes valid rfl ?_ className (enclosesItself_of_cyclic reached call)
    exact fun _ _ => List.not_mem_nil
  · have valid := valid_of_check validates (accepted_of_cyclic acyclic cyclic)
    have call : (((Call.register name model name customize).run compiler).outcome registry).1 =
      .error (.cyclic className) := fst_answer_error Sum.inr cyclic
    refine not_enclosesItself scopes valid rfl ?_ className (enclosesItself_of_cyclic reached call)
    intro object member top
    have longer := (outgrows_of_mem scopes valid member).1
    have kept := length_le_capitalize name
    rw [List.mem_singleton.mp top] at longer
    change (capitalize name).length < name.length at longer
    omega

end

def repeatedTags : ObjectModel where
  nested := [{
    name := some "Tag"
    properties := [
      { name := "tag"
        object := some {
          properties := [
            { name := "tag"
              object := some { properties := [{ name := "tag", type := some "int" }] } }] } }] }]

def scopedTags : Compiler := { forPackage "p" with options := { scopedPrefixes := true } }

theorem repeated_tags_are_acyclic :
    (((forPackage "p").generate "Tag" repeatedTags "").outcome .empty).1 =
        .error (.cyclic ((forPackage "p").scope.generatedClass "Tag")) ∧
      ((scopedTags.register "Tag" repeatedTags "Tag").outcome .empty).2.names.map (·.outermost) =
        ["TagTagTagTag", "TagTagTag", "Tag"] ∧
      Acyclic ((scopedTags.generate "Tag" repeatedTags "").outcome .empty).1 ∧
      Acyclic ((scopedTags.register "Tag" repeatedTags "Tag").outcome .empty).1 := by
  have unscoped : (((forPackage "p").generate "Tag" repeatedTags "").outcome .empty).1 =
      .error (.cyclic ((forPackage "p").scope.generatedClass "Tag")) := by
    decide +kernel
  have registers : ((scopedTags.register "Tag" repeatedTags "Tag").outcome .empty).2.names.map
      (·.outermost) = ["TagTagTagTag", "TagTagTag", "Tag"] := by
    decide +kernel
  obtain ⟨generates, registered⟩ :=
    @scoped_calls_are_acyclic scopedTags .empty .empty rfl rfl "Tag" repeatedTags id
  exact ⟨unscoped, registers, generates "", registered⟩

end Compiler

end ClassCompiler
