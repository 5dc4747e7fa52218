import ClassCompiler.Proofs.Capital
import ClassCompiler.Proofs.Expansion
import ClassCompiler.Proofs.Ways
import Mathlib.Data.List.Perm.Subperm
import Mathlib.Tactic.TFAE

/-! Scoped names of inline objects. The name of the class of an inline object spells the whole way
to it: every step is capitalized, and nothing is put between the steps. So inline objects are kept
apart as far as the spellings of their ways are, and no further. -/

namespace ClassCompiler
open Text Compile

def spelling (way : List String) : String := String.join (way.map capitalize)

theorem spelling_append (way : List String) (step : String) :
    spelling (way ++ [step]) = spelling way ++ capitalize step := by
  simp [spelling, String.join_append, String.join_cons]

namespace Compiler

/-- What the stem adds to a name is the spelling of a way. -/
def Spells (stem : String) (way : List String) : Prop := capitalize stem = spelling way

namespace Spells

variable {compiler : Compiler} {stem name : String} {way : List String}

theorem start (name : String) : Spells name [name] := by
  simp [Spells, spelling, String.join_cons]

theorem inlineClass_eq (spells : Spells stem way) :
    compiler.inlineClass stem name = compiler.scope.generatedClass (spelling (way ++ [name])) := by
  rw [spelling_append, ← spells]
  simp [inlineClass, Scope.classFor, String.join_cons]

theorem nested (scopes : compiler.options.scopedPrefixes = true) (spells : Spells stem way) :
    Spells (compiler.nestedStem stem name) (way ++ [name]) := by
  rw [Spells, nestedStem, if_pos scopes, capitalize_append_capitalize, spells, spelling_append]

theorem inline (scopes : compiler.options.scopedPrefixes = true) (spells : Spells stem way) :
    Spells (compiler.inlineStem (compiler.inlineClass stem name)) (way ++ [name]) := by
  have simple : (compiler.inlineClass stem name).simpleName = spelling (way ++ [name]) := by
    rw [spells.inlineClass_eq]
    rfl
  rw [Spells, inlineStem, if_pos scopes, simple, spelling_append, capitalize_append_capitalize,
    ← spells, capitalize_capitalize]

end Spells

def Spelled (compiler : Compiler) (top : String) (object : InlineObject) : Prop :=
  object.className = compiler.scope.generatedClass (spelling (top :: object.path))

theorem Inlined.spelled {compiler : Compiler} (scopes : compiler.options.scopedPrefixes = true)
    {top stem : String} {path : List String} {model : ObjectModel} {object : InlineObject}
    (way : compiler.Inlined stem path model object) (spells : Spells stem (top :: path)) :
    compiler.Spelled top object := by
  induction way with
  | nested _ _ _ ih => exact ih (spells.nested scopes)
  | within _ _ _ ih => exact ih (spells.inline scopes)
  | property => exact spells.inlineClass_eq

/-- The entry is for the inline object: it is registered under its class, holds the definition that
the object has by itself, and refers to the inline objects inside. -/
structure Represents (compiler : Compiler) (object : InlineObject)
    (entry : ClassName × ClassDef) : Prop where
  holds : compiler.Holds object entry
  refers : compiler.Refers (compiler.inlineStem object.className) object.model entry.2.nested
    entry.2.fields

theorem Holds.represents {compiler : Compiler} {object : InlineObject}
    {entry : ClassName × ClassDef} (holds : compiler.Holds object entry) :
    compiler.Represents object entry :=
  ⟨holds, refers_of_standalone holds.2⟩

section

variable {compiler : Compiler} {name stem : String} {model : ObjectModel}
  {customize : ClassDef → ClassDef} {definition : ClassDef} {registry : Registry}

theorem represents_of_nodup (done : (compiler.buildClass name model stem customize).outcome .empty =
      (.ok definition, registry))
    (distinct : ((compiler.inlineObjects stem [] model).map (·.className)).Nodup) :
    List.Forall₂ compiler.Represents (compiler.inlineObjects stem [] model) registry.entries := by
  have follows := (agreement_follows compiler).definition (customize (publicClass name)) stem [] model
  have holds := (agreement_holds compiler).definition (customize (publicClass name)) stem [] model
  have unclaimed : Unclaimed .empty (compiler.inlineObjects stem [] model) :=
    ⟨distinct, fun _ _ => List.not_mem_nil, fun _ _ => List.not_mem_nil⟩
  rw [buildClass_eq] at done
  cases expanded : compiler.expand (customize (publicClass name)) stem model with
  | error error =>
    obtain ⟨_, failed⟩ := follows.fails .empty unclaimed expanded
    simp [failed] at done
  | ok result =>
    obtain ⟨own, classes⟩ := result
    rw [follows.succeeds .empty unclaimed expanded] at done
    obtain ⟨-, rfl⟩ := Prod.mk.inj done
    exact (holds own classes expanded).2.imp fun _ _ => Holds.represents

theorem nodup_of_size (done : (compiler.buildClass name model stem customize).outcome .empty =
      (.ok definition, registry))
    (size : registry.size = (compiler.inlineObjects stem [] model).length) :
    ((compiler.inlineObjects stem [] model).map (·.className)).Nodup := by
  have registers := Registers.buildClass compiler name model stem customize
  have distinct := (registers.growing.grows .empty done).consistent.distinct
  have within : registry.names ⊆ (compiler.inlineObjects stem [] model).map (·.className) := by
    intro className member
    have names := registers.names .empty className
    rw [done] at names
    obtain ⟨object, inside, rfl⟩ := (names member).resolve_left List.not_mem_nil
    exact List.mem_map_of_mem inside
  have enough : ((compiler.inlineObjects stem [] model).map (·.className)).length ≤
      registry.names.length := by
    rw [List.length_map, ← size, Registry.names, List.length_map]
    exact Nat.le_refl _
  exact ((List.subperm_of_subset distinct within).perm_of_length_le enough).nodup_iff.mp distinct

theorem classNames_of_scopes (scopes : compiler.options.scopedPrefixes = true) (name : String)
    (model : ObjectModel) : (compiler.inlineObjects name [] model).map (·.className) =
      ((compiler.inlineObjects name [] model).map fun object =>
        spelling (name :: object.path)).map compiler.scope.generatedClass := by
  rw [List.map_map]
  exact List.map_congr_left fun _ member => (inlined_of_mem model member).spelled scopes (.start name)

/-- With scoped names and an empty registry at first, inline objects are kept apart exactly if their
ways are spelled differently. Otherwise the registry does not have one class for each. -/
theorem scoped_names_tfae (scopes : compiler.options.scopedPrefixes = true)
    (done : (compiler.generate name model name).outcome .empty = (.ok definition, registry)) :
    compiler.Refers name model definition.nested definition.fields ∧
    [((compiler.inlineObjects name [] model).map (·.className)).Nodup,
      ((compiler.inlineObjects name [] model).map fun object =>
        spelling (name :: object.path)).Nodup,
      registry.size = (compiler.inlineObjects name [] model).length,
      List.Forall₂ compiler.Represents (compiler.inlineObjects name [] model)
        registry.entries].TFAE := by
  have built := built_of_generate .empty done
  refine ⟨refers_of_standalone (standalone_of_outcome .empty built), ?_⟩
  tfae_have 1 ↔ 2 := by
    rw [classNames_of_scopes scopes]
    exact List.nodup_map_iff fun _ _ same => congrArg ClassName.outermost same
  tfae_have 1 → 4 := represents_of_nodup built
  tfae_have 4 → 3 := fun represented => represented.length_eq.symm
  tfae_have 3 → 1 := nodup_of_size built
  tfae_finish

end

def shop : ObjectModel where
  nested := [
    { name := some "Order"
      properties := [
        { name := "itemPrice"
          object := some { properties := [{ name := "amount", type := some "long" }] } }] },
    { name := some "OrderItem"
      properties := [
        { name := "price"
          object := some { properties := [{ name := "currency", type := some "String" }] } }] }]

def scopedShop : Compiler := { forPackage "com.shop" with options := { scopedPrefixes := true } }

theorem shop_prices_collide : ∃ definition registry,
    (scopedShop.generate "Shop" shop "Shop").outcome .empty = (.ok definition, registry) ∧
      (scopedShop.inlineObjects "Shop" [] shop).map (·.path) =
        [["Order", "itemPrice"], ["OrderItem", "price"]] ∧
      ¬((scopedShop.inlineObjects "Shop" [] shop).map (·.className)).Nodup ∧
      ¬registry.size = (scopedShop.inlineObjects "Shop" [] shop).length ∧
      ¬List.Forall₂ scopedShop.Represents (scopedShop.inlineObjects "Shop" [] shop)
        registry.entries := by
  have compiles : ((scopedShop.generate "Shop" shop "Shop").outcome .empty).1.isOk = true := by
    decide +kernel
  have ways : (scopedShop.inlineObjects "Shop" [] shop).map (·.path) =
      [["Order", "itemPrice"], ["OrderItem", "price"]] := by
    decide +kernel
  have alike : ¬((scopedShop.inlineObjects "Shop" [] shop).map fun object =>
      spelling ("Shop" :: object.path)).Nodup := by
    decide +kernel
  cases done : (scopedShop.generate "Shop" shop "Shop").outcome .empty with
  | mk result registry =>
    rw [done] at compiles
    cases result with
    | error error => cases compiles
    | ok definition =>
      obtain ⟨-, same⟩ := scoped_names_tfae rfl done
      exact ⟨definition, registry, rfl, ways, fun distinct => alike ((same.out 0 1).mp distinct),
        fun size => alike ((same.out 2 1).mp size), fun each => alike ((same.out 3 1).mp each)⟩

end Compiler

end ClassCompiler
