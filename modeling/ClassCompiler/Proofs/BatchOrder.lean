import ClassCompiler.Proofs.Batch
import ClassCompiler.Proofs.Expansion
import Mathlib.Data.List.Perm.Basic

/-! Compiling a list of models in another order. While all classes are different, each model hands
on the classes that it has by itself, wherever it stands in the list. -/

namespace ClassCompiler
open Compile

namespace Compiler

def expandNamed (compiler : Compiler) (name : String) (model : ObjectModel) : Expansion Unit := do
  collecting.step (compiler.check name model)
  collecting.inline (compiler.scope.generatedClass name)
    (compiler.expand (publicClass name) name model)

def expandAll (compiler : Compiler) (index : Nat) : List ObjectModel → Expansion Unit
  | [] => pure ()
  | model :: models =>
    match model.name with
    | none => collecting.step (.error (.model (.missingName compiler.scope.package index)))
    | some name => do
      compiler.expandNamed name model
      compiler.expandAll (index + 1) models

def ExpandsTo (compiler : Compiler) (model : ObjectModel)
    (classes : List (ClassName × ClassDef)) : Prop :=
  ∃ name, model.name = some name ∧ compiler.expandNamed name model = .ok ((), classes)

theorem expandAll_eq_ok_iff {compiler : Compiler} {index : Nat} {models : List ObjectModel}
    {classes : List (ClassName × ClassDef)} :
    compiler.expandAll index models = .ok ((), classes) ↔
      ∃ parts, List.Forall₂ compiler.ExpandsTo models parts ∧ classes = parts.flatten := by
  induction models generalizing index classes with
  | nil =>
    constructor
    · intro same
      cases same
      exact ⟨[], .nil, rfl⟩
    · rintro ⟨parts, expand, rfl⟩
      cases expand
      rfl
  | cons model models ih =>
    rw [expandAll]
    constructor
    · intro same
      cases named : model.name with
      | none =>
        rw [named] at same
        cases same
      | some name =>
        simp only [named] at same
        obtain ⟨_, before, after, first, rest, rfl⟩ := Expansion.bind_eq_ok same
        obtain ⟨parts, expand, rfl⟩ := ih.mp rest
        exact ⟨before :: parts, .cons ⟨name, named, first⟩ expand, rfl⟩
    · rintro ⟨_, expand, rfl⟩
      cases expand with
      | cons first rest =>
        obtain ⟨name, named, expands⟩ := first
        simp only [named]
        exact Expansion.bind_ok expands (ih.mpr ⟨_, rest, rfl⟩)

theorem register_bind (compiler : Compiler) (name : String) (model : ObjectModel) {α : Type}
    (next : Compile α) :
    (compiler.register name model name >>= fun _ => next) =
      (liftM (compiler.check name model) >>= fun _ =>
        registering.inline (compiler.scope.generatedClass name)
          (compiler.buildClass name model name id)) >>= fun _ => next := by
  simp only [register, registering, bind_assoc, pure_bind]
  rfl

theorem follows_named (compiler : Compiler) (name : String) (model : ObjectModel) :
    Follows (compiler.inlineObjects name [] model ++
        [⟨[], compiler.scope.generatedClass name, model⟩])
      (liftM (compiler.check name model) >>= fun _ =>
        registering.inline (compiler.scope.generatedClass name)
          (compiler.buildClass name model name id))
      (compiler.expandNamed name model) := by
  have builds : Follows (compiler.inlineObjects name [] model)
      (compiler.buildClass name model name id) (compiler.expand (publicClass name) name model) := by
    rw [buildClass_eq]
    exact (agreement_follows compiler).definition _ name [] model
  exact (Follows.lift _).bind fun _ => builds.inline ⟨[], _, model⟩

theorem follows_registerAll (compiler : Compiler) (models : List ObjectModel) (index : Nat) :
    Follows (compiler.batchObjects models) (compiler.registerAll index models)
      (compiler.expandAll index models) := by
  induction models generalizing index with
  | nil => exact Follows.lift (.ok ())
  | cons model models ih =>
    rw [batchObjects, registerAll, expandAll]
    cases model.name with
    | none => exact Follows.lift (.error _)
    | some name =>
      simp only [register_bind]
      exact (follows_named compiler name model).bind fun _ => ih (index + 1)

/-- While no class is claimed twice, a batch registers what its models have by themselves. -/
theorem registerAll_eq_ok_iff {compiler : Compiler} {models : List ObjectModel} {registry : Registry}
    (distinct : ((compiler.batchObjects models).map (·.className)).Nodup) :
    (compiler.registerAll 0 models).outcome .empty = (.ok (), registry) ↔
      ∃ parts, List.Forall₂ compiler.ExpandsTo models parts ∧
        registry = Registry.empty.appending parts.flatten := by
  have follows := compiler.follows_registerAll models 0
  have unclaimed : Unclaimed .empty (compiler.batchObjects models) :=
    ⟨distinct, fun _ _ => List.not_mem_nil, fun _ _ => List.not_mem_nil⟩
  constructor
  · intro ran
    cases expanded : compiler.expandAll 0 models with
    | error error =>
      obtain ⟨after, fails⟩ := follows.fails .empty unclaimed expanded
      simp [fails] at ran
    | ok result =>
      obtain ⟨parts, expand, flat⟩ := expandAll_eq_ok_iff.mp expanded
      have succeeds := follows.succeeds .empty unclaimed expanded
      rw [succeeds, flat] at ran
      exact ⟨parts, expand, (congrArg Prod.snd ran).symm⟩
  · rintro ⟨parts, expand, rfl⟩
    exact follows.succeeds .empty unclaimed (expandAll_eq_ok_iff.mpr ⟨parts, expand, rfl⟩)

def ownObjects (compiler : Compiler) (model : ObjectModel) : List InlineObject :=
  match model.name with
  | none => []
  | some name =>
    compiler.inlineObjects name [] model ++ [⟨[], compiler.scope.generatedClass name, model⟩]

theorem batchObjects_eq_flatMap {compiler : Compiler} {models : List ObjectModel}
    (named : ∀ model ∈ models, ∃ name, model.name = some name) :
    compiler.batchObjects models = models.flatMap compiler.ownObjects := by
  induction models with
  | nil => rfl
  | cons model models ih =>
    obtain ⟨name, same⟩ := named model List.mem_cons_self
    rw [batchObjects, List.flatMap_cons, ownObjects]
    simp only [same]
    rw [ih fun other member => named other (List.mem_cons_of_mem _ member)]

end Compiler

section

variable {package : String} {models others : List ObjectModel} {registry other : Registry}

theorem distinct_of_perm (named : ∀ model ∈ models, ∃ name, model.name = some name)
    (perm : models.Perm others)
    (distinct : (((Compiler.forPackage package).batchObjects models).map (·.className)).Nodup) :
    (((Compiler.forPackage package).batchObjects others).map (·.className)).Nodup := by
  have named' (model : ObjectModel) (member : model ∈ others) : ∃ name, model.name = some name :=
    named model (perm.mem_iff.mpr member)
  rw [Compiler.batchObjects_eq_flatMap named] at distinct
  rw [Compiler.batchObjects_eq_flatMap named']
  exact ((perm.flatMap_right _).map _).nodup_iff.mp distinct

/-- In another order the models have the same classes in another order. -/
theorem exists_entries_perm
    (distinct : (((Compiler.forPackage package).batchObjects models).map (·.className)).Nodup)
    (distinct' : (((Compiler.forPackage package).batchObjects others).map (·.className)).Nodup)
    (perm : models.Perm others) (done : generateObjects package models = .ok registry) :
    ∃ other, generateObjects package others = .ok other ∧ registry.entries.Perm other.entries := by
  obtain ⟨parts, expand, rfl⟩ :=
    (Compiler.registerAll_eq_ok_iff distinct).mp (generateObjects_eq_ok.mp done)
  obtain ⟨parts', expand', moved⟩ := List.perm_comp_forall₂ perm.symm expand
  refine ⟨Registry.empty.appending parts'.flatten, ?_, moved.symm.flatten⟩
  exact generateObjects_eq_ok.mpr
    ((Compiler.registerAll_eq_ok_iff distinct').mpr ⟨parts', expand', rfl⟩)

theorem consistent_of_generateObjects (done : generateObjects package models = .ok registry) :
    registry.Consistent := by
  have registers := (Compiler.forPackage package).registers_registerAll models 0
  exact (registers.growing.grows .empty (generateObjects_eq_ok.mp done)).consistent

/-- The order of models whose classes are all different does not matter: a list compiles exactly if
it does in another order, and then to the same definitions under the same names. -/
theorem generateObjects_perm (named : ∀ model ∈ models, ∃ name, model.name = some name)
    (distinct : (((Compiler.forPackage package).batchObjects models).map (·.className)).Nodup)
    (perm : models.Perm others) :
    ((∃ registry, generateObjects package models = .ok registry) ↔
      ∃ registry, generateObjects package others = .ok registry) ∧
    ∀ registry other, generateObjects package models = .ok registry →
      generateObjects package others = .ok other →
        registry.names.Perm other.names ∧ ∀ name, registry.get? name = other.get? name := by
  have distinct' := distinct_of_perm named perm distinct
  refine ⟨⟨?_, ?_⟩, ?_⟩
  · rintro ⟨registry, done⟩
    obtain ⟨other, again, -⟩ := exists_entries_perm distinct distinct' perm done
    exact ⟨other, again⟩
  · rintro ⟨other, done⟩
    obtain ⟨registry, again, -⟩ := exists_entries_perm distinct' distinct perm.symm done
    exact ⟨registry, again⟩
  · intro registry other done again
    obtain ⟨reached, same, entries⟩ := exists_entries_perm distinct distinct' perm done
    obtain rfl : reached = other := Except.ok.inj (same.symm.trans again)
    have consistent := consistent_of_generateObjects done
    have consistent' := consistent_of_generateObjects again
    refine ⟨entries.map Prod.fst, fun name => Option.ext fun definition => ?_⟩
    rw [consistent.get?_eq_some_iff, consistent'.get?_eq_some_iff]
    exact entries.mem_iff

end

def purchase : ObjectModel where
  name := some "Purchase"
  nested := [{
    name := some "Line"
    properties := [{
      name := "count"
      object := some { properties := [{ name := "unit", type := some "String" }] } }] }]
  properties := [{ name := "lines", type := some "List<Item>" }]

def customer : ObjectModel where
  name := some "Customer"

theorem purchase_may_come_first : ∃ registry other,
    generateObjects "com.shop" [item, customer, purchase] = .ok registry ∧
      generateObjects "com.shop" [purchase, item, customer] = .ok other ∧
      registry.names.map (·.outermost) = ["ItemPrice", "Item", "Customer", "Count", "Purchase"] ∧
      other.names.map (·.outermost) = ["Count", "Purchase", "ItemPrice", "Item", "Customer"] ∧
      registry.names.Perm other.names ∧ ∀ name, registry.get? name = other.get? name := by
  have named : ∀ model ∈ [item, customer, purchase], ∃ name, model.name = some name := by
    simp [item, customer, purchase]
  have distinct : (((Compiler.forPackage "com.shop").batchObjects
      [item, customer, purchase]).map (·.className)).Nodup := by
    decide +kernel
  have perm : [item, customer, purchase].Perm [purchase, item, customer] := by
    show ([item, customer] ++ [purchase]).Perm ([purchase] ++ [item, customer])
    exact List.perm_append_comm
  have names : Except.map (fun registry : Registry => registry.names.map (·.outermost))
      (generateObjects "com.shop" [item, customer, purchase]) =
        .ok ["ItemPrice", "Item", "Customer", "Count", "Purchase"] := by
    decide +kernel
  have moved : Except.map (fun registry : Registry => registry.names.map (·.outermost))
      (generateObjects "com.shop" [purchase, item, customer]) =
        .ok ["Count", "Purchase", "ItemPrice", "Item", "Customer"] := by
    decide +kernel
  obtain ⟨succeeds, same⟩ := generateObjects_perm named distinct perm
  cases done : generateObjects "com.shop" [item, customer, purchase] with
  | error error =>
    rw [done] at names
    cases names
  | ok registry =>
    obtain ⟨other, again⟩ := succeeds.mp ⟨registry, done⟩
    rw [done] at names
    rw [again] at moved
    exact ⟨registry, other, rfl, again, Except.ok.inj names, Except.ok.inj moved,
      same registry other done again⟩

end ClassCompiler
