import ClassCompiler.Proofs.Calls
import ClassCompiler.Proofs.Standalone

/-! Compiling a list of models into one registry. A model is registered as what it is by itself
unless the models before it have left an inline object under the same name; that one then stays. -/

namespace ClassCompiler
open Compile

namespace Compiler

theorem register_ok {compiler : Compiler} {registry after : Registry} {name stem : String}
    {model : ObjectModel} {customize : ClassDef → ClassDef} {className : ClassName}
    (consistent : registry.Consistent)
    (ran : (compiler.register name model stem customize).outcome registry =
      (.ok className, after)) :
    className = compiler.scope.generatedClass name ∧
      ((∃ definition, registry.get? className = some definition ∧ after = registry) ∨
        registry.get? className = none ∧ ∃ definition,
          compiler.standalone (customize (publicClass name)) stem model = .ok definition ∧
            after.get? className = some definition) := by
  have growing := Growing.buildClass compiler name model stem customize
  rw [outcome_register] at ran
  split at ran
  next => simp at ran
  next =>
    have defines : Growing (Registry.define (compiler.scope.generatedClass name) _) := growing.define
    have grows := defines registry consistent
    have ends : Defines (compiler.scope.generatedClass name) _ registry _ :=
      define_cases growing consistent
    generalize (Registry.define (compiler.scope.generatedClass name) _).outcome registry = ended
      at grows ends ran
    cases ends with
    | cyclic => simp at ran
    | failed => simp at ran
    | known found =>
      cases ran
      exact ⟨rfl, .inl ⟨_, found, rfl⟩⟩
    | built absent idle built =>
      cases ran
      have own := standalone_of_outcome (consistent.starting absent) built
      have stored := grows.consistent.get?_eq_some_iff.mpr (List.mem_append_right _
        (List.mem_singleton.mpr rfl))
      exact ⟨rfl, .inr ⟨consistent.get?_eq_none_iff.mpr absent, _, own, stored⟩⟩

def batchObjects (compiler : Compiler) : List ObjectModel → List InlineObject
  | [] => []
  | model :: models =>
    match model.name with
    | none => []
    | some name =>
      compiler.inlineObjects name [] model ++ [⟨[], compiler.scope.generatedClass name, model⟩] ++
        compiler.batchObjects models

theorem exists_of_mem_batchObjects {compiler : Compiler} {models : List ObjectModel}
    {object : InlineObject} (member : object ∈ compiler.batchObjects models) :
    ∃ model ∈ models, ∃ name, model.name = some name ∧
      (object ∈ compiler.inlineObjects name [] model ∨
        object = ⟨[], compiler.scope.generatedClass name, model⟩) := by
  induction models with
  | nil => exact absurd member List.not_mem_nil
  | cons model models ih =>
    rw [batchObjects] at member
    cases named : model.name with
    | none => simp [named] at member
    | some name =>
      simp only [named] at member
      rcases List.mem_append.mp member with first | later
      · refine ⟨model, List.mem_cons_self, name, named, ?_⟩
        exact (List.mem_append.mp first).imp_right List.mem_singleton.mp
      · obtain ⟨other, inside, rest⟩ := ih later
        exact ⟨other, List.mem_cons_of_mem _ inside, rest⟩

theorem registers_register (compiler : Compiler) (name stem : String) (model : ObjectModel)
    (customize : ClassDef → ClassDef) :
    Registers (compiler.inlineObjects stem [] model ++
        [⟨[], compiler.scope.generatedClass name, model⟩])
      (compiler.register name model stem customize) := by
  have builds := Registers.buildClass compiler name model stem customize
  exact ((builds.define ⟨[], compiler.scope.generatedClass name, model⟩).answer _).check _

theorem registers_registerAll (compiler : Compiler) (models : List ObjectModel) (index : Nat) :
    Registers (compiler.batchObjects models) (compiler.registerAll index models) := by
  induction models generalizing index with
  | nil => exact Registers.lift [] (.ok ())
  | cons model models ih =>
    rw [batchObjects, registerAll]
    cases model.name with
    | none => exact Registers.lift [] (.error _)
    | some name => exact (registers_register compiler name name model id).bind fun _ => ih (index + 1)

theorem registerAll_append (compiler : Compiler) (before after : List ObjectModel) (index : Nat) :
    compiler.registerAll index (before ++ after) =
      compiler.registerAll index before >>= fun _ =>
        compiler.registerAll (index + before.length) after := by
  induction before generalizing index with
  | nil => rw [registerAll, pure_bind, List.nil_append, List.length_nil, Nat.add_zero]
  | cons model before ih =>
    rw [List.cons_append, registerAll, registerAll, List.length_cons]
    cases model.name with
    | none => rfl
    | some name =>
      simp only [bind_assoc, ih, Nat.add_assoc, Nat.add_comm 1]

theorem exists_turn {compiler : Compiler} {before after : List ObjectModel} {model : ObjectModel}
    {index : Nat} {registry last : Registry} (consistent : registry.Consistent)
    (ran : (compiler.registerAll index (before ++ model :: after)).outcome registry =
      (.ok (), last)) :
    ∃ name earlier className middle, model.name = some name ∧
      (compiler.registerAll index before).outcome registry = (.ok (), earlier) ∧
      (compiler.register name model name).outcome earlier = (.ok className, middle) ∧
      earlier.Consistent ∧ middle.Consistent ∧ middle.Grows last := by
  rw [registerAll_append] at ran
  obtain ⟨_, earlier, began, rest⟩ := outcome_bind_ok ran
  have first := (compiler.registers_registerAll before index).growing.grows consistent began
  rw [registerAll] at rest
  cases named : model.name with
  | none => simp [named, outcome_throw] at rest
  | some name =>
    simp only [named] at rest
    obtain ⟨className, middle, registered, rest⟩ := outcome_bind_ok rest
    have second := (compiler.registers_register name name model id).growing.grows
      first.consistent registered
    have third := (compiler.registers_registerAll after _).growing.grows second.consistent rest
    exact ⟨name, earlier, className, middle, rfl, began, registered, first.consistent,
      second.consistent, third⟩

end Compiler

theorem generateObjects_eq_ok {package : String} {models : List ObjectModel} {registry : Registry} :
    generateObjects package models = .ok registry ↔
      ((Compiler.forPackage package).registerAll 0 models).outcome .empty = (.ok (), registry) := by
  unfold generateObjects Compiler.forPackage
  dsimp only
  split
  next reached ran => simp [ran]
  next error reached ran => simp [ran]

/-- A name in a batch that is taken when the turn of its model comes was taken by an inline object
of a model before. -/
theorem inline_of_mem_earlier {package : String} {before after : List ObjectModel}
    {model : ObjectModel} {name : String} {earlier : Registry}
    (distinct : ((before ++ model :: after).map (·.name)).Nodup) (named : model.name = some name)
    (began : generateObjects package before = .ok earlier)
    (taken : (Compiler.forPackage package).scope.generatedClass name ∈ earlier.names) :
    ∃ former ∈ before, ∃ formerName, former.name = some formerName ∧
      ∃ object ∈ (Compiler.forPackage package).inlineObjects formerName [] former,
        object.className = (Compiler.forPackage package).scope.generatedClass name := by
  have registers := (Compiler.forPackage package).registers_registerAll before 0
  have names := registers.names .empty ((Compiler.forPackage package).scope.generatedClass name)
  rw [generateObjects_eq_ok.mp began] at names
  obtain ⟨object, member, same⟩ := (names taken).resolve_left List.not_mem_nil
  obtain ⟨former, inside, formerName, formerNamed, place⟩ :=
    Compiler.exists_of_mem_batchObjects member
  rcases place with inline | whole
  · exact ⟨former, inside, formerName, formerNamed, object, inline, same⟩
  · -- a model of the same name would be registered under the same class
    subst whole
    have alike : formerName = name := congrArg ClassName.outermost same
    rw [List.map_append, List.map_cons] at distinct
    have differ := (List.nodup_append.mp distinct).2.2 _ (List.mem_map_of_mem inside) _
      List.mem_cons_self
    exact absurd (formerNamed.trans (alike ▸ named.symm)) differ

/-- In a batch that compiles, the entry under the name of a model is the definition that the model
has by itself exactly if the models before it left no other definition there. What they left there
is an inline object of one of them. -/
theorem generateObjects_keeps_iff {package : String} {before after : List ObjectModel}
    {model : ObjectModel} {registry : Registry}
    (distinct : ((before ++ model :: after).map (·.name)).Nodup)
    (done : generateObjects package (before ++ model :: after) = .ok registry) :
    ∃ name earlier, model.name = some name ∧ generateObjects package before = .ok earlier ∧
      ((∃ definition,
          (Compiler.forPackage package).standalone (Compiler.publicClass name) name model =
              .ok definition ∧
            registry.get? ((Compiler.forPackage package).scope.generatedClass name) =
              some definition) ↔
        ∀ other, earlier.get? ((Compiler.forPackage package).scope.generatedClass name) = some other →
          (Compiler.forPackage package).standalone (Compiler.publicClass name) name model =
            .ok other) ∧
      ((Compiler.forPackage package).scope.generatedClass name ∈ earlier.names →
        ∃ former ∈ before, ∃ formerName, former.name = some formerName ∧
          ∃ object ∈ (Compiler.forPackage package).inlineObjects formerName [] former,
            object.className = (Compiler.forPackage package).scope.generatedClass name) := by
  obtain ⟨name, earlier, className, middle, named, began, registered, consistent, settled, last⟩ :=
    Compiler.exists_turn .empty (generateObjects_eq_ok.mp done)
  have earlierDone := generateObjects_eq_ok.mpr began
  refine ⟨name, earlier, named, earlierDone, ?_, inline_of_mem_earlier distinct named earlierDone⟩
  obtain ⟨rfl, ⟨kept, found, rfl⟩ | ⟨absent, definition, own, stored⟩⟩ :=
    Compiler.register_ok consistent registered
  · rw [found, last.get?_eq_some consistent found]
    constructor
    · rintro ⟨definition, own, same⟩ other again
      rw [own, ← Option.some.inj same, Option.some.inj again]
    · intro own
      exact ⟨kept, own kept rfl, rfl⟩
  · rw [absent, last.get?_eq_some settled stored]
    exact ⟨fun _ _ impossible => absurd impossible nofun, fun _ => ⟨definition, own, rfl⟩⟩

/-- The price of an item receives the class of the model behind it. -/
def item : ObjectModel where
  name := some "Item"
  properties := [
    { name := "price"
      object := some { properties := [{ name := "amount", type := some "long" }] } }]

def itemPrice : ObjectModel where
  name := some "ItemPrice"
  properties := [{ name := "currency", type := some "String" }]

theorem item_price_is_lost : ∃ registry,
    generateObjects "com.shop" ([item] ++ itemPrice :: []) = .ok registry ∧
      registry.names.map (·.outermost) = ["ItemPrice", "Item"] ∧
      ¬∃ definition,
        (Compiler.forPackage "com.shop").standalone (Compiler.publicClass "ItemPrice") "ItemPrice"
            itemPrice = .ok definition ∧
          registry.get? ((Compiler.forPackage "com.shop").scope.generatedClass "ItemPrice") =
            some definition := by
  have distinct : (([item] ++ itemPrice :: []).map (·.name)).Nodup := by decide +kernel
  have order : Except.map (fun registry : Registry => registry.names.map (·.outermost))
      (generateObjects "com.shop" ([item] ++ itemPrice :: [])) = .ok ["ItemPrice", "Item"] := by
    decide +kernel
  have left : Except.map (fun registry : Registry => (registry.get?
      ((Compiler.forPackage "com.shop").scope.generatedClass "ItemPrice")).map
        (·.fields.map (·.name))) (generateObjects "com.shop" [item]) = .ok (some ["amount"]) := by
    decide +kernel
  have own : Except.map (fun definition : ClassDef => definition.fields.map (·.name))
      ((Compiler.forPackage "com.shop").standalone (Compiler.publicClass "ItemPrice") "ItemPrice"
        itemPrice) = .ok ["currency"] := by
    decide +kernel
  cases done : generateObjects "com.shop" ([item] ++ itemPrice :: []) with
  | error error =>
    rw [done] at order
    cases order
  | ok registry =>
    rw [done] at order
    refine ⟨registry, rfl, Except.ok.inj order, ?_⟩
    obtain ⟨name, earlier, named, began, keeps, -⟩ := generateObjects_keeps_iff distinct done
    obtain rfl : "ItemPrice" = name := Option.some.inj named
    rw [keeps]
    intro same
    rw [began] at left
    obtain ⟨other, found, amount⟩ := Option.map_eq_some_iff.mp (Except.ok.inj left)
    rw [same other found] at own
    have currency : ["amount"] = ["currency"] := amount.symm.trans (Except.ok.inj own)
    exact absurd currency (by decide)

end ClassCompiler
