import ClassCompiler.Proofs.Handler
import ClassCompiler.Proofs.Registry

/-! A compilation only adds to a registry while it runs. A definition that fails takes back what
was added for it. -/

namespace ClassCompiler

namespace Compile

variable {α β : Type}

theorem outcome_bind_ok {action : Compile α} {next : α → Compile β} {registry after : Registry}
    {value : β} (ran : (action >>= next).outcome registry = (.ok value, after)) :
    ∃ first reached, action.outcome registry = (.ok first, reached) ∧
      (next first).outcome reached = (.ok value, after) := by
  rw [outcome_bind] at ran
  split at ran
  next first reached began => exact ⟨first, reached, began, ran⟩
  next => simp at ran

theorem outcome_bind_error {action : Compile α} {next : α → Compile β}
    {registry after : Registry} {error : CompileError}
    (ran : (action >>= next).outcome registry = (.error error, after)) :
    action.outcome registry = (.error error, after) ∨
      ∃ first reached, action.outcome registry = (.ok first, reached) ∧
        (next first).outcome reached = (.error error, after) := by
  rw [outcome_bind] at ran
  split at ran
  next first reached began => exact .inr ⟨first, reached, began, ran⟩
  next began =>
    cases ran
    exact .inl began

theorem exists_ok_of_isOk {outcome : Except CompileError α × Registry}
    (succeeds : outcome.1.isOk = true) : ∃ value, outcome = (.ok value, outcome.2) := by
  obtain ⟨result, after⟩ := outcome
  cases result with
  | error error => cases succeeds
  | ok value => exact ⟨value, rfl⟩

theorem exists_after {outcome : Except CompileError α × Registry} {result : Except CompileError α}
    (same : outcome.1 = result) : ∃ after, outcome = (result, after) :=
  ⟨outcome.2, Prod.ext same rfl⟩

/-- Whether it succeeds or fails, the computation adds entries and does nothing else. -/
def Growing (action : Compile α) : Prop :=
  ∀ registry : Registry, registry.Consistent → registry.Grows (action.outcome registry).2

theorem Growing.grows {action : Compile α} (growing : Growing action) {registry after : Registry}
    {result : Except CompileError α} (consistent : registry.Consistent)
    (ran : action.outcome registry = (result, after)) : registry.Grows after := by
  have grows := growing registry consistent
  rwa [ran] at grows

def Atomic (action : Compile α) : Prop :=
  ∀ (registry after : Registry) (error : CompileError), registry.Consistent →
    action.outcome registry = (.error error, after) → after = registry

inductive Defines (name : ClassName) (build : Compile ClassDef) (registry : Registry) :
    Except CompileError ClassDef × Registry → Prop
  | known {definition : ClassDef} (found : registry.get? name = some definition) :
      Defines name build registry (.ok definition, registry)
  | cyclic (absent : name ∉ registry.names) (waiting : name ∈ registry.pending) :
      Defines name build registry (.error (.cyclic name), registry)
  | failed {error : CompileError} {reached : Registry} (absent : name ∉ registry.names)
      (idle : name ∉ registry.pending)
      (ran : build.outcome (registry.starting name) = (.error error, reached)) :
      Defines name build registry (.error error, registry)
  | built {definition : ClassDef} {reached : Registry} (absent : name ∉ registry.names)
      (idle : name ∉ registry.pending)
      (ran : build.outcome (registry.starting name) = (.ok definition, reached)) :
      Defines name build registry (.ok definition, (reached.settle name).insert name definition)

/-- A failing definition takes back what it registered, so these are all the ways to end. -/
theorem define_cases {name : ClassName} {build : Compile ClassDef} (growing : Growing build)
    {registry : Registry} (consistent : registry.Consistent) :
    Defines name build registry ((Registry.define name build).outcome registry) := by
  unfold Registry.define
  rw [outcome_ofOutcome]
  cases found : registry.get? name with
  | some definition => exact .known found
  | none =>
    have absent := consistent.get?_eq_none_iff.mp found
    by_cases waiting : name ∈ registry.pending
    · simp only [Registry.start_eq_error waiting]
      exact .cyclic absent waiting
    · simp only [Registry.start_eq_ok waiting]
      cases ran : build.outcome (registry.starting name) with
      | mk result reached =>
        have grows := growing.grows (consistent.starting absent) ran
        cases result with
        | ok definition => exact .built absent waiting ran
        | error error =>
          simp only [Registry.finish, grows.settle.rollback_eq consistent]
          exact .failed absent waiting ran

theorem outcome_define_of_known {registry : Registry} {name : ClassName} {build : Compile ClassDef}
    {definition : ClassDef} (found : registry.get? name = some definition) :
    (Registry.define name build).outcome registry = (.ok definition, registry) := by
  unfold Registry.define
  rw [outcome_ofOutcome, found]

theorem outcome_define_of_waiting {registry : Registry} {name : ClassName}
    {build : Compile ClassDef} (consistent : registry.Consistent) (absent : name ∉ registry.names)
    (waiting : name ∈ registry.pending) :
    (Registry.define name build).outcome registry = (.error (.cyclic name), registry) := by
  unfold Registry.define
  rw [outcome_ofOutcome, consistent.get?_eq_none_iff.mpr absent, Registry.start_eq_error waiting]

theorem outcome_define_of_absent {registry : Registry} {name : ClassName}
    {build : Compile ClassDef} (growing : Growing build) (consistent : registry.Consistent)
    (absent : name ∉ registry.names) (idle : name ∉ registry.pending) :
    (Registry.define name build).outcome registry =
      match build.outcome (registry.starting name) with
      | (.ok definition, reached) => (.ok definition, (reached.settle name).insert name definition)
      | (.error error, _) => (.error error, registry) := by
  have ends : Defines name build registry _ := define_cases growing consistent
  generalize (Registry.define name build).outcome registry = ended at ends ⊢
  cases ends with
  | known found => exact absurd (consistent.get?_eq_none_iff.mpr absent) (by simp [found])
  | cyclic _ waiting => exact absurd waiting idle
  | failed _ _ ran => simp only [ran]
  | built _ _ ran => simp only [ran]

theorem outcome_undoing {action : Compile α} (growing : Growing action) {registry : Registry}
    (consistent : registry.Consistent) :
    (Registry.undoing action).outcome registry =
      match action.outcome registry with
      | (.ok value, reached) => (.ok value, reached)
      | (.error error, _) => (.error error, registry) := by
  unfold Registry.undoing
  rw [outcome_ofOutcome]
  cases undone : action.outcome registry with
  | mk result reached =>
    have grows := growing.grows consistent undone
    cases result with
    | ok value => rfl
    | error error => simp only [grows.rollback_eq consistent]

/-- The names under way are not among the ones that the work on them registers. -/
theorem Growing.absent_of_starting {name : ClassName} {build : Compile ClassDef}
    (growing : Growing build) {registry reached : Registry}
    {result : Except CompileError ClassDef} (consistent : registry.Consistent)
    (absent : name ∉ registry.names)
    (ran : build.outcome (registry.starting name) = (result, reached)) :
    name ∉ reached.names := by
  have grows := growing.grows (consistent.starting absent) ran
  apply grows.consistent.apart
  rw [grows.pending]
  exact List.mem_cons_self

namespace Growing

theorem lift (result : Except CompileError α) : Growing (liftM result : Compile α) :=
  fun _ consistent => .refl consistent

theorem bind {action : Compile α} {next : α → Compile β} (first : Growing action)
    (rest : ∀ value, Growing (next value)) : Growing (action >>= next) := by
  intro registry consistent
  rw [outcome_bind]
  split
  next value reached ran =>
    have grows := first.grows consistent ran
    exact grows.trans (rest value reached grows.consistent)
  next error reached ran => exact first.grows consistent ran

theorem answer {action : Compile α} (first : Growing action) (answer : α → β) :
    Growing (action >>= fun value => pure (answer value)) :=
  first.bind fun value => lift (.ok (answer value))

theorem define {name : ClassName} {build : Compile ClassDef} (growing : Growing build) :
    Growing (Registry.define name build) := by
  intro registry consistent
  have ends : Defines name build registry _ := define_cases growing consistent
  generalize (Registry.define name build).outcome registry = ended at ends ⊢
  cases ends with
  | known => exact .refl consistent
  | cyclic => exact .refl consistent
  | failed => exact .refl consistent
  | built absent idle ran =>
    have grows := growing.grows (consistent.starting absent) ran
    have fresh := growing.absent_of_starting consistent absent ran
    exact grows.settle.insert fresh idle

theorem undoing {action : Compile α} (growing : Growing action) :
    Growing (Registry.undoing action) := by
  intro registry consistent
  rw [outcome_undoing growing consistent]
  split
  next value reached undone => exact growing.grows consistent undone
  next => exact .refl consistent

theorem agreement (compiler : Compiler) : Compiler.Agreement compiler Compiler.registering
    Compiler.registering fun _ left _ => Growing left where
  pure value := lift (.ok value)
  step _ := lift _
  bind := bind
  inline _ growing := growing.define.answer _

theorem buildClass (compiler : Compiler) (name : String) (model : ObjectModel) (stem : String)
    (customize : ClassDef → ClassDef) :
    Growing (compiler.buildClass name model stem customize) := by
  rw [Compiler.buildClass_eq]
  exact (agreement compiler).definition _ stem [] model

end Growing

namespace Atomic

theorem define {name : ClassName} {build : Compile ClassDef} (growing : Growing build) :
    Atomic (Registry.define name build) := by
  intro registry after error consistent ran
  have ends : Defines name build registry _ := define_cases growing consistent
  rw [ran] at ends
  cases ends with
  | cyclic => rfl
  | failed => rfl

theorem undoing {action : Compile α} (growing : Growing action) :
    Atomic (Registry.undoing action) := by
  intro registry after error consistent ran
  rw [outcome_undoing growing consistent] at ran
  split at ran
  next => simp at ran
  next => exact (congrArg Prod.snd ran).symm

theorem check {action : Compile β} (atomic : Atomic action) (check : Except CompileError α) :
    Atomic (liftM check >>= fun _ => action) := by
  intro registry after error consistent ran
  rcases outcome_bind_error ran with refused | ⟨_, reached, accepted, rest⟩
  · exact (congrArg Prod.snd refused).symm
  · obtain rfl : registry = reached := congrArg Prod.snd accepted
    exact atomic registry after error consistent rest

theorem answer {action : Compile α} (atomic : Atomic action) (answer : α → β) :
    Atomic (action >>= fun value => pure (answer value)) := by
  intro registry after error consistent ran
  rcases outcome_bind_error ran with failed | ⟨_, _, _, answered⟩
  · exact atomic registry after error consistent failed
  · simp [outcome_pure] at answered

end Atomic

/-- The computation registers nothing but classes of these inline objects. -/
structure Registers (met : List InlineObject) (action : Compile α) : Prop where
  growing : Growing action
  names {registry : Registry} : registry.Consistent →
    ∀ name ∈ (action.outcome registry).2.names,
      name ∈ registry.names ∨ ∃ object ∈ met, object.className = name

namespace Registers

theorem lift (met : List InlineObject) (result : Except CompileError α) :
    Registers met (liftM result : Compile α) :=
  ⟨.lift result, fun _ _ => .inl⟩

theorem bind {met more : List InlineObject} {action : Compile α} {next : α → Compile β}
    (first : Registers met action) (rest : ∀ value, Registers more (next value)) :
    Registers (met ++ more) (action >>= next) := by
  refine ⟨first.growing.bind fun value => (rest value).growing, ?_⟩
  intro registry consistent name member
  have names := first.names consistent name
  rw [outcome_bind] at member
  cases ran : action.outcome registry with
  | mk result reached =>
    have grows := first.growing.grows consistent ran
    rw [ran] at names member
    cases result with
    | error error =>
      refine (names member).imp_right fun ⟨object, inside, same⟩ => ?_
      exact ⟨object, List.mem_append_left _ inside, same⟩
    | ok value =>
      rcases (rest value).names grows.consistent name member with earlier | ⟨object, inside, same⟩
      · refine (names earlier).imp_right fun ⟨object, inside, same⟩ => ?_
        exact ⟨object, List.mem_append_left _ inside, same⟩
      · exact .inr ⟨object, List.mem_append_right _ inside, same⟩

theorem check {met : List InlineObject} {action : Compile β} (registers : Registers met action)
    (check : Except CompileError α) : Registers met (liftM check >>= fun _ => action) :=
  (lift [] check).bind fun _ => registers

theorem answer {met : List InlineObject} {action : Compile α} (registers : Registers met action)
    (answer : α → β) : Registers met (action >>= fun value => pure (answer value)) := by
  rw [← List.append_nil met]
  exact registers.bind fun value => lift [] (.ok (answer value))

theorem define {met : List InlineObject} {build : Compile ClassDef} (registers : Registers met build)
    (object : InlineObject) :
    Registers (met ++ [object]) (Registry.define object.className build) := by
  refine ⟨registers.growing.define, ?_⟩
  intro registry consistent name member
  have ends : Defines object.className build registry _ :=
    define_cases registers.growing consistent
  generalize (Registry.define object.className build).outcome registry = ended at ends member
  cases ends with
  | known => exact .inl member
  | cyclic => exact .inl member
  | failed => exact .inl member
  | built absent idle ran =>
    rw [Registry.names_insert] at member
    rcases List.mem_append.mp member with within | last
    · have names := registers.names (consistent.starting absent) name
      rw [ran] at names
      refine (names within).imp_right fun ⟨other, inside, same⟩ => ?_
      exact ⟨other, List.mem_append_left _ inside, same⟩
    · exact .inr ⟨object, List.mem_append_right _ (List.mem_singleton.mpr rfl),
        (List.mem_singleton.mp last).symm⟩

theorem agreement (compiler : Compiler) : Compiler.Agreement compiler Compiler.registering
    Compiler.registering fun met left _ => Registers met left where
  pure value := lift [] (.ok value)
  step _ := lift [] _
  bind := bind
  inline object registers := (registers.define object).answer _

theorem buildClass (compiler : Compiler) (name : String) (model : ObjectModel) (stem : String)
    (customize : ClassDef → ClassDef) :
    Registers (compiler.inlineObjects stem [] model)
      (compiler.buildClass name model stem customize) := by
  rw [Compiler.buildClass_eq]
  exact (agreement compiler).definition _ stem [] model

end Registers

end Compile

end ClassCompiler
