import ClassCompiler.Proofs.Growth

/-! What a rollback leaves. A checkpoint is a number of entries, so it says which entries are
earlier only as long as none of them has been removed: what is registered in the place of a removed
entry is behind the checkpoint in time and before it in the registry. -/

namespace ClassCompiler
namespace Registry

/-- What can be asked of a registry by itself: to define a name by a generator, to take a
checkpoint, and to go back to one of those taken so far, given by its number. -/
inductive Operation
  | create (name : ClassName) (generator : String → Except CompileError ClassDef)
  | checkpoint
  | rollback (number : Nat)

/-- A registry, the checkpoints taken of it, and a ledger of its entries, each with the moment at
which it was registered. -/
structure History where
  registry : Registry
  ledger : List (Nat × ClassName × ClassDef)
  taken : List Checkpoint
  now : Nat

namespace History

def start (registry : Registry) : History :=
  ⟨registry, registry.entries.map (0, ·), [], 1⟩

def reached (history : History) : Operation → Registry
  | .create name generator =>
    ((define name (liftM (generator name.simpleName))).outcome history.registry).2
  | .checkpoint => history.registry
  | .rollback number =>
    match history.taken[number]? with
    | some checkpoint => history.registry.rollback checkpoint
    | none => history.registry

def step (history : History) (operation : Operation) : History where
  registry := history.reached operation
  ledger := history.ledger.take (history.reached operation).size ++
    ((history.reached operation).entries.drop history.ledger.length).map (history.now, ·)
  taken :=
    match operation with
    | .checkpoint => history.taken ++ [history.registry.checkpoint]
    | _ => history.taken
  now := history.now + 1

def run (history : History) (operations : List Operation) : History :=
  operations.foldl step history

/-- The entries that are still there of those registered before a moment, in their order. -/
def earlier (history : History) (moment : Nat) : List (ClassName × ClassDef) :=
  (history.ledger.filter (·.1 < moment)).map (·.2)

theorem ledger_step (history : History) (operation : Operation) :
    (history.step operation).ledger = history.ledger.take (history.reached operation).size ++
      ((history.reached operation).entries.drop history.ledger.length).map (history.now, ·) := rfl

end History

theorem entries_define (registry : Registry) (name : ClassName)
    (result : Except CompileError ClassDef) :
    registry.entries <+: ((define name (liftM result)).outcome registry).2.entries := by
  unfold define
  rw [Compile.outcome_ofOutcome]
  cases registry.get? name with
  | some definition => exact List.prefix_refl _
  | none =>
    by_cases waiting : name ∈ registry.pending
    · simp only [start_eq_error waiting]
      exact List.prefix_refl _
    · simp only [start_eq_ok waiting, Compile.outcome_lift]
      cases result with
      | ok definition => exact List.prefix_append _ _
      | error error =>
        have kept : registry.entries.take registry.size = registry.entries := List.take_length
        exact kept.symm ▸ List.prefix_refl _

namespace History

theorem entries_reached (history : History) (operation : Operation) :
    history.registry.entries <+: (history.reached operation).entries ∨
      (history.reached operation).entries <+: history.registry.entries := by
  cases operation with
  | create name generator => exact .inl (entries_define _ _ _)
  | checkpoint => exact .inl (List.prefix_refl _)
  | rollback number =>
    simp only [reached]
    cases history.taken[number]? with
    | none => exact .inl (List.prefix_refl _)
    | some checkpoint => exact .inr (List.take_prefix _ _)

structure Dated (history : History) : Prop where
  entries : history.ledger.map (·.2) = history.registry.entries
  past : ∀ entry ∈ history.ledger, entry.1 < history.now

namespace Dated

variable {history : History}

theorem start (registry : Registry) : (start registry).Dated where
  entries := by
    simp [History.start, Function.comp_def]
  past := by
    intro entry member
    obtain ⟨_, -, rfl⟩ := List.mem_map.mp member
    exact Nat.zero_lt_one

theorem length (dated : history.Dated) : history.ledger.length = history.registry.size := by
  rw [size, ← dated.entries, List.length_map]

theorem step (dated : history.Dated) (operation : Operation) : (history.step operation).Dated where
  entries := by
    have kept : (history.ledger.take (history.reached operation).size).map (·.2) =
        history.registry.entries.take (history.reached operation).size := by
      rw [List.map_take, dated.entries]
    have new : (((history.reached operation).entries.drop history.ledger.length).map
        (history.now, ·)).map (·.2) =
          (history.reached operation).entries.drop history.registry.size := by
      rw [dated.length, List.map_map, Function.comp_def, List.map_id']
    rw [ledger_step, List.map_append, kept, new]
    show _ = (history.reached operation).entries
    rcases history.entries_reached operation with added | removed
    · obtain ⟨more, extended⟩ := added
      rw [size, size, ← extended, List.length_append, List.drop_left,
        List.take_of_length_le (Nat.le_add_right _ _)]
    · rw [size, size, List.drop_of_length_le removed.length_le, List.append_nil]
      exact (List.prefix_iff_eq_take.mp removed).symm
  past := by
    intro entry member
    show entry.1 < history.now + 1
    rw [ledger_step] at member
    rcases List.mem_append.mp member with kept | new
    · exact Nat.lt_succ_of_lt (dated.past entry (List.mem_of_mem_take kept))
    · obtain ⟨_, -, rfl⟩ := List.mem_map.mp new
      exact Nat.lt_succ_self _

theorem run (dated : history.Dated) (operations : List Operation) :
    (history.run operations).Dated := by
  induction operations generalizing history with
  | nil => exact dated
  | cons operation operations ih => exact ih (dated.step operation)

end Dated

/-- The moment parts the ledger: the entries at the first places are earlier, and all others are
not. -/
structure Parted (history : History) (moment places : Nat) : Prop where
  reached : moment ≤ history.now
  within : places ≤ history.ledger.length
  before : ∀ entry ∈ history.ledger.take places, entry.1 < moment
  behind : ∀ entry ∈ history.ledger.drop places, moment ≤ entry.1

theorem Dated.parted {history : History} (dated : history.Dated) :
    history.Parted history.now history.ledger.length where
  reached := Nat.le_refl _
  within := Nat.le_refl _
  before entry member := dated.past entry (List.mem_of_mem_take member)
  behind entry member := by simp at member

namespace Parted

variable {history : History} {moment places : Nat}

theorem step (parted : history.Parted moment places) (operation : Operation) :
    (history.step operation).Parted moment (min places (history.reached operation).size) := by
  have within := parted.within
  have front : min places (history.reached operation).size ≤
      (history.ledger.take (history.reached operation).size).length := by
    rw [List.length_take]
    omega
  refine ⟨Nat.le_succ_of_le parted.reached, ?_, ?_, ?_⟩
  · rw [ledger_step, List.length_append]
    omega
  · intro entry member
    rw [ledger_step, List.take_append_of_le_length front, List.take_take] at member
    exact parted.before entry ((List.take_subset_take_left _ (by omega)) member)
  · intro entry member
    rw [ledger_step, List.drop_append_of_le_length front, List.mem_append] at member
    rcases member with kept | new
    · rw [List.drop_take] at kept
      rcases Nat.le_total places (history.reached operation).size with more | fewer
      · rw [Nat.min_eq_left more] at kept
        exact parted.behind entry (List.mem_of_mem_take kept)
      · rw [Nat.min_eq_right fewer, Nat.sub_self, List.take_zero] at kept
        exact absurd kept List.not_mem_nil
    · obtain ⟨_, -, rfl⟩ := List.mem_map.mp new
      exact parted.reached

/-- After a run, the earlier entries are those in the places that have been filled all the time. -/
theorem run (parted : history.Parted moment places) (dated : history.Dated)
    (operations : List Operation) :
    ∃ left, (history.run operations).Parted moment left ∧
      ∀ place, place ≤ left ↔ place ≤ places ∧
        ∀ middle, middle <+: operations → place ≤ (history.run middle).registry.size := by
  induction operations generalizing history places with
  | nil =>
    refine ⟨places, parted, fun place => ⟨fun below => ⟨below, ?_⟩, And.left⟩⟩
    intro middle first
    rw [List.prefix_nil.mp first]
    exact Nat.le_trans below (dated.length ▸ parted.within)
  | cons operation operations ih =>
    obtain ⟨left, later, filled⟩ := ih (parted.step operation) (dated.step operation)
    refine ⟨left, later, fun place => ?_⟩
    rw [filled, Nat.le_min]
    constructor
    · rintro ⟨⟨below, after⟩, rest⟩
      refine ⟨below, fun middle first => ?_⟩
      cases middle with
      | nil => exact Nat.le_trans below (dated.length ▸ parted.within)
      | cons same middle =>
        obtain ⟨rfl, tail⟩ := List.cons_prefix_cons.mp first
        exact rest middle tail
    · rintro ⟨below, all⟩
      refine ⟨⟨below, all [operation] ⟨operations, rfl⟩⟩, fun middle first => ?_⟩
      exact all (operation :: middle) (List.cons_prefix_cons.mpr ⟨rfl, first⟩)

theorem earlier_eq (parted : history.Parted moment places) (dated : history.Dated) :
    history.earlier moment = history.registry.entries.take places := by
  have front : (history.ledger.take places).filter (·.1 < moment) = history.ledger.take places :=
    List.filter_eq_self.mpr fun entry member => decide_eq_true (parted.before entry member)
  have rest : (history.ledger.drop places).filter (·.1 < moment) = [] := by
    apply List.filter_eq_nil_iff.mpr
    intro entry member
    simpa using parted.behind entry member
  calc history.earlier moment
      = ((history.ledger.take places ++ history.ledger.drop places).filter (·.1 < moment)).map
          (·.2) := by rw [List.take_append_drop, earlier]
    _ = (history.ledger.take places).map (·.2) := by
      rw [List.filter_append, front, rest, List.append_nil]
    _ = history.registry.entries.take places := by rw [List.map_take, dated.entries]

end Parted

theorem Dated.earlier_eq {history : History} (dated : history.Dated) (after : List Operation) :
    ∃ left, left ≤ (history.run (.checkpoint :: after)).registry.size ∧
      (history.run (.checkpoint :: after)).earlier history.now =
        (history.run (.checkpoint :: after)).registry.entries.take left ∧
      ∀ place, place ≤ left ↔ place ≤ history.registry.size ∧
        ∀ middle, middle <+: after →
          place ≤ (history.run (.checkpoint :: middle)).registry.size := by
  have marked := dated.step .checkpoint
  have parted : (history.step .checkpoint).Parted history.now history.registry.size := by
    have now := dated.parted.step .checkpoint
    rwa [dated.length, show history.reached .checkpoint = history.registry from rfl,
      Nat.min_self] at now
  obtain ⟨left, later, filled⟩ := parted.run marked after
  have last := marked.run after
  exact ⟨left, last.length ▸ later.within, later.earlier_eq last, filled⟩

theorem Dated.earlier_prefix {history : History} (dated : history.Dated) (after : List Operation) :
    (history.run (.checkpoint :: after)).earlier history.now <+:
      ((history.run (.checkpoint :: after)).registry.rollback history.registry.checkpoint).entries := by
  obtain ⟨left, -, earlier, filled⟩ := dated.earlier_eq after
  have fewer := ((filled left).mp (Nat.le_refl left)).1
  rw [earlier, entries_rollback]
  exact List.take_prefix_take_left fewer

theorem Dated.rollback_eq_iff {history : History} (dated : history.Dated) (after : List Operation) :
    ((history.run (.checkpoint :: after)).registry.rollback history.registry.checkpoint).entries =
        (history.run (.checkpoint :: after)).earlier history.now ↔
      ∀ middle, middle <+: after →
        ((history.run (.checkpoint :: after)).registry.rollback history.registry.checkpoint).size ≤
          (history.run (.checkpoint :: middle)).registry.size := by
  obtain ⟨left, within, earlier, filled⟩ := dated.earlier_eq after
  have fewer := ((filled left).mp (Nat.le_refl left)).1
  have size : ((history.run (.checkpoint :: after)).registry.rollback
      history.registry.checkpoint).size =
        min history.registry.size (history.run (.checkpoint :: after)).registry.size :=
    List.length_take
  calc _ ↔ min history.registry.size (history.run (.checkpoint :: after)).registry.size =
        min left (history.run (.checkpoint :: after)).registry.size := by
        rw [earlier, entries_rollback]
        exact List.take_eq_take_iff
    _ ↔ min history.registry.size (history.run (.checkpoint :: after)).registry.size ≤ left := by
        omega
    _ ↔ _ := by
        rw [filled, size]
        exact and_iff_right (Nat.min_le_left _ _)

/-- A rollback leaves the entries that were registered before the checkpoint was taken and have not
been removed since, in their order, and behind them what stands in the place of entries that have
been removed. It leaves nothing but the earlier entries exactly if the registry has never been
smaller, since the checkpoint was taken, than it is after the rollback. -/
theorem rollback_leaves_earlier_iff (registry : Registry) (before after : List Operation) :
    let marked := (start registry).run before
    let last := marked.run (.checkpoint :: after)
    let left := last.registry.rollback marked.registry.checkpoint
    last.ledger.map (·.2) = last.registry.entries ∧
    last.earlier marked.now <+: left.entries ∧
    (left.entries = last.earlier marked.now ↔ ∀ middle, middle <+: after →
      left.size ≤ (marked.run (.checkpoint :: middle)).registry.size) := by
  intro marked last left
  have dated : marked.Dated := (Dated.start registry).run before
  have listed : last.Dated := dated.run (.checkpoint :: after)
  exact ⟨listed.entries, dated.earlier_prefix after, dated.rollback_eq_iff after⟩

def createEmpty (name : String) : Operation :=
  .create ⟨"com.shop", name, []⟩ fun simpleName => .ok { name := simpleName }

theorem stale_checkpoint_keeps_later_class :
    let marked := (start .empty).run [.checkpoint, createEmpty "A"]
    let last := marked.run [.checkpoint, .rollback 0, createEmpty "B"]
    let left := last.registry.rollback marked.registry.checkpoint
    marked.registry.names.map (·.outermost) = ["A"] ∧
      left.names.map (·.outermost) = ["B"] ∧
      last.earlier marked.now = [] ∧ left.entries ≠ last.earlier marked.now := by
  refine ⟨by decide +kernel, by decide +kernel, by decide +kernel, fun exact => ?_⟩
  have filled := (rollback_leaves_earlier_iff .empty [.checkpoint, createEmpty "A"]
    [.rollback 0, createEmpty "B"]).2.2.mp exact [.rollback 0] ⟨_, rfl⟩
  exact absurd filled (by decide +kernel)

theorem size_le_run {history : History} {size : Nat} (first : Nat) (operations : List Operation)
    (large : size ≤ history.registry.size)
    (taken : ∀ number checkpoint, first ≤ number → history.taken[number]? = some checkpoint →
      size ≤ checkpoint.size)
    (recent : ∀ number, .rollback number ∈ operations → first ≤ number) :
    size ≤ (history.run operations).registry.size := by
  induction operations generalizing history with
  | nil => exact large
  | cons operation operations ih =>
    have later (number : Nat) (member : .rollback number ∈ operations) : first ≤ number :=
      recent number (List.mem_cons_of_mem _ member)
    cases operation with
    | create name generator =>
      have more := (entries_define history.registry name (generator name.simpleName)).length_le
      exact ih (Nat.le_trans large more) taken later
    | checkpoint =>
      -- The new checkpoint has the size of the registry at this moment.
      refine ih large (fun number checkpoint after found => ?_) later
      change (history.taken ++ [history.registry.checkpoint])[number]? = some checkpoint at found
      rw [List.getElem?_append] at found
      split at found
      next => exact taken number checkpoint after found
      next =>
        obtain rfl := List.mem_singleton.mp (List.mem_of_getElem? found)
        exact large
    | rollback number =>
      refine ih ?_ taken later
      show size ≤ (history.reached (.rollback number)).size
      simp only [reached]
      split
      next checkpoint found =>
        have kept := taken number checkpoint (recent number List.mem_cons_self) found
        show size ≤ (history.registry.entries.take checkpoint.size).length
        rw [List.length_take]
        exact Nat.le_min.mpr ⟨kept, large⟩
      next => exact large

/-- As long as a registry only goes back to this checkpoint and to newer ones, the checkpoint is
good: a rollback leaves the earlier entries. -/
theorem rollback_leaves_earlier_of_recent (registry : Registry) (before after : List Operation)
    (recent : ∀ number, .rollback number ∈ after →
      ((start registry).run before).taken.length ≤ number) :
    let marked := (start registry).run before
    let last := marked.run (.checkpoint :: after)
    (last.registry.rollback marked.registry.checkpoint).entries = last.earlier marked.now := by
  intro marked last
  have dated : marked.Dated := (Dated.start registry).run before
  refine (dated.rollback_eq_iff after).mpr fun middle first => ?_
  calc (last.registry.rollback marked.registry.checkpoint).size
      ≤ marked.registry.size := List.length_take_le _ _
    _ ≤ (marked.run (.checkpoint :: middle)).registry.size := by
      refine size_le_run marked.taken.length _ (Nat.le_refl _) ?_ ?_
      · intro number checkpoint behind found
        rw [List.getElem?_eq_none behind] at found
        cases found
      · intro number member
        have inside : .rollback number ∈ middle := by simpa using member
        exact recent number (first.subset inside)

end History
end Registry
end ClassCompiler
