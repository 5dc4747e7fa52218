import ClassCompiler.Registry
import Mathlib.Data.List.Basic
import Mathlib.Data.List.Nodup

/-! What all operations keep true of a registry. Its entries and its index then describe one map
from names to definitions, and a rollback takes back exactly what was registered behind the
checkpoint. -/

namespace ClassCompiler

theorem lookup_eq_some_iff_mem {α β : Type} [BEq α] [LawfulBEq α] {pairs : List (α × β)}
    (distinct : (pairs.map (·.1)).Nodup) {key : α} {value : β} :
    pairs.lookup key = some value ↔ (key, value) ∈ pairs := by
  induction pairs with
  | nil => simp
  | cons pair pairs ih =>
    obtain ⟨first, found⟩ := pair
    simp only [List.map_cons, List.nodup_cons] at distinct
    by_cases same : key = first
    · subst same
      have absent : (key, value) ∉ pairs := fun member =>
        distinct.1 (List.mem_map.mpr ⟨_, member, rfl⟩)
      simp [absent, eq_comm]
    · have differ : (key == first) = false := beq_eq_false_iff_ne.mpr same
      simp [List.lookup_cons, differ, ih distinct.2, same]

namespace Registry

/-- Names are registered once, the index holds their positions with the latest in front, and no
name that is under way is registered. -/
structure Consistent (registry : Registry) : Prop where
  distinct : registry.names.Nodup
  indexed : registry.index = registry.names.zipIdx.reverse
  apart : ∀ name ∈ registry.pending, name ∉ registry.names

theorem names_rollback (registry : Registry) (checkpoint : Checkpoint) :
    (registry.rollback checkpoint).names = registry.names.take checkpoint.size := by
  simp [names, entries_rollback, List.map_take]

theorem mem_names {registry : Registry} {name : ClassName} :
    name ∈ registry.names ↔ ∃ definition, (name, definition) ∈ registry.entries := by
  simp [names]

namespace Consistent

variable {registry : Registry} {name : ClassName} {definition : ClassDef}

protected theorem empty : Registry.empty.Consistent :=
  ⟨List.nodup_nil, rfl, fun _ member _ => List.not_mem_nil member⟩

theorem index_rollback (consistent : registry.Consistent) (checkpoint : Checkpoint) :
    (registry.rollback checkpoint).index =
      (registry.rollback checkpoint).names.zipIdx.reverse := by
  have removed : (registry.entries.drop checkpoint.size).map (·.1) =
      registry.names.drop checkpoint.size := by simp [names, List.map_drop]
  have parted : registry.names.zipIdx.reverse =
      ((registry.names.drop checkpoint.size).zipIdx
        (registry.names.take checkpoint.size).length).reverse ++
        (registry.names.take checkpoint.size).zipIdx.reverse := by
    rw [← List.reverse_append, ← Nat.zero_add (List.length _), ← List.zipIdx_append,
      List.take_append_drop]
  rw [names_rollback]
  show registry.index.filter _ = _
  rw [consistent.indexed, parted, List.filter_append, removed]
  -- Names are distinct, so a position is removed exactly if its entry is.
  have removes : ((registry.names.drop checkpoint.size).zipIdx
      (registry.names.take checkpoint.size).length).reverse.filter
        (!(registry.names.drop checkpoint.size).contains ·.1) = [] := by
    apply List.filter_eq_nil_iff.mpr
    intro pair member
    simpa using List.fst_mem_of_mem_zipIdx (List.mem_reverse.mp member)
  have keeps : (registry.names.take checkpoint.size).zipIdx.reverse.filter
        (!(registry.names.drop checkpoint.size).contains ·.1) =
      (registry.names.take checkpoint.size).zipIdx.reverse := by
    apply List.filter_eq_self.mpr
    intro pair member
    have kept := List.fst_mem_of_mem_zipIdx (List.mem_reverse.mp member)
    simpa using List.disjoint_take_drop consistent.distinct (Nat.le_refl _) kept
  rw [removes, keeps, List.nil_append]

protected theorem rollback (consistent : registry.Consistent) (checkpoint : Checkpoint) :
    (registry.rollback checkpoint).Consistent where
  distinct := by
    rw [names_rollback]
    exact consistent.distinct.sublist (List.take_sublist _ _)
  indexed := consistent.index_rollback checkpoint
  apart := by
    intro name waiting member
    rw [names_rollback] at member
    exact consistent.apart name waiting (List.mem_of_mem_take member)

protected theorem insert (consistent : registry.Consistent) (fresh : name ∉ registry.names)
    (idle : name ∉ registry.pending) : (registry.insert name definition).Consistent where
  distinct := by
    rw [names_insert]
    exact List.nodup_append.mpr ⟨consistent.distinct, List.nodup_singleton name, by
      intro other member one same equal
      exact fresh ((equal.trans (List.mem_singleton.mp same)) ▸ member)⟩
  indexed := by
    rw [names_insert, List.zipIdx_append, List.reverse_append]
    simp [insert, consistent.indexed, names, size]
  apart := by
    intro other waiting member
    rw [names_insert] at member
    rcases List.mem_append.mp member with earlier | last
    · exact consistent.apart other waiting earlier
    · exact idle (List.mem_singleton.mp last ▸ waiting)

theorem lookup_index (consistent : registry.Consistent) {position : Nat} :
    registry.index.lookup name = some position ↔ registry.names[position]? = some name := by
  have distinct : (registry.index.map (·.1)).Nodup := by
    rw [consistent.indexed, List.map_reverse, List.zipIdx_map_fst]
    exact List.nodup_reverse.mpr consistent.distinct
  rw [lookup_eq_some_iff_mem distinct, consistent.indexed, List.mem_reverse,
    List.mk_mem_zipIdx_iff_getElem?]

theorem contains_iff (consistent : registry.Consistent) :
    registry.contains name = true ↔ name ∈ registry.names := by
  rw [contains, Option.isSome_iff_exists, List.mem_iff_getElem?]
  exact exists_congr fun position => consistent.lookup_index

theorem get?_eq_some_iff (consistent : registry.Consistent) :
    registry.get? name = some definition ↔ (name, definition) ∈ registry.entries := by
  simp only [get?, bind, Option.bind_eq_some_iff, consistent.lookup_index, names,
    List.getElem?_map, Option.map_eq_some_iff, pure, Option.some.injEq, List.mem_iff_getElem?]
  constructor
  · rintro ⟨position, ⟨entry, found, rfl⟩, other, again, rfl⟩
    cases Option.some.inj (found.symm.trans again)
    exact ⟨position, found⟩
  · rintro ⟨position, found⟩
    exact ⟨position, ⟨_, found, rfl⟩, _, found, rfl⟩

theorem get?_eq_none_iff (consistent : registry.Consistent) :
    registry.get? name = none ↔ name ∉ registry.names := by
  rw [← not_iff_not, ← ne_eq, Option.ne_none_iff_exists', not_not]
  simp only [consistent.get?_eq_some_iff, mem_names]

theorem eq_of_entries {other : Registry} (consistent : registry.Consistent)
    (alike : other.Consistent) (entries : registry.entries = other.entries)
    (pending : registry.pending = other.pending) : registry = other := by
  have index : registry.index = other.index := by
    rw [consistent.indexed, alike.indexed, names, names, entries]
  cases registry
  cases other
  simp_all

end Consistent

/-- What `after` adds to `before` are entries, none of which hides an earlier one. -/
structure Grows (before after : Registry) : Prop where
  consistent : after.Consistent
  entries : before.entries <+: after.entries
  pending : after.pending = before.pending

namespace Grows

variable {first second third : Registry} {name : ClassName} {definition : ClassDef}

theorem refl (consistent : first.Consistent) : first.Grows first :=
  ⟨consistent, List.prefix_refl _, rfl⟩

theorem trans (before : first.Grows second) (after : second.Grows third) : first.Grows third :=
  ⟨after.consistent, before.entries.trans after.entries, after.pending.trans before.pending⟩

theorem get?_eq_some (grows : first.Grows second) (consistent : first.Consistent)
    (found : first.get? name = some definition) : second.get? name = some definition := by
  rw [grows.consistent.get?_eq_some_iff]
  exact grows.entries.subset (consistent.get?_eq_some_iff.mp found)

/-- Taking back what was added leaves the registry as it was, index included. -/
theorem rollback_eq (grows : first.Grows second) (consistent : first.Consistent) :
    second.rollback first.checkpoint = first := by
  apply (grows.consistent.rollback _).eq_of_entries consistent
  · rw [entries_rollback]
    exact (List.prefix_iff_eq_take.mp grows.entries).symm
  · exact grows.pending

end Grows

def starting (registry : Registry) (name : ClassName) : Registry :=
  { registry with pending := name :: registry.pending }

theorem start_eq_ok {registry : Registry} {name : ClassName} (idle : name ∉ registry.pending) :
    registry.start name = .ok (registry.starting name) := by
  simp [start, starting, idle]

theorem start_eq_error {registry : Registry} {name : ClassName}
    (waiting : name ∈ registry.pending) : registry.start name = .error (.cyclic name) := by
  simp [start, waiting]

theorem Consistent.starting {registry : Registry} {name : ClassName}
    (consistent : registry.Consistent) (absent : name ∉ registry.names) :
    (registry.starting name).Consistent where
  distinct := consistent.distinct
  indexed := consistent.indexed
  apart := by
    intro other waiting
    rcases List.mem_cons.mp waiting with same | earlier
    · exact same ▸ absent
    · exact consistent.apart other earlier

theorem Grows.settle {registry reached : Registry} {name : ClassName}
    (grows : (registry.starting name).Grows reached) :
    registry.Grows (reached.settle name) where
  consistent := {
    distinct := grows.consistent.distinct
    indexed := grows.consistent.indexed
    apart := fun other waiting => grows.consistent.apart other (List.mem_of_mem_erase waiting) }
  entries := grows.entries
  pending := by
    show reached.pending.erase name = registry.pending
    rw [grows.pending]
    exact List.erase_cons_head name registry.pending

theorem Grows.insert {registry reached : Registry} {name : ClassName} {definition : ClassDef}
    (grows : registry.Grows reached) (fresh : name ∉ reached.names)
    (idle : name ∉ registry.pending) : registry.Grows (reached.insert name definition) where
  consistent := grows.consistent.insert fresh (grows.pending ▸ idle)
  entries := grows.entries.trans (List.prefix_append _ _)
  pending := grows.pending

end Registry

end ClassCompiler
