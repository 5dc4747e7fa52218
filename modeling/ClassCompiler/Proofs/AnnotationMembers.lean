import ClassCompiler.Definition.AnnotationDef
import Mathlib.Data.List.Induction
import Mathlib.Data.List.Nodup

/-! Members of annotations. Values that are added one after the other are grouped by their members:
the members stand in the order in which they first received a value, and the values of each in the
order in which they were added. -/

namespace ClassCompiler.AnnotationDef

structure Addition where
  name : String
  template : String
  arguments : List Argument

def Addition.entry? (addition : Addition) : Option (String × Code) :=
  (addition.name, ·) <$> (Code.ofTemplate addition.template addition.arguments).toOption

/-- Adds a value. An addition that fails leaves the annotation as it was. -/
def attempt (definition : AnnotationDef) (addition : Addition) : AnnotationDef :=
  match definition.addMember addition.name addition.template addition.arguments with
  | .ok extended => extended
  | .error _ => definition

def ofAdditions (type : ClassName) (additions : List Addition) : AnnotationDef :=
  additions.foldl attempt { type }

def added (additions : List Addition) : List (String × Code) := additions.filterMap Addition.entry?

def valuesOf (name : String) (entries : List (String × Code)) : List Code :=
  (entries.filter (·.1 = name)).map (·.2)

/-- The members by their first values, each with all of its values. -/
def grouped (entries : List (String × Code)) : List (String × List Code) :=
  (entries.map (·.1)).eraseDups.map fun name => (name, valuesOf name entries)

def spread (members : List (String × List Code)) : List (String × Code) :=
  members.flatMap fun member => member.2.map (member.1, ·)

section

variable {name : String} {names : List String} {entries : List (String × Code)}

theorem eraseDups_concat (names : List String) (name : String) :
    (names ++ [name]).eraseDups =
      if name ∈ names then names.eraseDups else names.eraseDups ++ [name] := by
  rw [List.eraseDups_append]
  by_cases known : name ∈ names
  · simp [List.removeAll, known]
  · simp [List.removeAll, known, List.eraseDups_cons]

theorem nodup_eraseDups (names : List String) : names.eraseDups.Nodup := by
  induction names using List.reverseRecOn with
  | nil => exact List.nodup_nil
  | append_singleton names name ih =>
    rw [eraseDups_concat]
    split
    next => exact ih
    next new =>
      have apart : name ∉ names.eraseDups := fun known => new (List.mem_eraseDups.mp known)
      rw [← List.concat_eq_append]
      exact ih.concat apart

theorem valuesOf_concat (entries : List (String × Code)) (name : String) (value : Code)
    (member : String) : valuesOf member (entries ++ [(name, value)]) =
      if name = member then valuesOf member entries ++ [value] else valuesOf member entries := by
  unfold valuesOf
  split
  next same => simp [List.filter_append, same]
  next apart => simp [List.filter_append, apart]

theorem valuesOf_eq_nil_iff : valuesOf name entries = [] ↔ name ∉ entries.map (·.1) := by
  rw [valuesOf, List.map_eq_nil_iff, List.filter_eq_nil_iff]
  constructor
  · intro none known
    obtain ⟨entry, member, rfl⟩ := List.mem_map.mp known
    exact none entry member (decide_eq_true rfl)
  · intro unknown entry member same
    exact unknown (List.mem_map.mpr ⟨entry, member, of_decide_eq_true same⟩)

theorem addValue_map (values : String → List Code) (name : String) (value : Code)
    (distinct : names.Nodup) :
    addValue name value (names.map fun member => (member, values member)) =
      if name ∈ names then names.map fun member =>
        (member, if name = member then values member ++ [value] else values member)
      else (names.map fun member => (member, values member)) ++ [(name, [value])] := by
  induction names with
  | nil => rfl
  | cons first rest ih =>
    obtain ⟨outside, distinct⟩ := List.nodup_cons.mp distinct
    rw [List.map_cons]
    by_cases same : first = name
    · subst same
      rw [addValue_same, if_pos List.mem_cons_self, List.map_cons, if_pos rfl]
      congr 1
      refine List.map_congr_left fun member inside => ?_
      have apart : first ≠ member := (ne_of_mem_of_not_mem inside outside).symm
      rw [if_neg apart]
    · rw [addValue_other same, ih distinct]
      by_cases later : name ∈ rest
      · rw [if_pos later, if_pos (List.mem_cons_of_mem _ later), List.map_cons,
          if_neg (Ne.symm same)]
      · have absent : name ∉ first :: rest := by simp [later, Ne.symm same]
        rw [if_neg later, if_neg absent, List.cons_append]

/-- One more value keeps the members grouped. -/
theorem addValue_grouped (entries : List (String × Code)) (name : String) (value : Code) :
    addValue name value (grouped entries) = grouped (entries ++ [(name, value)]) := by
  rw [grouped, addValue_map _ name value (nodup_eraseDups _), grouped, List.map_append,
    List.map_singleton, eraseDups_concat]
  simp only [valuesOf_concat, List.mem_eraseDups]
  by_cases known : name ∈ entries.map (·.1)
  · rw [if_pos known, if_pos known]
  · rw [if_neg known, if_neg known, List.map_append, List.map_singleton, if_pos rfl,
      valuesOf_eq_nil_iff.mpr known, List.nil_append]
    congr 1
    refine List.map_congr_left fun member inside => ?_
    have apart : name ≠ member := fun same => known (same ▸ List.mem_eraseDups.mp inside)
    rw [if_neg apart]

theorem ofAdditions_eq_foldl (type : ClassName) (additions : List Addition) :
    ofAdditions type additions =
      (added additions).foldl (fun made entry => add made entry.1 entry.2) { type } := by
  rw [added, List.foldl_filterMap, ofAdditions]
  congr 1
  funext definition addition
  unfold attempt addMember Addition.entry?
  cases Code.ofTemplate addition.template addition.arguments <;> rfl

theorem foldl_add (type : ClassName) (entries : List (String × Code)) :
    entries.foldl (fun made entry => add made entry.1 entry.2) { type } =
      { type, members := grouped entries } := by
  induction entries using List.reverseRecOn with
  | nil => rfl
  | append_singleton entries entry ih =>
    rw [List.foldl_concat, ih, add, addValue_grouped]

theorem ofAdditions_eq_grouped (type : ClassName) (additions : List Addition) :
    ofAdditions type additions = { type, members := grouped (added additions) } := by
  rw [ofAdditions_eq_foldl, foldl_add]

theorem names_grouped (entries : List (String × Code)) :
    (grouped entries).map (·.1) = (entries.map (·.1)).eraseDups := by
  simp [grouped, Function.comp_def]

theorem lookup_grouped (name : String) (entries : List (String × Code)) :
    (grouped entries).lookup name =
      if name ∈ entries.map (·.1) then some (valuesOf name entries) else none := by
  split
  next known => exact List.lookup_graph _ (List.mem_eraseDups.mpr known)
  next unknown =>
    rw [List.lookup_eq_none_iff]
    intro member inside
    obtain ⟨other, known, rfl⟩ := List.mem_map.mp inside
    have apart : name ≠ other := fun same => unknown (same ▸ List.mem_eraseDups.mp known)
    simpa using apart

theorem spread_addValue (name : String) (value : Code) (members : List (String × List Code)) :
    (spread (addValue name value members)).Perm (spread members ++ [(name, value)]) := by
  induction members with
  | nil => exact .refl _
  | cons member rest ih =>
    obtain ⟨first, values⟩ := member
    by_cases same : first = name
    · subst same
      rw [addValue_same]
      simp only [spread, List.flatMap_cons, List.map_append, List.map_singleton, List.append_assoc]
      exact List.perm_append_comm.append_left _
    · rw [addValue_other same]
      simp only [spread, List.flatMap_cons, List.append_assoc]
      exact ih.append_left _

theorem spread_grouped (entries : List (String × Code)) : (spread (grouped entries)).Perm entries := by
  induction entries using List.reverseRecOn with
  | nil => exact .refl _
  | append_singleton entries entry ih =>
    rw [← addValue_grouped]
    exact (spread_addValue entry.1 entry.2 _).trans (ih.append_right _)

end

/-- Every member stands once, where its first value came, and holds just the values that were added
to it, in their order; the others have no part in it. -/
theorem additions_are_grouped_by_member (type : ClassName) (additions : List Addition) :
    (ofAdditions type additions).type = type ∧
    ((ofAdditions type additions).members.map (·.1)).Nodup ∧
    (ofAdditions type additions).members.map (·.1) = ((added additions).map (·.1)).eraseDups ∧
    (∀ name values, (name, values) ∈ (ofAdditions type additions).members →
      values ≠ [] ∧ values = valuesOf name (added additions) ∧
        (ofAdditions type additions).member? name = some values) ∧
    (∀ name, (ofAdditions type additions).member? name =
      if name ∈ (added additions).map (·.1) then some (valuesOf name (added additions)) else none) ∧
    (spread (ofAdditions type additions).members).Perm (added additions) := by
  rw [ofAdditions_eq_grouped]
  refine ⟨rfl, ?_, names_grouped _, fun name values member => ?_, fun name => lookup_grouped name _,
    spread_grouped _⟩
  · rw [names_grouped]
    exact nodup_eraseDups _
  · obtain ⟨name, first, same⟩ := List.mem_map.mp member
    obtain ⟨rfl, rfl⟩ := Prod.mk.inj same
    have known := List.mem_eraseDups.mp first
    have nonempty := mt valuesOf_eq_nil_iff.mp (not_not_intro known)
    exact ⟨nonempty, rfl, (lookup_grouped name _).trans (if_pos known)⟩

def tagAdditions : List Addition :=
  [⟨"names", "$S", [.literal "a"]⟩, ⟨"level", "$L", [.literal "3"]⟩, ⟨"names", "$S", []⟩,
    ⟨"names", "$S", [.literal "b"]⟩]

theorem tag_names_are_grouped :
    ("names", [⟨[.text "\"a\""]⟩, ⟨[.text "\"b\""]⟩]) ∈
      (ofAdditions ⟨"x", "Tags", []⟩ tagAdditions).members ∧
    (ofAdditions ⟨"x", "Tags", []⟩ tagAdditions).member? "names" =
      some [⟨[.text "\"a\""]⟩, ⟨[.text "\"b\""]⟩] := by
  have member : ("names", [⟨[.text "\"a\""]⟩, ⟨[.text "\"b\""]⟩]) ∈
      (ofAdditions ⟨"x", "Tags", []⟩ tagAdditions).members := by
    decide +kernel
  exact ⟨member, ((additions_are_grouped_by_member _ _).2.2.2.1 _ _ member).2.2⟩

end ClassCompiler.AnnotationDef
