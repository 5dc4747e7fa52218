import ClassCompiler.Proofs.TypeText
import Mathlib.Data.List.Induction

/-! The aliases of a scope. The latest alias of a name without dots decides what the name means,
whatever the name would mean otherwise. Names with dots are not looked up, so their aliases are never
found. -/

namespace ClassCompiler
open Text

namespace Scope

def withAliases (package : String) (added : List (String × TypeName)) : Scope :=
  added.foldl (fun scope entry => scope.withAlias entry.1 entry.2) { package }

def undotted (added : List (String × TypeName)) : List (String × TypeName) :=
  added.filter fun entry => '.' ∉ entry.1.toList

theorem withAliases_append (package : String) (added : List (String × TypeName)) (name : String)
    (target : TypeName) : withAliases package (added ++ [(name, target)]) =
      (withAliases package added).withAlias name target := by
  rw [withAliases, List.foldl_append, ← withAliases]
  rfl

theorem package_withAliases (package : String) (added : List (String × TypeName)) :
    (withAliases package added).package = package := by
  induction added using List.reverseRecOn with
  | nil => rfl
  | append_singleton added entry ih =>
    rw [withAliases_append]
    exact ih

theorem aliases_withAliases (package : String) (added : List (String × TypeName)) :
    (withAliases package added).aliases = added.reverse := by
  induction added using List.reverseRecOn with
  | nil => rfl
  | append_singleton added entry ih =>
    rw [withAliases_append, withAlias, ih, List.reverse_concat]

theorem simple_withAliases (package : String) (earlier : List (String × TypeName)) {name : String}
    (target : TypeName) {later : List (String × TypeName)} (latest : ∀ entry ∈ later, entry.1 ≠ name) :
    (withAliases package (earlier ++ (name, target) :: later)).simple name = target := by
  apply simple_of_alias
  rw [aliases_withAliases, List.lookup_eq_some_iff]
  refine ⟨later.reverse, earlier.reverse, by simp, fun entry member => ?_⟩
  have other := latest entry (List.mem_reverse.mp member)
  exact bne_iff_ne.mpr (Ne.symm other)

theorem lookup_undotted {name : String} (plain : '.' ∉ name.toList)
    (aliases : List (String × TypeName)) :
    (undotted aliases).lookup name = aliases.lookup name := by
  induction aliases with
  | nil => rfl
  | cons entry aliases ih =>
    obtain ⟨key, target⟩ := entry
    by_cases dotted : '.' ∈ key.toList
    · have apart : (name == key) = false := beq_false_of_ne fun same => plain (same ▸ dotted)
      rw [undotted, List.filter_cons_of_neg (by simpa using dotted), ← undotted, ih,
        List.lookup_cons, apart]
    · rw [undotted, List.filter_cons_of_pos (by simpa using dotted), ← undotted, List.lookup_cons,
        List.lookup_cons, ih]

theorem simple_undotted {name : String} (plain : '.' ∉ name.toList) (package : String)
    (added : List (String × TypeName)) :
    (withAliases package (undotted added)).simple name =
      (withAliases package added).simple name := by
  have found : (undotted added).reverse.lookup name = added.reverse.lookup name := by
    rw [undotted, ← List.filter_reverse, ← undotted, lookup_undotted plain]
  simp only [simple, generatedClass, package_withAliases, aliases_withAliases, found]

/-! ### Names and tokens in scopes that agree on names without dots -/

section

variable {scope other : Scope}

theorem resolve?_congr
    (same : ∀ name : String, '.' ∉ name.toList → scope.simple name = other.simple name)
    (name : String) : scope.resolve? name = other.resolve? name := by
  unfold resolve?
  split
  next => rfl
  next letters single =>
    rw [same name (not_mem_of_dotSegments_eq_singleton single)]
  next first rest _ parted =>
    have plain : '.' ∉ (String.ofList first).toList := by
      rw [String.toList_ofList]
      exact not_mem_of_mem_dotSegments (parted ▸ List.mem_cons_self)
    rw [same _ plain]

/-- Reading uses nothing of the scope but what names mean. -/
theorem read_congr (same : ∀ name, scope.resolve? name = other.resolve? name) (fuel : Nat) :
    (∀ symbols, scope.readType fuel symbols = other.readType fuel symbols) ∧
    (∀ symbols, scope.readWildcard fuel symbols = other.readWildcard fuel symbols) ∧
    ∀ symbols, scope.readArguments fuel symbols = other.readArguments fuel symbols := by
  have applied (name : String) (arguments : List TypeName) :
      scope.apply name arguments = other.apply name arguments := by
    rw [apply, apply, same]
  induction fuel with
  | zero => exact ⟨fun _ => rfl, fun _ => rfl, fun _ => rfl⟩
  | succ fuel ih =>
    obtain ⟨type, wildcard, arguments⟩ := ih
    refine ⟨fun symbols => ?_, fun symbols => ?_, fun symbols => ?_⟩
    · unfold readType
      split
      next less rest succ =>
        cases succ
        rw [wildcard]
      next less name rest succ =>
        cases succ
        simp only [arguments, applied]
      next => rw [applied]
      next => rfl
    · unfold readWildcard
      split
      next less rest succ =>
        cases succ
        rw [type]
      next less rest succ =>
        cases succ
        rw [type]
      next => rfl
    · unfold readArguments
      simp only [type, arguments]

theorem typeName_congr (same : ∀ name, scope.resolve? name = other.resolve? name)
    (token : String) : scope.typeName token = other.typeName token := by
  have read := fun fuel => (read_congr same fuel).1
  simp only [typeName, read]

theorem typeName_plain {name : String} (some : name.toList ≠ [])
    (letters : ∀ c ∈ name.toList, Symbol.isNameChar c = true) (plain : '.' ∉ name.toList) :
    scope.typeName name = .ok (scope.simple name) := by
  have written : Symbol.Written (name.toList ++ []) [.name (String.ofList name.toList)] :=
    .name some letters (fun _ member => nomatch member) .nil
  rw [List.append_nil, String.ofList_toList] at written
  exact typeName_eq_ok_iff.mpr ⟨_, written, .name (.simple plain) 0⟩

end

/-- The latest alias of a name without dots is what the name means, however the name looks. The
aliases of names with dots change nothing: every token is read as it is without them. -/
theorem plain_aliases_come_first (package : String) (added : List (String × TypeName)) :
    (∀ earlier name target later, added = earlier ++ (name, target) :: later →
      (∀ entry ∈ later, entry.1 ≠ name) →
      name.toList ≠ [] → (∀ c ∈ name.toList, Symbol.isNameChar c = true) → '.' ∉ name.toList →
      (withAliases package added).typeName name = .ok target) ∧
    ∀ token, (withAliases package added).typeName token =
      (withAliases package (undotted added)).typeName token := by
  constructor
  · rintro earlier name target later rfl latest some letters plain
    rw [typeName_plain some letters plain, simple_withAliases package earlier target latest]
  · refine typeName_congr (resolve?_congr fun name plain => ?_)
    exact (simple_undotted plain package added).symm

def renamed : List (String × TypeName) :=
  [("int", .primitive .long), ("java.util.Date", .named ⟨"java.time", "LocalDate", []⟩),
    ("int", .named ⟨"java.time", "Duration", []⟩),
    ("java.util.Date", .named ⟨"java.time", "Instant", []⟩)]

theorem keyword_has_its_latest_alias :
    (withAliases "com.shop" renamed).typeName "int" = .ok (.named ⟨"java.time", "Duration", []⟩) ∧
      (withAliases "com.shop" renamed).typeName "List<java.util.Date>" =
        .ok (.generic ⟨"java.util", "List", []⟩ [.named ⟨"java.util", "Date", []⟩]) := by
  obtain ⟨first, inert⟩ := plain_aliases_come_first "com.shop" renamed
  constructor
  · exact first [("int", .primitive .long), ("java.util.Date", .named ⟨"java.time", "LocalDate", []⟩)]
      "int" _ [("java.util.Date", .named ⟨"java.time", "Instant", []⟩)] rfl (by decide) (by decide)
      (List.all_eq_true.mp (by decide +kernel)) (by decide)
  · rw [inert]
    decide +kernel

/-- The dotted name has an alias, and still it is the class that it spells. -/
theorem qualified_name_has_no_alias :
    let date := "java.util.Date"
    let instant : TypeName := .named ⟨"java.time", "Instant", []⟩
    (date.toList ≠ [] ∧ ∀ c ∈ date.toList, Symbol.isNameChar c = true) ∧
      (withAliases "com.shop" [(date, instant)]).typeName date =
        .ok (.named ⟨"java.util", "Date", []⟩) ∧
      (withAliases "com.shop" [(date, instant)]).typeName date ≠ .ok instant := by
  intro date instant
  have read : (withAliases "com.shop" [(date, instant)]).typeName date =
      .ok (.named ⟨"java.util", "Date", []⟩) := by
    decide +kernel
  refine ⟨⟨by decide, List.all_eq_true.mp (by decide +kernel)⟩, read, ?_⟩
  rw [read]
  decide

end Scope

end ClassCompiler
