import ClassCompiler.Proofs.DottedNames

/-! Canonical names of classes. Writing a class name with dots and guessing a class from a dotted
name are inverse to each other, on the names that keep to the convention: classes start uppercase,
packages do not. -/

namespace ClassCompiler
open Text

namespace ClassName

variable {name : ClassName}

/-- A class name that says by its letters where the package ends. The segments of the package do not
start uppercase, and the outermost class does; the default package has no segments. -/
structure IsConventional (name : ClassName) : Prop where
  package : ∃ segments : List String, name.package = joinDots segments ∧
    ∀ segment ∈ segments, IsSegment segment ∧ startsUppercase segment.toList = false
  names : ∀ simple ∈ name.names, IsSegment simple
  upper : startsUppercase name.outermost.toList = true

theorem canonicalName_of_joined {segments : List String} (joined : name.package = joinDots segments)
    (all : ∀ segment ∈ segments, IsSegment segment) :
    name.canonicalName = joinDots (segments ++ name.names) := by
  cases segments with
  | nil =>
    have unnamed : name.package = "" := joined
    rw [canonicalName, if_pos unnamed, List.nil_append]
  | cons first rest =>
    have nonempty : name.package ≠ "" := by
      intro none
      refine toList_joinDots_ne_nil (all first List.mem_cons_self).nonempty rest ?_
      rw [← joined, none, String.toList_empty]
    rw [canonicalName, if_neg nonempty, joined, names, joinDots_append]

theorem bestGuess?_eq_some_iff_conventional {text : String} :
    bestGuess? text = some name ↔ name.IsConventional ∧ name.canonicalName = text := by
  rw [bestGuess?_eq_some_iff]
  constructor
  · rintro ⟨segments, lower, classes, upper, joined, rfl⟩
    have all (segment : String) (member : segment ∈ segments) := (lower segment member).1
    exact ⟨⟨⟨segments, joined, lower⟩, classes, upper⟩, canonicalName_of_joined joined all⟩
  · rintro ⟨⟨⟨segments, joined, lower⟩, classes, upper⟩, rfl⟩
    have all (segment : String) (member : segment ∈ segments) := (lower segment member).1
    exact ⟨segments, lower, classes, upper, joined, canonicalName_of_joined joined all⟩

theorem IsConventional.package_lower (conventional : name.IsConventional) :
    ∀ segment ∈ dotSegments name.package.toList, startsUppercase segment = false := by
  obtain ⟨segments, joined, lower⟩ := conventional.package
  intro segment member
  cases segments with
  | nil =>
    -- the default package is its own only segment
    obtain rfl : segment = [] := by simpa [joined, joinDots, dotSegments] using member
    rfl
  | cons first rest =>
    have parted := dotSegments_joinDots fun other inside => (lower other inside).1.plain
    rw [joined, parted, ← List.map_cons] at member
    obtain ⟨simple, inside, rfl⟩ := List.mem_map.mp member
    exact (lower simple inside).2

/-- A guess has the text as its canonical name, and keeps to the convention; every name that does is
guessed from its canonical name. -/
theorem guesses_invert_canonical_names :
    (∀ (text : String) (name : ClassName), bestGuess? text = some name →
      name.canonicalName = text ∧ name.IsConventional ∧
        (∀ segment ∈ dotSegments name.package.toList, startsUppercase segment = false) ∧
        startsUppercase name.outermost.toList = true) ∧
    ∀ name : ClassName, name.IsConventional → bestGuess? name.canonicalName = some name := by
  refine ⟨fun text name guessed => ?_, fun name conventional => ?_⟩
  · obtain ⟨conventional, spelled⟩ := bestGuess?_eq_some_iff_conventional.mp guessed
    exact ⟨spelled, conventional, conventional.package_lower, conventional.upper⟩
  · exact bestGuess?_eq_some_iff_conventional.mpr ⟨conventional, rfl⟩

theorem map_entry_is_guessed :
    bestGuess? "java.util.Map.Entry" = some ⟨"java.util", "Map", ["Entry"]⟩ ∧
    (⟨"java.util", "Map", ["Entry"]⟩ : ClassName).canonicalName = "java.util.Map.Entry" ∧
    (⟨"", "Widget", []⟩ : ClassName).IsConventional ∧
    bestGuess? (⟨"", "Widget", []⟩ : ClassName).canonicalName = some ⟨"", "Widget", []⟩ := by
  have guessed : bestGuess? "java.util.Map.Entry" = some ⟨"java.util", "Map", ["Entry"]⟩ := by
    decide +kernel
  have segment (simple : String) (member : simple ∈ ["Widget"]) : IsSegment simple := by
    obtain rfl := List.mem_singleton.mp member
    exact ⟨by decide, by decide⟩
  have plain : (⟨"", "Widget", []⟩ : ClassName).IsConventional :=
    ⟨⟨[], rfl, nofun⟩, segment, by decide +kernel⟩
  exact ⟨guessed, (guesses_invert_canonical_names.1 _ _ guessed).1, plain,
    guesses_invert_canonical_names.2 _ plain⟩

end ClassName

end ClassCompiler
