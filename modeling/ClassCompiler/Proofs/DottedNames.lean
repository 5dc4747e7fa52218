import ClassCompiler.Scope.Basic
import Mathlib.Data.List.TakeDrop

/-! Dotted names. Splitting a name at its dots and joining the segments again undo each other, so a
name says in one way which package and which classes it is made of. -/

namespace ClassCompiler

namespace Text

structure IsSegment (segment : String) : Prop where
  nonempty : segment.toList ≠ []
  plain : '.' ∉ segment.toList

theorem dotSegments_joinDots {segment : String} {segments : List String}
    (plain : ∀ other ∈ segment :: segments, '.' ∉ other.toList) :
    dotSegments (joinDots (segment :: segments)).toList =
      segment.toList :: segments.map String.toList := by
  induction segments generalizing segment with
  | nil =>
    rw [joinDots, String.intercalate_singleton]
    exact dotSegments_of_not_mem (plain segment List.mem_cons_self)
  | cons next segments ih =>
    have rest := ih fun other member => plain other (List.mem_cons_of_mem _ member)
    have first := plain segment List.mem_cons_self
    rw [joinDots, String.intercalate_cons_cons, String.append_assoc, String.toList_append,
      String.toList_append]
    show dotSegments (segment.toList ++ '.' :: (joinDots (next :: segments)).toList) = _
    rw [dotSegments_append_dot first, rest, List.map_cons]

theorem joinDots_append (first second : String) (rest others : List String) :
    joinDots (first :: rest ++ second :: others) =
      joinDots (first :: rest) ++ "." ++ joinDots (second :: others) := by
  induction rest generalizing first with
  | nil => rw [List.singleton_append, joinDots, String.intercalate_cons_cons, joinDots,
      String.intercalate_singleton, joinDots]
  | cons next rest ih =>
    have later := ih next
    rw [joinDots, joinDots, joinDots] at later
    rw [List.cons_append, List.cons_append, joinDots, joinDots, joinDots,
      String.intercalate_cons_cons, String.intercalate_cons_cons, ← List.cons_append, later]
    simp only [String.append_assoc]

theorem toList_joinDots_ne_nil {first : String} (some : first.toList ≠ []) (rest : List String) :
    (joinDots (first :: rest)).toList ≠ [] := by
  cases rest with
  | nil => rwa [joinDots, String.intercalate_singleton]
  | cons next rest =>
    rw [joinDots, String.intercalate_cons_cons]
    simp

theorem joinDots_injective {first second : String} {rest others : List String}
    (all : ∀ segment ∈ first :: rest, IsSegment segment)
    (all' : ∀ segment ∈ second :: others, IsSegment segment)
    (same : joinDots (first :: rest) = joinDots (second :: others)) :
    first :: rest = second :: others := by
  have parted := dotSegments_joinDots fun segment member => (all segment member).plain
  have parted' := dotSegments_joinDots fun segment member => (all' segment member).plain
  rw [same, parted', ← List.map_cons, ← List.map_cons] at parted
  exact ((List.map_inj_right fun _ _ => String.toList_injective).mp parted).symm

theorem joinDots_dotSegments (letters : List Char) :
    joinDots ((dotSegments letters).map String.ofList) = String.ofList letters := by
  induction letters with
  | nil => rfl
  | cons c rest ih =>
    unfold dotSegments
    split
    next dot =>
      subst dot
      cases segments : dotSegments rest with
      | nil => exact absurd segments (dotSegments_ne_nil rest)
      | cons first others =>
        rw [segments] at ih
        apply String.toList_injective
        rw [List.map_cons, List.map_cons, joinDots, String.intercalate_cons_cons]
        rw [List.map_cons, joinDots] at ih
        simp [ih]
    next letter =>
      cases segments : dotSegments rest with
      | nil => exact absurd segments (dotSegments_ne_nil rest)
      | cons first others =>
        rw [segments, List.map_cons, joinDots] at ih
        have longer : String.ofList (c :: first) = String.singleton c ++ String.ofList first := by
          apply String.toList_injective
          simp
        show joinDots (String.ofList (c :: first) :: others.map String.ofList) = _
        rw [longer, joinDots, String.intercalate_cons_append, ih]
        apply String.toList_injective
        simp

theorem not_mem_of_mem_dotSegments {letters segment : List Char}
    (member : segment ∈ dotSegments letters) : '.' ∉ segment := by
  induction letters generalizing segment with
  | nil =>
    rw [dotSegments, List.mem_singleton] at member
    simp [member]
  | cons c rest ih =>
    unfold dotSegments at member
    split at member
    next =>
      rcases List.mem_cons.mp member with rfl | later
      · exact List.not_mem_nil
      · exact ih later
    next letter =>
      cases segments : dotSegments rest with
      | nil => exact absurd segments (dotSegments_ne_nil rest)
      | cons first others =>
        rw [segments] at ih member
        rcases List.mem_cons.mp member with rfl | later
        · intro inside
          rcases List.mem_cons.mp inside with dot | within
          · exact letter dot.symm
          · exact ih List.mem_cons_self within
        · exact ih (List.mem_cons_of_mem _ later)

theorem not_mem_of_dotSegments_eq_singleton {letters segment : List Char}
    (single : dotSegments letters = [segment]) : '.' ∉ letters := by
  have joined := joinDots_dotSegments letters
  rw [single, List.map_singleton, joinDots, String.intercalate_singleton] at joined
  obtain rfl : segment = letters := by simpa using congrArg String.toList joined
  exact not_mem_of_mem_dotSegments (single ▸ List.mem_singleton.mpr rfl)

theorem exists_segments {name : String}
    (filled : (dotSegments name.toList).any (·.isEmpty) = false) :
    ∃ segments : List String, dotSegments name.toList = segments.map String.toList ∧
      name = joinDots segments ∧ ∀ segment ∈ segments, IsSegment segment := by
  refine ⟨(dotSegments name.toList).map String.ofList, by simp, ?_, ?_⟩
  · rw [joinDots_dotSegments, String.ofList_toList]
  · intro segment member
    obtain ⟨letters, inside, rfl⟩ := List.mem_map.mp member
    have nonempty := List.any_eq_false.mp filled letters inside
    refine ⟨?_, ?_⟩
    · simpa using nonempty
    · simpa using not_mem_of_mem_dotSegments inside

end Text

open Text

namespace ClassName

theorem bestGuess?_joinDots {segments : List String} (some : segments ≠ [])
    (all : ∀ segment ∈ segments, IsSegment segment) :
    bestGuess? (joinDots segments) =
      ofNames? (joinDots (segments.takeWhile (!startsUppercase ·.toList)))
        (segments.dropWhile (!startsUppercase ·.toList)) := by
  obtain ⟨first, rest, rfl⟩ := List.exists_cons_of_ne_nil some
  have parted := dotSegments_joinDots fun other member => (all other member).plain
  rw [← List.map_cons] at parted
  have filled : ((first :: rest).map String.toList).any (·.isEmpty) = false := by
    rw [List.any_eq_false]
    intro letters member
    obtain ⟨segment, inside, rfl⟩ := List.mem_map.mp member
    simpa using (all segment inside).nonempty
  simp only [bestGuess?, parted, filled, List.span_eq_takeWhile_dropWhile, List.takeWhile_map,
    List.dropWhile_map, List.map_map, Function.comp_def, String.ofList_toList, List.map_id',
    Bool.false_eq_true, if_false]

/-- A guess takes the first segment that starts uppercase for the outermost class. -/
theorem bestGuess?_eq_some_iff {name : String} {className : ClassName} :
    bestGuess? name = some className ↔ ∃ package : List String,
      (∀ segment ∈ package, IsSegment segment ∧ startsUppercase segment.toList = false) ∧
      (∀ segment ∈ className.names, IsSegment segment) ∧
      startsUppercase className.outermost.toList = true ∧
      className.package = joinDots package ∧ name = joinDots (package ++ className.names) := by
  constructor
  · intro guessed
    cases filled : (dotSegments name.toList).any (·.isEmpty) with
    | true => simp [bestGuess?, filled] at guessed
    | false =>
      obtain ⟨segments, parted, rfl, all⟩ := exists_segments filled
      have some : segments ≠ [] := by
        rintro rfl
        exact dotSegments_ne_nil _ parted
      rw [bestGuess?_joinDots some all] at guessed
      have whole := List.takeWhile_append_dropWhile
        (p := fun segment : String => !startsUppercase segment.toList) (l := segments)
      cases classes : segments.dropWhile (!startsUppercase ·.toList) with
      | nil => simp [classes, ofNames?] at guessed
      | cons outermost inner =>
        rw [classes] at guessed whole
        obtain rfl := Option.some.inj guessed
        refine ⟨_, ?_, ?_, ?_, rfl, (congrArg joinDots whole).symm⟩
        · intro segment member
          have lower := List.all_eq_true.mp List.all_takeWhile segment member
          exact ⟨all segment ((List.takeWhile_prefix _).subset member), by simpa using lower⟩
        · intro segment member
          exact all segment (whole ▸ List.mem_append_right _ member)
        · have upper := List.head_dropWhile_not (fun segment : String =>
            !startsUppercase segment.toList) (l := segments) (by simp [classes])
          simpa [classes] using upper
  · rintro ⟨package, lower, classes, upper, joined, rfl⟩
    have all : ∀ segment ∈ package ++ className.names, IsSegment segment := by
      intro segment member
      exact (List.mem_append.mp member).elim (fun inside => (lower segment inside).1) (classes segment)
    have inside : ∀ segment ∈ package, (!startsUppercase segment.toList) = true := by
      intro segment member
      rw [(lower segment member).2, Bool.not_false]
    have outside : (!startsUppercase className.outermost.toList) = false := by
      rw [upper, Bool.not_true]
    rw [bestGuess?_joinDots (by simp [names]) all, List.takeWhile_append_of_pos inside,
      List.dropWhile_append_of_pos inside, names, List.takeWhile_cons_of_neg (by simp [upper]),
      List.dropWhile_cons_of_neg (by simp [upper]), List.append_nil, ← joined]
    rfl

end ClassName

namespace Scope

/-- What a name means. A name without dots is looked up. A dotted name that starts uppercase is
nested in the plain class that its first segment means. Any other dotted name is a package and, from
the first segment that starts uppercase, classes. -/
inductive Means (scope : Scope) : String → TypeName → Prop
  | simple {name : String} (plain : '.' ∉ name.toList) : Means scope name (scope.simple name)
  | nested {first next : String} {rest : List String} {outer : ClassName}
      (all : ∀ segment ∈ first :: next :: rest, IsSegment segment)
      (upper : startsUppercase first.toList = true) (found : scope.simple first = .named outer) :
      Means scope (joinDots (first :: next :: rest))
        (.named { outer with inner := outer.inner ++ next :: rest })
  | qualified {first : String} {package : List String} {className : ClassName}
      (lower : ∀ segment ∈ first :: package,
        IsSegment segment ∧ startsUppercase segment.toList = false)
      (classes : ∀ segment ∈ className.names, IsSegment segment)
      (upper : startsUppercase className.outermost.toList = true)
      (joined : className.package = joinDots (first :: package)) :
      Means scope (joinDots (first :: package ++ className.names)) (.named className)

theorem foldl_nested (segments : List String) (outer : ClassName) :
    (segments.map String.toList).foldl
        (fun name segment => name.nested (String.ofList segment)) outer =
      { outer with inner := outer.inner ++ segments } := by
  induction segments generalizing outer with
  | nil => simp
  | cons segment segments ih =>
    rw [List.map_cons, List.foldl_cons, ih]
    simp [ClassName.nested]

theorem resolve?_joinDots (scope : Scope) {first next : String} {rest : List String}
    (all : ∀ segment ∈ first :: next :: rest, IsSegment segment) :
    scope.resolve? (joinDots (first :: next :: rest)) =
      if startsUppercase first.toList then
        match scope.simple first with
        | .named outer => some (.named { outer with inner := outer.inner ++ next :: rest })
        | _ => none
      else TypeName.named <$> ClassName.bestGuess? (joinDots (first :: next :: rest)) := by
  have parted := dotSegments_joinDots fun other member => (all other member).plain
  have filled : (first.toList.isEmpty ||
      ((next :: rest).map String.toList).any (·.isEmpty)) = false := by
    have nonempty : ∀ segment ∈ first :: next :: rest, segment.toList.isEmpty = false := by
      intro segment member
      simpa using (all segment member).nonempty
    rw [Bool.or_eq_false_iff, List.any_eq_false]
    refine ⟨nonempty first List.mem_cons_self, ?_⟩
    intro letters member
    obtain ⟨segment, inside, rfl⟩ := List.mem_map.mp member
    simp [nonempty segment (List.mem_cons_of_mem _ inside)]
  have inside := foldl_nested (next :: rest)
  rw [List.map_cons] at filled inside
  unfold resolve?
  rw [parted, List.map_cons]
  simp only [filled, Bool.false_eq_true, if_false, String.ofList_toList]
  cases scope.simple first <;> simp only [inside]

theorem Means.resolve?_eq {scope : Scope} {name : String} {type : TypeName}
    (means : scope.Means name type) : scope.resolve? name = some type := by
  cases means with
  | simple plain => simp [resolve?, dotSegments_of_not_mem plain]
  | nested all upper found => simp only [resolve?_joinDots scope all, upper, if_true, found]
  | @qualified first package className lower classes upper joined =>
    obtain ⟨next, rest, same⟩ : ∃ next rest, package ++ className.names = next :: rest :=
      List.exists_cons_of_ne_nil (by simp [ClassName.names])
    have all : ∀ segment ∈ first :: next :: rest, IsSegment segment := by
      intro segment member
      rw [← same, ← List.cons_append] at member
      exact (List.mem_append.mp member).elim (fun inside => (lower segment inside).1)
        (classes segment)
    have guessed := ClassName.bestGuess?_eq_some_iff.mpr
      ⟨first :: package, lower, classes, upper, joined, rfl⟩
    rw [List.cons_append, same] at guessed ⊢
    rw [resolve?_joinDots scope all, (lower first List.mem_cons_self).2, guessed]
    rfl

theorem means_of_segments {scope : Scope} {first next : String} {rest : List String}
    (all : ∀ segment ∈ first :: next :: rest, IsSegment segment) {type : TypeName}
    (resolved : scope.resolve? (joinDots (first :: next :: rest)) = some type) :
    scope.Means (joinDots (first :: next :: rest)) type := by
  rw [resolve?_joinDots scope all] at resolved
  split at resolved
  next upper =>
    split at resolved
    next outer found =>
      obtain rfl := Option.some.inj resolved
      exact .nested all upper found
    next => cases resolved
  next lower =>
    obtain ⟨className, guessed, rfl⟩ := Option.map_eq_some_iff.mp resolved
    obtain ⟨package, package_lower, classes, upper, joined, same⟩ :=
      ClassName.bestGuess?_eq_some_iff.mp guessed
    cases package with
    | nil =>
      -- then the first segment would be the outermost class
      have segments := joinDots_injective all classes same
      exact absurd ((List.cons.inj segments).1 ▸ upper) lower
    | cons first package =>
      rw [same]
      exact .qualified package_lower classes upper joined

theorem means_iff {scope : Scope} {name : String} {type : TypeName} :
    scope.Means name type ↔ scope.resolve? name = some type := by
  refine ⟨Means.resolve?_eq, fun resolved => ?_⟩
  cases parted : dotSegments name.toList with
  | nil => exact absurd parted (dotSegments_ne_nil _)
  | cons letters others =>
    cases others with
    | nil =>
      simp only [resolve?, parted, Option.some.injEq] at resolved
      exact resolved ▸ .simple (not_mem_of_dotSegments_eq_singleton parted)
    | cons more others =>
      have filled : (dotSegments name.toList).any (·.isEmpty) = false := by
        by_contra empty
        rw [parted, List.any_cons, Bool.not_eq_false] at empty
        simp only [resolve?, parted, empty, if_true, reduceCtorEq] at resolved
      obtain ⟨segments, split, rfl, all⟩ := exists_segments filled
      rw [parted] at split
      match segments with
      | [] => cases split
      | [_] => cases split
      | first :: next :: rest => exact means_of_segments all resolved

end Scope

end ClassCompiler
