import ClassCompiler.Proofs.TypeText

/-! The places of names in types. A name that stands somewhere in a type token has its meaning at a
place of the type, and the symbols before and behind the name say at which one. -/

namespace ClassCompiler
open Text

/-- A type in which one place is open. -/
inductive Place
  | whole
  | raw (arguments : List TypeName)
  | argument (raw : ClassName) (before : List TypeName) (inner : Place) (after : List TypeName)
  | component (inner : Place)
  | upper (inner : Place)
  | lower (inner : Place)

namespace Place

def fill? : Place → TypeName → Option TypeName
  | whole, type => some type
  | raw arguments, .named name => some (.generic name arguments)
  | raw _, _ => none
  | argument name before inner after, type =>
    (inner.fill? type).map fun filled => .generic name (before ++ filled :: after)
  | component inner, type => (inner.fill? type).map .array
  | upper inner, type => (inner.fill? type).map .covariant
  | lower inner, type => (inner.fill? type).map .contravariant

def arrays (place : Place) : Nat → Place
  | 0 => place
  | depth + 1 => arrays (.component place) depth

theorem fill?_arrays (place : Place) (depth : Nat) (type : TypeName) :
    (place.arrays depth).fill? type = (place.fill? type).map (·.arrays depth) := by
  induction depth generalizing place with
  | zero => simp [arrays, TypeName.arrays]
  | succ depth ih =>
    rw [arrays, ih, fill?, Option.map_map]
    rfl

theorem fill?_injective {place : Place} {type other whole : TypeName}
    (first : place.fill? type = some whole) (second : place.fill? other = some whole) :
    type = other := by
  induction place generalizing whole with
  | whole => exact Option.some.inj (first.trans second.symm)
  | raw arguments =>
    cases type with
    | named name =>
      cases other with
      | named name' =>
        cases first
        cases second
        rfl
      | _ => cases second
    | _ => cases first
  | argument name before inner after ih =>
    obtain ⟨filled, fits, rfl⟩ := Option.map_eq_some_iff.mp first
    obtain ⟨filled', fits', same⟩ := Option.map_eq_some_iff.mp second
    obtain rfl : filled' = filled := by simpa using same
    exact ih fits fits'
  | component inner ih | upper inner ih | lower inner ih =>
    obtain ⟨filled, fits, rfl⟩ := Option.map_eq_some_iff.mp first
    obtain ⟨filled', fits', same⟩ := Option.map_eq_some_iff.mp second
    cases same
    exact ih fits fits'

def withClass : Place → ClassName → TypeName
  | whole, name => .named name
  | raw arguments, name => .generic name arguments
  | argument outer before inner after, name =>
    .generic outer (before ++ inner.withClass name :: after)
  | component inner, name => .array (inner.withClass name)
  | upper inner, name => .covariant (inner.withClass name)
  | lower inner, name => .contravariant (inner.withClass name)

theorem fill?_named (place : Place) (name : ClassName) :
    place.fill? (.named name) = some (place.withClass name) := by
  induction place with
  | whole | raw => rfl
  | argument outer before inner after ih | component inner ih | upper inner ih | lower inner ih =>
    rw [fill?, ih]
    rfl

theorem withClass_ne {first second : ClassName} (different : first ≠ second) (place : Place) :
    place.withClass first ≠ place.withClass second := by
  intro same
  have filled := place.fill?_named second
  rw [← same] at filled
  exact different (TypeName.named.inj (fill?_injective (place.fill?_named first) filled))

theorem eq_of_two_fillings {α : Type} {before after before' after' : List α} {a b a' b' : α}
    (different : a ≠ b) (first : before ++ a :: after = before' ++ a' :: after')
    (second : before ++ b :: after = before' ++ b' :: after') :
    before = before' ∧ after = after' ∧ a = a' ∧ b = b' := by
  induction before generalizing before' with
  | nil =>
    cases before' with
    | nil =>
      simp only [List.nil_append, List.cons.injEq] at first second
      exact ⟨rfl, first.2, first.1, second.1⟩
    | cons c before' =>
      simp only [List.nil_append, List.cons_append, List.cons.injEq] at first second
      exact absurd (first.1.trans second.1.symm) different
  | cons c before ih =>
    cases before' with
    | nil =>
      simp only [List.nil_append, List.cons_append, List.cons.injEq] at first second
      have same := first.2.trans second.2.symm
      exact absurd (by simpa using same) different
    | cons c' before' =>
      simp only [List.cons_append, List.cons.injEq] at first second
      obtain ⟨rfl, behind⟩ := first
      obtain ⟨rfl, rest⟩ := ih behind second.2
      exact ⟨rfl, rest⟩

/-- Two classes tell places apart. -/
theorem eq_of_withClass {first second : ClassName} (different : first ≠ second)
    {place other : Place} (same : place.withClass first = other.withClass first)
    (same' : place.withClass second = other.withClass second) : place = other := by
  induction place generalizing other with
  | whole => cases other <;> simp [withClass] at same ⊢
  | raw arguments =>
    cases other with
    | raw others => simpa [withClass] using same
    | argument outer before inner after =>
      -- the one outer class would have to be both
      simp only [withClass, TypeName.generic.injEq] at same same'
      exact absurd (same.1.trans same'.1.symm) different
    | _ => cases same
  | argument outer before inner after ih =>
    cases other with
    | raw others =>
      simp only [withClass, TypeName.generic.injEq] at same same'
      exact absurd (same.1.symm.trans same'.1) different
    | argument outer' before' inner' after' =>
      simp only [withClass, TypeName.generic.injEq] at same same'
      obtain ⟨rfl, filled⟩ := same
      obtain ⟨rfl, rfl, inside, inside'⟩ :=
        eq_of_two_fillings (inner.withClass_ne different) filled same'.2
      rw [ih inside inside']
    | _ => cases same
  | component inner ih | upper inner ih | lower inner ih =>
    cases other <;> simp only [withClass, reduceCtorEq] at same
    simp only [withClass] at same'
    rw [ih (by simpa using same) (by simpa using same')]

end Place

namespace Scope

variable {scope : Scope}

/-- The meaning stands in the type between these symbols. Whatever name is put between them, its
meaning comes to the same place. -/
def Stands (scope : Scope) (before after : List Symbol) (type meaning : TypeName) : Prop :=
  ∃ place : Place, place.fill? meaning = some type ∧
    ∀ other found whole, scope.Means other found → place.fill? found = some whole →
      scope.Denotes (before ++ .name other :: after) whole

def StandsAmong (scope : Scope) (before after : List Symbol) (types : List TypeName)
    (meaning : TypeName) : Prop :=
  ∃ (front : List TypeName) (place : Place) (back : List TypeName),
    (∃ type, place.fill? meaning = some type ∧ types = front ++ type :: back) ∧
    ∀ other found whole, scope.Means other found → place.fill? found = some whole →
      scope.DenotesAll (before ++ .name other :: after) (front ++ whole :: back)

theorem before_or_behind {mark symbol : Symbol} (different : mark ≠ symbol)
    {word others before after : List Symbol}
    (same : word ++ mark :: others = before ++ symbol :: after) :
    (∃ rest, word = before ++ symbol :: rest ∧ after = rest ++ mark :: others) ∨
      ∃ rest, before = word ++ mark :: rest ∧ others = rest ++ symbol :: after := by
  rcases List.append_eq_append_iff.mp same with ⟨rest, longer, tail⟩ | ⟨rest, longer, tail⟩
  · cases rest with
    | nil => exact absurd (List.cons.inj tail).1 different
    | cons first rest =>
      obtain ⟨rfl, behind⟩ := List.cons.inj tail
      exact .inr ⟨rest, longer, behind⟩
  · cases rest with
    | nil => exact absurd (List.cons.inj tail).1.symm different
    | cons first rest =>
      obtain ⟨rfl, behind⟩ := List.cons.inj tail
      exact .inl ⟨rest, longer, behind⟩

theorem name_not_mem_brackets (name : String) (depth : Nat) : .name name ∉ brackets depth := by
  induction depth with
  | zero => exact List.not_mem_nil
  | succ depth ih => simpa [brackets] using ih

theorem brackets_ne {name : String} {depth : Nat} {before after : List Symbol} :
    brackets depth ≠ before ++ .name name :: after := by
  intro same
  have inside : .name name ∈ before ++ .name name :: after := by simp
  exact name_not_mem_brackets name depth (same ▸ inside)

theorem exists_bound {keyword name : String} (different : name ≠ keyword)
    {word before after : List Symbol}
    (parted : .question :: .name keyword :: word = before ++ .name name :: after) :
    ∃ inner, before = .question :: .name keyword :: inner ∧
      word = inner ++ .name name :: after := by
  cases before with
  | nil => cases parted
  | cons first before =>
    cases before with
    | nil =>
      cases parted
      exact absurd rfl different
    | cons second inner =>
      simp only [List.cons_append, List.cons.injEq] at parted
      obtain ⟨rfl, rfl, rfl⟩ := parted
      exact ⟨inner, rfl, rfl⟩

section

variable {before after : List Symbol} {type meaning : TypeName}

theorem Stands.of_name (meaning : TypeName) (depth : Nat) :
    scope.Stands [] (brackets depth) (meaning.arrays depth) meaning := by
  refine ⟨Place.whole.arrays depth, by simp [Place.fill?_arrays, Place.fill?], ?_⟩
  intro other found whole means filled
  rw [Place.fill?_arrays, Place.fill?, Option.map_some, Option.some.injEq] at filled
  exact filled ▸ .name means depth

theorem Stands.of_raw {raw : ClassName} {word : List Symbol} {arguments : List TypeName}
    (inside : scope.DenotesAll word arguments) (depth : Nat) :
    scope.Stands [] (.less :: (word ++ .greater :: brackets depth))
      ((TypeName.generic raw arguments).arrays depth) (.named raw) := by
  refine ⟨(Place.raw arguments).arrays depth, by simp [Place.fill?_arrays, Place.fill?], ?_⟩
  intro other found whole means filled
  rw [Place.fill?_arrays] at filled
  cases found with
  | named raw =>
    rw [Place.fill?, Option.map_some, Option.some.injEq] at filled
    exact filled ▸ .generic means inside depth
  | _ => cases filled

theorem StandsAmong.arguments {outer : String} {raw : ClassName} {arguments : List TypeName}
    (means : scope.Means outer (.named raw)) (depth : Nat)
    (stands : scope.StandsAmong before after arguments meaning) :
    scope.Stands (.name outer :: .less :: before) (after ++ .greater :: brackets depth)
      ((TypeName.generic raw arguments).arrays depth) meaning := by
  obtain ⟨front, place, back, ⟨type, fits, rfl⟩, fills⟩ := stands
  refine ⟨(Place.argument raw front place back).arrays depth, ?_, ?_⟩
  · rw [Place.fill?_arrays, Place.fill?, fits]
    rfl
  · intro other found whole meant filled
    rw [Place.fill?_arrays, Place.fill?, Option.map_map, Option.map_eq_some_iff] at filled
    obtain ⟨inner, fits, rfl⟩ := filled
    have denotes := Denotes.generic means (fills other found inner meant fits) depth
    rwa [List.append_assoc, List.cons_append] at denotes

theorem Stands.bound {keyword : String} (place : Place → Place) (wildcard : TypeName → TypeName)
    (fills : ∀ inner type, (place inner).fill? type = (inner.fill? type).map wildcard)
    (bounds : ∀ word type, scope.Denotes word type →
      scope.Denotes (.question :: .name keyword :: word) (wildcard type))
    (stands : scope.Stands before after type meaning) :
    scope.Stands (.question :: .name keyword :: before) after (wildcard type) meaning := by
  obtain ⟨inner, fits, inside⟩ := stands
  refine ⟨place inner, by rw [fills, fits]; rfl, ?_⟩
  intro other found whole means filled
  rw [fills, Option.map_eq_some_iff] at filled
  obtain ⟨bound, fits, rfl⟩ := filled
  exact bounds _ _ (inside other found bound means fits)

theorem Stands.one (stands : scope.Stands before after type meaning) :
    scope.StandsAmong before after [type] meaning := by
  obtain ⟨place, fits, fills⟩ := stands
  refine ⟨[], place, [], ⟨type, fits, rfl⟩, ?_⟩
  exact fun other found whole means filled => .one (fills other found whole means filled)

theorem Stands.first {others : List Symbol} {types : List TypeName}
    (stands : scope.Stands before after type meaning) (rest : scope.DenotesAll others types) :
    scope.StandsAmong before (after ++ .comma :: others) (type :: types) meaning := by
  obtain ⟨place, fits, fills⟩ := stands
  refine ⟨[], place, types, ⟨type, fits, rfl⟩, ?_⟩
  intro other found whole means filled
  have denotes := DenotesAll.more (fills other found whole means filled) rest
  rwa [List.append_assoc, List.cons_append] at denotes

theorem StandsAmong.later {word : List Symbol} {types : List TypeName}
    (first : scope.Denotes word type) (stands : scope.StandsAmong before after types meaning) :
    scope.StandsAmong (word ++ .comma :: before) after (type :: types) meaning := by
  obtain ⟨front, place, back, ⟨inner, fits, rfl⟩, fills⟩ := stands
  refine ⟨type :: front, place, back, ⟨inner, fits, rfl⟩, ?_⟩
  intro other found whole means filled
  have denotes := DenotesAll.more first (fills other found whole means filled)
  rwa [List.append_assoc, List.cons_append]

end

mutual

/-- Every name in the symbols of a type has its meaning at its place. Only the words before bounds are
no names. -/
theorem exists_stands {word before after : List Symbol} {name : String} {type : TypeName}
    (unreserved : name ≠ "extends" ∧ name ≠ "super")
    (parted : word = before ++ .name name :: after) : scope.Denotes word type →
      ∃ meaning, scope.Means name meaning ∧ scope.Stands before after type meaning
  | .name means depth => by
    cases before with
    | nil =>
      cases parted
      exact ⟨_, means, .of_name _ depth⟩
    | cons first before => exact absurd (List.cons.inj parted).2 brackets_ne
  | @Denotes.generic _ outer raw word arguments means inside depth => by
    cases before with
    | nil =>
      cases parted
      exact ⟨_, means, .of_raw inside depth⟩
    | cons first before =>
      cases before with
      | nil => cases parted
      | cons second before =>
        simp only [List.cons_append, List.cons.injEq] at parted
        obtain ⟨rfl, rfl, parted⟩ := parted
        -- behind the arguments there are only brackets
        rcases before_or_behind (by simp) parted with ⟨rest, inner, rfl⟩ | ⟨rest, -, behind⟩
        · obtain ⟨meaning, meant, stands⟩ := exists_standsAmong unreserved inner inside
          exact ⟨meaning, meant, stands.arguments means depth⟩
        · exact absurd behind brackets_ne
  | .wildcard depth => by
    cases before with
    | nil => cases parted
    | cons first before => exact absurd (List.cons.inj parted).2 brackets_ne
  | .covariant inside => by
    obtain ⟨inner, rfl, behind⟩ := exists_bound unreserved.1 parted
    obtain ⟨meaning, means, stands⟩ := exists_stands unreserved behind inside
    exact ⟨meaning, means, stands.bound .upper .covariant (fun _ _ => rfl) fun _ _ => .covariant⟩
  | .contravariant inside => by
    obtain ⟨inner, rfl, behind⟩ := exists_bound unreserved.2 parted
    obtain ⟨meaning, means, stands⟩ := exists_stands unreserved behind inside
    exact ⟨meaning, means,
      stands.bound .lower .contravariant (fun _ _ => rfl) fun _ _ => .contravariant⟩

theorem exists_standsAmong {word before after : List Symbol} {name : String}
    {types : List TypeName} (unreserved : name ≠ "extends" ∧ name ≠ "super")
    (parted : word = before ++ .name name :: after) : scope.DenotesAll word types →
      ∃ meaning, scope.Means name meaning ∧ scope.StandsAmong before after types meaning
  | .one only => by
    obtain ⟨meaning, means, stands⟩ := exists_stands unreserved parted only
    exact ⟨meaning, means, stands.one⟩
  | .more first rest => by
    rcases before_or_behind (by simp) parted with ⟨more, inner, rfl⟩ | ⟨more, rfl, inner⟩
    · obtain ⟨meaning, means, stands⟩ := exists_stands unreserved inner first
      exact ⟨meaning, means, stands.first rest⟩
    · obtain ⟨meaning, means, stands⟩ := exists_standsAmong unreserved inner rest
      exact ⟨meaning, means, stands.later first⟩

end

theorem Denotes.unique {word : List Symbol} {type other : TypeName}
    (denotes : scope.Denotes word type) (denotes' : scope.Denotes word other) : type = other := by
  have ends : Ends [] := fun _ member => nomatch member
  have read := readType_of_denotes ends (Nat.le_refl _) denotes
  rw [readType_of_denotes ends (Nat.le_refl _) denotes'] at read
  cases read
  rfl

/-- The symbols around a place say where in the type it is, so one meaning stands there. -/
theorem Stands.unique {before after : List Symbol} {type meaning other : TypeName}
    (stands : scope.Stands before after type meaning)
    (stands' : scope.Stands before after type other) : meaning = other := by
  obtain ⟨place, fits, fills⟩ := stands
  obtain ⟨place', fits', fills'⟩ := stands'
  have agree {name : ClassName} (qualified : name.Qualified) :
      place.withClass name = place'.withClass name := by
    have means := qualified.means scope
    exact (fills _ _ _ means (place.fill?_named _)).unique
      (fills' _ _ _ means (place'.fill?_named _))
  -- qualified names mean the same in every scope
  have first : ClassName.Qualified ⟨"a", "A", []⟩ :=
    ⟨⟨"a", [], by decide +kernel⟩, by decide +kernel, by decide +kernel⟩
  have second : ClassName.Qualified ⟨"a", "B", []⟩ :=
    ⟨⟨"a", [], by decide +kernel⟩, by decide +kernel, by decide +kernel⟩
  have same := Place.eq_of_withClass (by decide) (agree first) (agree second)
  subst same
  exact Place.fill?_injective fits fits'

theorem Means.eq_simple {name : String} (plain : '.' ∉ name.toList) {type : TypeName}
    (means : scope.Means name type) : type = scope.simple name := by
  have found := (@Means.simple scope name plain).resolve?_eq
  rw [means.resolve?_eq] at found
  exact Option.some.inj found

end Scope

end ClassCompiler
