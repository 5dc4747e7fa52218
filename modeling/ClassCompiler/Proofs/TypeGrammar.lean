import ClassCompiler.Proofs.DottedNames
import ClassCompiler.Proofs.Steps

/-! The language of type tokens. A token is a text of names, marks and blanks; a grammar says which
sequences of names and marks spell a type, and which one. The reader of type tokens accepts exactly
what the grammar derives. -/

namespace ClassCompiler
open Text

namespace Symbol

/-- The text is written in these symbols. Blanks may stand anywhere but inside a name, and a name
is as long as it can be. -/
inductive Written : List Char → List Symbol → Prop
  | nil : Written [] []
  | blank {c : Char} {text : List Char} {symbols : List Symbol} (blank : isBlank c = true)
      (rest : Written text symbols) : Written (c :: text) symbols
  | mark {c : Char} {symbol : Symbol} {text : List Char} {symbols : List Symbol}
      (mark : ofChar? c = some symbol) (rest : Written text symbols) :
      Written (c :: text) (symbol :: symbols)
  | name {letters text : List Char} {symbols : List Symbol} (some : letters ≠ [])
      (all : ∀ c ∈ letters, isNameChar c = true) (ends : ∀ c ∈ text.head?, isNameChar c = false)
      (rest : Written text symbols) :
      Written (letters ++ text) (.name (String.ofList letters) :: symbols)

theorem blankSpans_outside_names : ∀ span ∈ blankSpans,
    ∀ code ∈ List.range' span.1 (span.2 + 1 - span.1), isNameChar (Char.ofNat code) = false := by
  decide +kernel

theorem not_isNameChar_of_isBlank {c : Char} (blank : isBlank c = true) : isNameChar c = false := by
  obtain ⟨span, member, above, below⟩ := covered_iff.mp blank
  have outside := blankSpans_outside_names span member c.toNat
    (List.mem_range'_1.mpr ⟨above, by omega⟩)
  rwa [Char.ofNat_toNat] at outside

theorem not_isNameChar_of_ofChar? {c : Char} {symbol : Symbol} (mark : ofChar? c = some symbol) :
    isNameChar c = false := by
  unfold ofChar? at mark
  split at mark
  case h_7 => cases mark
  all_goals decide +kernel

theorem not_isBlank_of_ofChar? {c : Char} {symbol : Symbol} (mark : ofChar? c = some symbol) :
    isBlank c = false := by
  unfold ofChar? at mark
  split at mark
  case h_7 => cases mark
  all_goals decide +kernel

theorem scan_mark {c : Char} {symbol : Symbol} (mark : ofChar? c = some symbol)
    (letters text : List Char) :
    scan letters (c :: text) = (fun rest => endName letters (symbol :: rest)) <$> scan [] text := by
  simp only [scan, mark]
  cases scan [] text <;> rfl

theorem scan_blank {c : Char} (blank : isBlank c = true) (letters text : List Char) :
    scan letters (c :: text) = endName letters <$> scan [] text := by
  have unmarked : ofChar? c = none := by
    cases mark : ofChar? c with
    | none => rfl
    | some symbol => simp [not_isBlank_of_ofChar? mark] at blank
  simp only [scan, unmarked, blank, if_true]
  cases scan [] text <;> rfl

theorem scan_letter {c : Char} (letter : isNameChar c = true) (letters text : List Char) :
    scan letters (c :: text) = scan (c :: letters) text := by
  have unmarked : ofChar? c = none := by
    cases mark : ofChar? c with
    | none => rfl
    | some symbol => simp [not_isNameChar_of_ofChar? mark] at letter
  have filled : isBlank c = false := by
    by_contra blank
    rw [Bool.not_eq_false] at blank
    simp [not_isNameChar_of_isBlank blank] at letter
  simp [scan, unmarked, filled, letter]

theorem scan_letters {name : List Char} (all : ∀ c ∈ name, isNameChar c = true)
    (letters text : List Char) : scan letters (name ++ text) = scan (name.reverse ++ letters) text := by
  induction name generalizing letters with
  | nil => rfl
  | cons c name ih =>
    rw [List.cons_append, scan_letter (all c List.mem_cons_self),
      ih fun other member => all other (List.mem_cons_of_mem _ member), List.reverse_cons,
      List.append_assoc, List.singleton_append]

theorem scan_end {text : List Char} (ends : ∀ c ∈ text.head?, isNameChar c = false)
    (letters : List Char) : scan letters text = endName letters <$> scan [] text := by
  cases text with
  | nil => rfl
  | cons c text =>
    cases mark : ofChar? c with
    | some symbol =>
      rw [scan_mark mark, scan_mark mark]
      cases scan [] text <;> rfl
    | none =>
      by_cases blank : isBlank c = true
      · rw [scan_blank blank, scan_blank blank]
        cases scan [] text <;> rfl
      · have outside := ends c rfl
        simp only [scan, mark, blank, outside]
        rfl

theorem scan_eq_ok_of_written {text : List Char} {symbols : List Symbol}
    (written : Written text symbols) : scan [] text = .ok symbols := by
  induction written with
  | nil => rfl
  | blank blank rest ih =>
    rw [scan_blank blank, ih]
    rfl
  | mark mark rest ih =>
    rw [scan_mark mark, ih]
    rfl
  | name some all ends rest ih =>
    rw [scan_letters all, scan_end ends, ih, List.append_nil]
    simp [endName, some]

theorem Written.endName {letters text : List Char} {symbols : List Symbol}
    (all : ∀ c ∈ letters, isNameChar c = true) (ends : ∀ c ∈ text.head?, isNameChar c = false)
    (rest : Written text symbols) :
    Written (letters.reverse ++ text) (endName letters symbols) := by
  unfold Symbol.endName
  split
  next none =>
    rw [List.isEmpty_iff.mp none]
    exact rest
  next some =>
    refine .name (by simpa using some) (fun c member => ?_) ends rest
    exact all c (List.mem_reverse.mp member)

theorem written_of_scan {letters text : List Char} {symbols : List Symbol}
    (all : ∀ c ∈ letters, isNameChar c = true) (scanned : scan letters text = .ok symbols) :
    Written (letters.reverse ++ text) symbols := by
  -- The letters of the name that is being read are kept; the induction is on the text behind them.
  induction text generalizing letters symbols with
  | nil =>
    cases scanned
    exact .endName all (fun _ member => nomatch member) .nil
  | cons c text ih =>
    have none : ∀ c ∈ ([] : List Char), isNameChar c = true := fun _ member => nomatch member
    cases mark : ofChar? c with
    | some symbol =>
      rw [scan_mark mark] at scanned
      cases rest : scan [] text with
      | error fault => simp [rest] at scanned
      | ok symbols =>
        rw [rest] at scanned
        cases scanned
        refine .endName all ?_ (.mark mark (ih none rest))
        simpa using not_isNameChar_of_ofChar? mark
    | none =>
      by_cases blank : isBlank c = true
      · rw [scan_blank blank] at scanned
        cases rest : scan [] text with
        | error fault => simp [rest] at scanned
        | ok symbols =>
          rw [rest] at scanned
          cases scanned
          refine .endName all ?_ (.blank blank (ih none rest))
          simpa using not_isNameChar_of_isBlank blank
      · by_cases letter : isNameChar c = true
        · rw [scan_letter letter] at scanned
          have longer : ∀ other ∈ c :: letters, isNameChar other = true := by
            simpa [letter] using all
          simpa using ih longer scanned
        · simp [scan, mark, blank, letter] at scanned

theorem ofText_eq_ok_iff {text : String} {symbols : List Symbol} :
    ofText text = .ok symbols ↔ Written text.toList symbols :=
  ⟨@written_of_scan [] _ _ (fun _ member => nomatch member), scan_eq_ok_of_written⟩

end Symbol

def TypeName.arrays (component : TypeName) : Nat → TypeName
  | 0 => component
  | depth + 1 => arrays (.array component) depth

namespace Scope

def brackets : Nat → List Symbol
  | 0 => []
  | depth + 1 => .openBracket :: .closeBracket :: brackets depth

mutual

/-- The symbols spell the type. Brackets go with names, their arguments and bare wildcards; those
behind the bound of a wildcard belong to the bound. -/
inductive Denotes (scope : Scope) : List Symbol → TypeName → Prop
  | name {name : String} {type : TypeName} (means : scope.Means name type) (depth : Nat) :
      Denotes scope (.name name :: brackets depth) (type.arrays depth)
  | generic {name : String} {raw : ClassName} {word : List Symbol} {arguments : List TypeName}
      (means : scope.Means name (.named raw)) (inside : DenotesAll scope word arguments)
      (depth : Nat) :
      Denotes scope (.name name :: .less :: (word ++ .greater :: brackets depth))
        ((TypeName.generic raw arguments).arrays depth)
  | wildcard (depth : Nat) :
      Denotes scope (.question :: brackets depth) (TypeName.wildcard.arrays depth)
  | covariant {word : List Symbol} {bound : TypeName} (inside : Denotes scope word bound) :
      Denotes scope (.question :: .name "extends" :: word) (.covariant bound)
  | contravariant {word : List Symbol} {bound : TypeName} (inside : Denotes scope word bound) :
      Denotes scope (.question :: .name "super" :: word) (.contravariant bound)

inductive DenotesAll (scope : Scope) : List Symbol → List TypeName → Prop
  | one {word : List Symbol} {type : TypeName} (only : Denotes scope word type) :
      DenotesAll scope word [type]
  | more {word others : List Symbol} {type : TypeName} {types : List TypeName}
      (first : Denotes scope word type) (rest : DenotesAll scope others types) :
      DenotesAll scope (word ++ .comma :: others) (type :: types)

end

theorem DenotesAll.nonempty {scope : Scope} {word : List Symbol} {types : List TypeName}
    (denotes : scope.DenotesAll word types) : types ≠ [] := by
  cases denotes <;> exact List.cons_ne_nil _ _

theorem apply_eq_ok_iff {scope : Scope} {name : String} {arguments : List TypeName}
    {type : TypeName} : scope.apply name arguments = .ok type ↔
      (arguments = [] ∧ scope.Means name type) ∨
        arguments ≠ [] ∧ ∃ raw, scope.Means name (.named raw) ∧ type = .generic raw arguments := by
  simp only [means_iff]
  unfold apply
  cases resolved : scope.resolve? name with
  | none => simp
  | some meaning =>
    cases arguments with
    | nil => simp
    | cons argument arguments => cases meaning <;> simp [eq_comm]

def Ends (rest : List Symbol) : Prop := ∀ symbol ∈ rest.head?, symbol = .comma ∨ symbol = .greater

theorem readBrackets_brackets {rest : List Symbol} (ends : Ends rest) (depth : Nat)
    (type : TypeName) :
    readBrackets type (brackets depth ++ rest) = .ok (type.arrays depth, rest) := by
  induction depth generalizing type with
  | zero =>
    cases rest with
    | nil => rfl
    | cons symbol rest => rcases ends symbol rfl with rfl | rfl <;> rfl
  | succ depth ih => exact ih (.array type)

theorem exists_brackets {type whole : TypeName} {symbols rest : List Symbol}
    (read : readBrackets type symbols = .ok (whole, rest)) :
    ∃ depth, symbols = brackets depth ++ rest ∧ whole = type.arrays depth ∧
      rest.head? ≠ some .openBracket := by
  fun_induction readBrackets type symbols with
  | case1 type symbols ih =>
    obtain ⟨depth, rfl, same, ends⟩ := ih read
    exact ⟨depth + 1, rfl, same, ends⟩
  | case2 => cases read
  | case3 type symbols more last =>
    cases read
    refine ⟨0, rfl, rfl, fun starts => ?_⟩
    obtain ⟨rest, same⟩ := List.head?_eq_some_iff.mp starts
    exact last rest same

section

variable {scope : Scope} {name : String} {type : TypeName} {rest : List Symbol}

theorem brackets_bare (ends : Ends rest) (depth : Nat) :
    (brackets depth ++ rest).head? ≠ some .less := by
  cases depth with
  | zero =>
    intro less
    rcases ends _ less with same | same <;> cases same
  | succ depth => exact fun less => nomatch less

theorem brackets_unnamed (ends : Ends rest) (depth : Nat) (word : String) :
    (brackets depth ++ rest).head? ≠ some (.name word) := by
  cases depth with
  | zero =>
    intro named
    rcases ends _ named with same | same <;> cases same
  | succ depth => exact fun named => nomatch named

theorem readType_name (bare : rest.head? ≠ some .less) (fuel : Nat) :
    scope.readType (fuel + 1) (.name name :: rest) =
      scope.apply name [] >>= fun type => readBrackets type rest := by
  rw [readType]
  rintro more rfl
  exact bare rfl

theorem readType_generic {fuel : Nat} {symbols : List Symbol} {arguments : List TypeName}
    (read : scope.readArguments fuel symbols = .ok (arguments, rest))
    (applied : scope.apply name arguments = .ok type) :
    scope.readType (fuel + 1) (.name name :: .less :: symbols) = readBrackets type rest := by
  rw [readType, read]
  show (scope.apply name arguments >>= fun type => readBrackets type rest) = _
  rw [applied]
  rfl

theorem readType_question {fuel : Nat} {symbols : List Symbol}
    (read : scope.readWildcard fuel symbols = .ok (type, rest)) :
    scope.readType (fuel + 1) (.question :: symbols) = readBrackets type rest := by
  rw [readType, read]
  rfl

theorem readWildcard_bare {symbols : List Symbol} (above : symbols.head? ≠ some (.name "extends"))
    (below : symbols.head? ≠ some (.name "super")) (fuel : Nat) :
    scope.readWildcard fuel symbols = .ok (.wildcard, symbols) := by
  rw [readWildcard]
  · rintro less more rfl rfl
    exact above rfl
  · rintro less more rfl rfl
    exact below rfl

theorem readWildcard_extends {fuel : Nat} {symbols : List Symbol}
    (read : scope.readType fuel symbols = .ok (type, rest)) :
    scope.readWildcard (fuel + 1) (.name "extends" :: symbols) = .ok (.covariant type, rest) := by
  rw [readWildcard, read]
  rfl

theorem readWildcard_super {fuel : Nat} {symbols : List Symbol}
    (read : scope.readType fuel symbols = .ok (type, rest)) :
    scope.readWildcard (fuel + 1) (.name "super" :: symbols) = .ok (.contravariant type, rest) := by
  rw [readWildcard, read]
  rfl

theorem readArguments_one {fuel : Nat} {symbols : List Symbol}
    (read : scope.readType fuel symbols = .ok (type, .greater :: rest)) :
    scope.readArguments (fuel + 1) symbols = .ok ([type], rest) := by
  rw [readArguments, read]
  rfl

theorem readArguments_more {fuel : Nat} {symbols others : List Symbol} {types : List TypeName}
    (read : scope.readType fuel symbols = .ok (type, .comma :: others))
    (later : scope.readArguments fuel others = .ok (types, rest)) :
    scope.readArguments (fuel + 1) symbols = .ok (type :: types, rest) := by
  rw [readArguments, read]
  show (scope.readArguments fuel others >>= fun read => pure (type :: read.1, read.2)) = _
  rw [later]
  rfl

end

theorem exists_fuel {fuel size : Nat} (enough : size < fuel) : ∃ less, fuel = less + 1 :=
  Nat.exists_eq_add_one.mpr (Nat.zero_lt_of_lt enough)

theorem eq_zero_of_closed {depth : Nat} {rest : List Symbol}
    (closed : (brackets depth ++ rest).head? ≠ some .openBracket) : depth = 0 := by
  cases depth with
  | zero => rfl
  | succ depth => exact absurd rfl closed

mutual

/-- Reading needs no more fuel than there are symbols. -/
theorem readType_of_denotes {scope : Scope} {word rest : List Symbol} {type : TypeName}
    {fuel : Nat} (ends : Ends rest) (enough : word.length ≤ fuel) : scope.Denotes word type →
      scope.readType fuel (word ++ rest) = .ok (type, rest)
  | .name means depth => by
    obtain ⟨fuel, rfl⟩ := exists_fuel enough
    have applied := apply_eq_ok_iff.mpr (.inl ⟨rfl, means⟩)
    rw [List.cons_append, readType_name (brackets_bare ends depth), applied]
    exact readBrackets_brackets ends depth _
  | @Denotes.generic _ _ _ word _ means inside depth => by
    obtain ⟨fuel, rfl⟩ := exists_fuel enough
    have applied := apply_eq_ok_iff.mpr (.inr ⟨inside.nonempty, _, means, rfl⟩)
    have shorter : word.length < fuel := by
      simp only [List.length_cons, List.length_append] at enough
      omega
    have read := @readArguments_of_denotes _ _ (brackets depth ++ rest) _ _ shorter inside
    rw [List.cons_append, List.cons_append, List.append_assoc, List.cons_append,
      readType_generic read applied]
    exact readBrackets_brackets ends depth _
  | .wildcard depth => by
    obtain ⟨fuel, rfl⟩ := exists_fuel enough
    have bare := @readWildcard_bare scope _ (brackets_unnamed ends depth "extends")
      (brackets_unnamed ends depth "super") fuel
    rw [List.cons_append, readType_question bare]
    exact readBrackets_brackets ends depth _
  | .covariant inside => by
    obtain ⟨fuel, rfl⟩ := exists_fuel enough
    obtain ⟨fuel, rfl⟩ := exists_fuel (Nat.le_of_succ_le_succ enough)
    have shorter := Nat.le_of_succ_le_succ (Nat.le_of_succ_le_succ enough)
    have bounded := readWildcard_extends (readType_of_denotes ends shorter inside)
    rw [List.cons_append, List.cons_append, readType_question bounded]
    exact readBrackets_brackets ends 0 _
  | .contravariant inside => by
    obtain ⟨fuel, rfl⟩ := exists_fuel enough
    obtain ⟨fuel, rfl⟩ := exists_fuel (Nat.le_of_succ_le_succ enough)
    have shorter := Nat.le_of_succ_le_succ (Nat.le_of_succ_le_succ enough)
    have bounded := readWildcard_super (readType_of_denotes ends shorter inside)
    rw [List.cons_append, List.cons_append, readType_question bounded]
    exact readBrackets_brackets ends 0 _

theorem readArguments_of_denotes {scope : Scope} {word rest : List Symbol} {types : List TypeName}
    {fuel : Nat} (enough : word.length < fuel) : scope.DenotesAll word types →
      scope.readArguments fuel (word ++ .greater :: rest) = .ok (types, rest)
  | .one only => by
    obtain ⟨fuel, rfl⟩ := exists_fuel enough
    have ends : Ends (.greater :: rest) := by simp [Ends]
    exact readArguments_one (readType_of_denotes ends (Nat.le_of_lt_succ enough) only)
  | @DenotesAll.more _ word others _ _ first later => by
    obtain ⟨fuel, rfl⟩ := exists_fuel enough
    have ends : Ends (.comma :: (others ++ .greater :: rest)) := by simp [Ends]
    rw [List.length_append, List.length_cons] at enough
    have before : word.length ≤ fuel := by omega
    have behind : others.length < fuel := by omega
    rw [List.append_assoc, List.cons_append]
    exact readArguments_more (readType_of_denotes ends before first)
      (readArguments_of_denotes behind later)

end

section

variable {scope : Scope} {fuel : Nat} {symbols rest : List Symbol} {type : TypeName}

theorem readType_cases (read : scope.readType fuel symbols = .ok (type, rest)) :
    ∃ less inner left, fuel = less + 1 ∧ readBrackets inner left = .ok (type, rest) ∧
      ((∃ more, symbols = .question :: more ∧
          scope.readWildcard less more = .ok (inner, left)) ∨
        (∃ name more arguments, symbols = .name name :: .less :: more ∧
          scope.readArguments less more = .ok (arguments, left) ∧
          scope.apply name arguments = .ok inner) ∨
        ∃ name, symbols = .name name :: left ∧ scope.apply name [] = .ok inner) := by
  unfold readType at read
  split at read
  next fuel more =>
    obtain ⟨⟨inner, left⟩, first, last⟩ := exists_of_bind_eq_ok read
    exact ⟨fuel, inner, left, rfl, last, .inl ⟨more, rfl, first⟩⟩
  next fuel name more =>
    obtain ⟨⟨arguments, left⟩, first, later⟩ := exists_of_bind_eq_ok read
    obtain ⟨inner, applied, last⟩ := exists_of_bind_eq_ok later
    exact ⟨fuel, inner, left, rfl, last, .inr (.inl ⟨name, more, arguments, rfl, first, applied⟩)⟩
  next fuel name left _ =>
    obtain ⟨inner, applied, last⟩ := exists_of_bind_eq_ok read
    exact ⟨fuel, inner, left, rfl, last, .inr (.inr ⟨name, rfl, applied⟩)⟩
  next => cases read

theorem readWildcard_cases (read : scope.readWildcard fuel symbols = .ok (type, rest)) :
    type = .wildcard ∧ rest = symbols ∨ ∃ less bound more, fuel = less + 1 ∧
      scope.readType less more = .ok (bound, rest) ∧
      (symbols = .name "extends" :: more ∧ type = .covariant bound ∨
        symbols = .name "super" :: more ∧ type = .contravariant bound) := by
  unfold readWildcard at read
  split at read
  next fuel more =>
    obtain ⟨⟨bound, left⟩, first, last⟩ := exists_of_bind_eq_ok read
    cases last
    exact .inr ⟨fuel, bound, more, rfl, first, .inl ⟨rfl, rfl⟩⟩
  next fuel more =>
    obtain ⟨⟨bound, left⟩, first, last⟩ := exists_of_bind_eq_ok read
    cases last
    exact .inr ⟨fuel, bound, more, rfl, first, .inr ⟨rfl, rfl⟩⟩
  next =>
    cases read
    exact .inl ⟨rfl, rfl⟩

theorem readArguments_cases {types : List TypeName}
    (read : scope.readArguments fuel symbols = .ok (types, rest)) :
    ∃ less type, fuel = less + 1 ∧
      (scope.readType less symbols = .ok (type, .greater :: rest) ∧ types = [type] ∨
        ∃ others more, scope.readType less symbols = .ok (type, .comma :: others) ∧
          scope.readArguments less others = .ok (more, rest) ∧ types = type :: more) := by
  cases fuel with
  | zero =>
    rw [readArguments] at read
    cases read
  | succ fuel =>
    rw [readArguments] at read
    obtain ⟨⟨type, left⟩, first, later⟩ := exists_of_bind_eq_ok read
    dsimp only at later
    split at later
    next others =>
      obtain ⟨⟨more, left⟩, second, last⟩ := exists_of_bind_eq_ok later
      cases last
      exact ⟨fuel, type, rfl, .inr ⟨others, more, first, second, rfl⟩⟩
    next =>
      cases later
      exact ⟨fuel, type, rfl, .inl ⟨first, rfl⟩⟩
    next => cases later

end

mutual

/-- Behind a type that was read, no bracket is left. -/
theorem denotes_of_readType {scope : Scope} {symbols rest : List Symbol} {type : TypeName} :
    (fuel : Nat) → scope.readType fuel symbols = .ok (type, rest) →
      ∃ word, symbols = word ++ rest ∧ scope.Denotes word type ∧ rest.head? ≠ some .openBracket
  | fuel, read => by
    obtain ⟨less, inner, left, rfl, last, ways⟩ := readType_cases read
    obtain ⟨depth, rfl, rfl, ends⟩ := exists_brackets last
    rcases ways with ⟨more, rfl, first⟩ | ⟨name, more, arguments, rfl, first, applied⟩ |
      ⟨name, rfl, applied⟩
    · rcases denotes_of_readWildcard less first with ⟨rfl, rfl⟩ | ⟨word, rfl, inside, closed⟩
      · exact ⟨_, rfl, .wildcard depth, ends⟩
      · -- the bound took all the brackets
        obtain rfl := eq_zero_of_closed closed
        exact ⟨_, rfl, inside, ends⟩
    · obtain ⟨word, rfl, inside⟩ := denotes_of_readArguments less first
      rcases apply_eq_ok_iff.mp applied with ⟨none, -⟩ | ⟨-, raw, means, rfl⟩
      · exact absurd none inside.nonempty
      · exact ⟨_, by simp, .generic means inside depth, ends⟩
    · rcases apply_eq_ok_iff.mp applied with ⟨-, means⟩ | ⟨some, -⟩
      · exact ⟨_, rfl, .name means depth, ends⟩
      · exact absurd rfl some

/-- A bare wildcard leaves everything behind it, brackets included. -/
theorem denotes_of_readWildcard {scope : Scope} {symbols rest : List Symbol} {type : TypeName} :
    (fuel : Nat) → scope.readWildcard fuel symbols = .ok (type, rest) →
      type = .wildcard ∧ rest = symbols ∨ ∃ word, symbols = word ++ rest ∧
        scope.Denotes (.question :: word) type ∧ rest.head? ≠ some .openBracket
  | fuel, read => by
    rcases readWildcard_cases read with bare | ⟨less, bound, more, rfl, first, ways⟩
    · exact .inl bare
    · obtain ⟨word, rfl, inside, closed⟩ := denotes_of_readType less first
      rcases ways with ⟨rfl, rfl⟩ | ⟨rfl, rfl⟩
      · exact .inr ⟨_, rfl, .covariant inside, closed⟩
      · exact .inr ⟨_, rfl, .contravariant inside, closed⟩

theorem denotes_of_readArguments {scope : Scope} {symbols rest : List Symbol}
    {types : List TypeName} : (fuel : Nat) →
      scope.readArguments fuel symbols = .ok (types, rest) →
      ∃ word, symbols = word ++ .greater :: rest ∧ scope.DenotesAll word types
  | fuel, read => by
    obtain ⟨less, type, rfl, ⟨first, rfl⟩ | ⟨others, more, first, later, rfl⟩⟩ :=
      readArguments_cases read
    · obtain ⟨word, rfl, inside, -⟩ := denotes_of_readType less first
      exact ⟨word, rfl, .one inside⟩
    · obtain ⟨word, rfl, inside, -⟩ := denotes_of_readType less first
      obtain ⟨others, rfl, after⟩ := denotes_of_readArguments less later
      exact ⟨_, by simp, .more inside after⟩

end

theorem typeName_eq_ok_iff {scope : Scope} {token : String} {type : TypeName} :
    scope.typeName token = .ok type ↔
      ∃ symbols, Symbol.Written token.toList symbols ∧ scope.Denotes symbols type := by
  constructor
  · intro read
    obtain ⟨symbols, scanned, read⟩ := exists_of_bind_eq_ok read
    obtain ⟨⟨found, left⟩, first, last⟩ := exists_of_bind_eq_ok read
    cases left with
    | cons => cases last
    | nil =>
      cases last
      obtain ⟨word, rfl, denotes, -⟩ := denotes_of_readType _ first
      rw [List.append_nil] at scanned
      exact ⟨word, Symbol.ofText_eq_ok_iff.mp scanned, denotes⟩
  · rintro ⟨symbols, written, denotes⟩
    have ends : Ends [] := fun _ member => nomatch member
    have read := readType_of_denotes ends (Nat.le_refl _) denotes
    rw [List.append_nil] at read
    rw [typeName, Symbol.ofText_eq_ok_iff.mpr written]
    show (scope.readType symbols.length symbols >>= _) = _
    rw [read]
    rfl

end Scope

namespace Compiler

/-- A token is accepted exactly if it spells a type, and that is the type it stands for. A token
that spells none is invalid, and the error repeats it. -/
theorem typeName_accepts_grammar (compiler : Compiler) (token : String) :
    (∀ type, compiler.typeName token = .ok type ↔
      ∃ symbols, Symbol.Written token.toList symbols ∧ compiler.scope.Denotes symbols type) ∧
    ((∃ fault, compiler.typeName token = .error (.invalidTypeName token fault)) ↔
      ¬∃ symbols type, Symbol.Written token.toList symbols ∧
        compiler.scope.Denotes symbols type) := by
  have spells (type : TypeName) : compiler.scope.typeName token = .ok type ↔
      ∃ symbols, Symbol.Written token.toList symbols ∧ compiler.scope.Denotes symbols type :=
    Scope.typeName_eq_ok_iff
  unfold Compiler.typeName
  cases read : compiler.scope.typeName token with
  | ok type =>
    obtain ⟨symbols, written, denotes⟩ := (spells type).mp read
    refine ⟨fun other => ?_, iff_of_false (by simp [Except.mapError]) ?_⟩
    · rw [← spells other, read, Except.mapError, Except.ok.injEq, Except.ok.injEq]
    · exact not_not_intro ⟨symbols, type, written, denotes⟩
  | error fault =>
    refine ⟨fun other => ?_, iff_of_true ⟨fault, rfl⟩ ?_⟩
    · rw [← spells other, read, Except.mapError]
      simp only [reduceCtorEq]
    · rintro ⟨symbols, type, written, denotes⟩
      have accepted := (spells type).mpr ⟨symbols, written, denotes⟩
      rw [read] at accepted
      cases accepted

/-- The brackets belong to the bound. -/
example : ({ scope := { package := "p" } } : Compiler).typeName "Map<?extends Outer.Inner[],T[ ]>" =
    .ok (.generic ⟨"java.util", "Map", []⟩
      [.covariant (.array (.named ⟨"p", "Outer", ["Inner"]⟩)), .array (.typeVariable "T" [])]) := by
  decide +kernel

end Compiler

end ClassCompiler
