import ClassCompiler.Proofs.CanonicalNames
import ClassCompiler.Proofs.TypeGrammar

/-! The texts of types as type tokens. A text says which type it is of if each class has a package
and can be told from it by its capital letter, if type variables have no bounds and the names of
type variables, and if no array is made of bounded wildcards. -/

namespace ClassCompiler
open Text

namespace Text

structure IsWord (word : String) : Prop extends IsSegment word where
  letters : ∀ c ∈ word.toList, Symbol.isNameChar c = true

instance : DecidablePred IsWord := fun word =>
  decidable_of_iff (word.toList ≠ [] ∧ '.' ∉ word.toList ∧ word.toList.all Symbol.isNameChar)
    ⟨fun ⟨nonempty, plain, letters⟩ => ⟨⟨nonempty, plain⟩, List.all_eq_true.mp letters⟩,
      fun word => ⟨word.nonempty, word.plain, List.all_eq_true.mpr word.letters⟩⟩

theorem isNameChar_of_mem_joinDots {words : List String} (all : ∀ word ∈ words, IsWord word)
    {c : Char} (member : c ∈ (joinDots words).toList) : Symbol.isNameChar c = true := by
  induction words with
  | nil => cases member
  | cons word words ih =>
    have first := (all word List.mem_cons_self).letters c
    cases words with
    | nil =>
      rw [joinDots, String.intercalate_singleton] at member
      exact first member
    | cons next words =>
      rw [joinDots, String.intercalate_cons_cons, String.toList_append, String.toList_append,
        List.mem_append, List.mem_append] at member
      rcases member with (inside | dot) | later
      · exact first inside
      · obtain rfl : c = '.' := by simpa using dot
        decide +kernel
      · exact ih (fun other member => all other (List.mem_cons_of_mem _ member)) later

end Text

namespace Symbol

/-- The text is written in these symbols wherever no letter of a name follows it. -/
def Spells (text : List Char) (word : List Symbol) : Prop :=
  ∀ rest symbols, (∀ c ∈ rest.head?, isNameChar c = false) → Written rest symbols →
    Written (text ++ rest) (word ++ symbols)

namespace Spells

variable {text more : List Char} {word others : List Symbol} {c : Char} {symbol : Symbol}

theorem nil : Spells [] [] := fun _ _ _ written => written

theorem name {letters : String} (some : letters.toList ≠ [])
    (all : ∀ c ∈ letters.toList, isNameChar c = true) : Spells letters.toList [.name letters] := by
  intro rest symbols ends written
  have whole := Written.name some all ends written
  rwa [String.ofList_toList] at whole

theorem mark (mark : ofChar? c = some symbol) (rest : Spells text word) :
    Spells (c :: text) (symbol :: word) :=
  fun _ _ ends written => .mark mark (rest _ _ ends written)

theorem blank (blank : isBlank c = true) (rest : Spells text word) : Spells (c :: text) word :=
  fun _ _ ends written => .blank blank (rest _ _ ends written)

theorem append (first : Spells text word) (apart : ∀ c ∈ more.head?, isNameChar c = false)
    (second : Spells more others) : Spells (text ++ more) (word ++ others) := by
  intro rest symbols ends written
  rw [List.append_assoc, List.append_assoc]
  refine first _ _ (fun c starts => ?_) (second _ _ ends written)
  cases more with
  | nil => exact ends c starts
  | cons _ _ => exact apart c starts

theorem append_mark (first : Spells text word) (mark : ofChar? c = some symbol)
    (second : Spells more others) : Spells (text ++ c :: more) (word ++ symbol :: others) := by
  refine first.append (fun other starts => ?_) (.mark mark second)
  obtain rfl := Option.some.inj starts
  exact not_isNameChar_of_ofChar? mark

theorem append_blank (first : Spells text word) (blank : isBlank c = true)
    (second : Spells more others) : Spells (text ++ c :: more) (word ++ others) := by
  refine first.append (fun other starts => ?_) (.blank blank second)
  obtain rfl := Option.some.inj starts
  exact not_isNameChar_of_isBlank blank

theorem written (spells : Spells text word) : Written text word := by
  simpa using spells [] [] (fun _ starts => nomatch starts) .nil

end Spells

end Symbol

/-- A class in a package, where capital letters tell the package from the class. -/
structure ClassName.Qualified (name : ClassName) : Prop where
  package : ∃ first rest, name.package = joinDots (first :: rest) ∧
    ∀ segment ∈ first :: rest, IsWord segment ∧ startsUppercase segment.toList = false
  names : ∀ simple ∈ name.names, IsWord simple
  upper : startsUppercase name.outermost.toList = true

namespace ClassName.Qualified

variable {name : ClassName}

theorem exists_words (qualified : name.Qualified) :
    ∃ first rest, name.canonicalName = joinDots (first :: rest ++ name.names) ∧
      name.package = joinDots (first :: rest) ∧
      ∀ segment ∈ first :: rest, IsWord segment ∧ startsUppercase segment.toList = false := by
  obtain ⟨first, rest, joined, lower⟩ := qualified.package
  have all (segment : String) (member : segment ∈ first :: rest) : IsSegment segment :=
    (lower segment member).1.toIsSegment
  exact ⟨first, rest, canonicalName_of_joined joined all, joined, lower⟩

theorem means (qualified : name.Qualified) (scope : Scope) :
    scope.Means name.canonicalName (.named name) := by
  obtain ⟨first, rest, spelled, joined, lower⟩ := qualified.exists_words
  rw [spelled]
  refine .qualified (fun segment member => ?_) (fun simple member => ?_) qualified.upper joined
  · exact (lower segment member).imp_left IsWord.toIsSegment
  · exact (qualified.names simple member).toIsSegment

theorem spells (qualified : name.Qualified) :
    Symbol.Spells name.canonicalName.toList [.name name.canonicalName] := by
  obtain ⟨first, rest, spelled, -, lower⟩ := qualified.exists_words
  have all : ∀ word ∈ first :: rest ++ name.names, IsWord word := by
    intro word member
    exact (List.mem_append.mp member).elim (fun inside => (lower word inside).1)
      (qualified.names word)
  refine .name ?_ (fun c member => isNameChar_of_mem_joinDots all (spelled ▸ member))
  rw [spelled, List.cons_append]
  exact toList_joinDots_ne_nil (lower first List.mem_cons_self).1.nonempty _

end ClassName.Qualified

namespace TypeName

/-- The types that can be read from their texts. Brackets behind a bound belong to the bound, so an
array of bounded wildcards is none of them. -/
inductive Readable : TypeName → Prop
  | primitive (kind : Primitive) : Readable (.primitive kind)
  | named {name : ClassName} (qualified : name.Qualified) : Readable (.named name)
  | generic {raw : ClassName} {arguments : List TypeName} (qualified : raw.Qualified)
      (some : arguments ≠ []) (all : ∀ argument ∈ arguments, Readable argument) :
      Readable (.generic raw arguments)
  | array {component : TypeName} (inside : Readable component)
      (unbounded : ∀ bound, component ≠ .covariant bound ∧ component ≠ .contravariant bound) :
      Readable (.array component)
  | typeVariable {letter : Char} {digits : List Char} (upper : letter.isUpper = true)
      (all : ∀ digit ∈ digits, digit.isDigit = true) :
      Readable (.typeVariable (String.ofList (letter :: digits)) [])
  | wildcard : Readable .wildcard
  | covariant {bound : TypeName} (inside : Readable bound) : Readable (.covariant bound)
  | contravariant {bound : TypeName} (inside : Readable bound) : Readable (.contravariant bound)

theorem arrays_succ (component : TypeName) (depth : Nat) :
    component.arrays (depth + 1) = .array (component.arrays depth) := by
  induction depth generalizing component with
  | zero => rfl
  | succ depth ih => exact ih (.array component)

end TypeName

namespace Scope

variable {scope : Scope}

theorem brackets_append (depth : Nat) :
    brackets depth ++ [.openBracket, .closeBracket] = brackets (depth + 1) := by
  induction depth with
  | zero => rfl
  | succ depth ih =>
    rw [brackets, List.cons_append, List.cons_append, ih]
    rfl

/-- One more pair of brackets makes an array, unless it belongs to the bound of a wildcard. -/
theorem Denotes.array {word : List Symbol} {component : TypeName}
    (denotes : scope.Denotes word component)
    (unbounded : ∀ bound, component ≠ .covariant bound ∧ component ≠ .contravariant bound) :
    scope.Denotes (word ++ [.openBracket, .closeBracket]) (.array component) := by
  cases denotes with
  | name means depth =>
    rw [List.cons_append, brackets_append, ← TypeName.arrays_succ]
    exact .name means (depth + 1)
  | generic means inside depth =>
    rw [List.cons_append, List.cons_append, List.append_assoc, List.cons_append, brackets_append,
      ← TypeName.arrays_succ]
    exact .generic means inside (depth + 1)
  | wildcard depth =>
    rw [List.cons_append, brackets_append, ← TypeName.arrays_succ]
    exact .wildcard (depth + 1)
  | covariant inside => exact absurd rfl (unbounded _).1
  | contravariant inside => exact absurd rfl (unbounded _).2

theorem means_primitive (bare : scope.aliases = []) (kind : Primitive) :
    scope.Means kind.keyword (.primitive kind) := by
  have plain : '.' ∉ kind.keyword.toList := by cases kind <;> decide
  have known : scope.simple kind.keyword = .primitive kind := by
    simp [simple, bare, Primitive.ofKeyword?_keyword]
  exact known ▸ .simple plain

theorem ofKeyword?_eq_none {letter : Char} (upper : letter.isUpper = true) (digits : List Char) :
    Primitive.ofKeyword? (String.ofList (letter :: digits)) = none := by
  cases found : Primitive.ofKeyword? (String.ofList (letter :: digits)) with
  | none => rfl
  | some kind =>
    have spelled := congrArg String.toList (Primitive.keyword_of_ofKeyword? found)
    rw [String.toList_ofList] at spelled
    have lower : kind.keyword.toList.head?.all (!·.isUpper) = true := by cases kind <;> decide
    rw [spelled] at lower
    simp [upper] at lower

theorem means_typeVariable (bare : scope.aliases = []) {letter : Char} {digits : List Char}
    (upper : letter.isUpper = true) (all : ∀ digit ∈ digits, digit.isDigit = true) :
    scope.Means (String.ofList (letter :: digits))
      (.typeVariable (String.ofList (letter :: digits)) []) := by
  have plain : '.' ∉ (String.ofList (letter :: digits)).toList := by
    rw [String.toList_ofList, List.mem_cons, not_or]
    refine ⟨?_, fun member => ?_⟩
    · rintro rfl
      simp at upper
    · simpa using all '.' member
  have variable_name : isVariableName (String.ofList (letter :: digits)) = true := by
    simpa [isVariableName, upper] using all
  have known : scope.simple (String.ofList (letter :: digits)) =
      .typeVariable (String.ofList (letter :: digits)) [] := by
    simp only [simple, bare, List.lookup_nil, ofKeyword?_eq_none upper, variable_name, if_true]
  exact known ▸ .simple plain

theorem isNameChar_of_isAlphanumeric {c : Char} (letter : isAlphanumeric c = true) :
    Symbol.isNameChar c = true := by
  simp [Symbol.isNameChar, letter]

theorem spells_primitive (kind : Primitive) :
    Symbol.Spells kind.keyword.toList [.name kind.keyword] := by
  have word : IsWord kind.keyword := by cases kind <;> decide +kernel
  exact .name word.nonempty word.letters

theorem spells_typeVariable {letter : Char} {digits : List Char} (upper : letter.isUpper = true)
    (all : ∀ digit ∈ digits, digit.isDigit = true) :
    Symbol.Spells (String.ofList (letter :: digits)).toList
      [.name (String.ofList (letter :: digits))] := by
  refine .name (by simp) (fun c member => ?_)
  rw [String.toList_ofList] at member
  rcases List.mem_cons.mp member with rfl | later
  · have alpha : (c.isUpper || c.isLower) = true := by rw [upper, Bool.true_or]
    exact isNameChar_of_isAlphanumeric
      (isAlphanumeric_of_isAlphabetic (isAlphabetic_of_isAlpha alpha))
  · exact isNameChar_of_isAlphanumeric (isAlphanumeric_of_isDigit (all c later))

def Spells (scope : Scope) (text : String) (type : TypeName) : Prop :=
  ∃ word, scope.Denotes word type ∧ Symbol.Spells text.toList word

theorem exists_denotesAll {arguments : List TypeName} (some : arguments ≠ [])
    (all : ∀ argument ∈ arguments, scope.Spells argument.text argument) :
    ∃ word, scope.DenotesAll word arguments ∧
      Symbol.Spells (String.intercalate ", " (TypeName.texts arguments)).toList word := by
  induction arguments with
  | nil => exact absurd rfl some
  | cons argument arguments ih =>
    obtain ⟨word, denotes, spells⟩ := all argument List.mem_cons_self
    cases arguments with
    | nil =>
      refine ⟨word, .one denotes, ?_⟩
      rwa [TypeName.texts, TypeName.texts, String.intercalate_singleton]
    | cons next arguments =>
      obtain ⟨others, denotes_all, spells_all⟩ := ih (List.cons_ne_nil _ _)
        fun other member => all other (List.mem_cons_of_mem _ member)
      refine ⟨_, .more denotes denotes_all, ?_⟩
      rw [TypeName.texts] at spells_all
      rw [TypeName.texts, TypeName.texts, String.intercalate_cons_cons, String.toList_append,
        String.toList_append, List.append_assoc]
      exact spells.append_mark rfl (.blank (by decide +kernel) spells_all)

theorem spells_bounded {keyword : String} (keyword_word : IsWord keyword) {bound : TypeName}
    {word : List Symbol} (spells : Symbol.Spells bound.text.toList word) :
    Symbol.Spells ('?' :: ' ' :: (keyword.toList ++ ' ' :: bound.text.toList))
      (.question :: .name keyword :: word) := by
  have blank : isBlank ' ' = true := by decide +kernel
  have named := (Symbol.Spells.name keyword_word.nonempty keyword_word.letters).append_blank blank spells
  exact .mark rfl (.blank blank named)

theorem spells_text (bare : scope.aliases = []) {type : TypeName} (readable : type.Readable) :
    scope.Spells type.text type := by
  induction readable with
  | primitive kind => exact ⟨_, .name (means_primitive bare kind) 0, spells_primitive kind⟩
  | named qualified => exact ⟨_, .name (qualified.means scope) 0, qualified.spells⟩
  | @generic raw arguments qualified some all ih =>
    obtain ⟨word, denotes, spells⟩ := exists_denotesAll some ih
    refine ⟨_, .generic (qualified.means scope) denotes 0, ?_⟩
    have closed := spells.append_mark (c := '>') rfl .nil
    have whole := qualified.spells.append_mark (c := '<') rfl closed
    simpa [TypeName.text, brackets] using whole
  | array inside unbounded ih =>
    obtain ⟨word, denotes, spells⟩ := ih
    refine ⟨_, denotes.array unbounded, ?_⟩
    have whole := spells.append_mark (c := '[') rfl (.mark (c := ']') rfl .nil)
    simpa [TypeName.text] using whole
  | typeVariable upper all =>
    exact ⟨_, .name (means_typeVariable bare upper all) 0, spells_typeVariable upper all⟩
  | wildcard => exact ⟨_, .wildcard 0, .mark (c := '?') rfl .nil⟩
  | covariant inside ih =>
    obtain ⟨word, denotes, spells⟩ := ih
    have whole := spells_bounded (by decide +kernel : IsWord "extends") spells
    exact ⟨_, .covariant denotes, by simpa [TypeName.text] using whole⟩
  | contravariant inside ih =>
    obtain ⟨word, denotes, spells⟩ := ih
    have whole := spells_bounded (by decide +kernel : IsWord "super") spells
    exact ⟨_, .contravariant denotes, by simpa [TypeName.text] using whole⟩

end Scope

namespace Compiler

theorem typeName_text {compiler : Compiler} (bare : compiler.scope.aliases = []) {type : TypeName}
    (readable : type.Readable) : compiler.typeName type.text = .ok type := by
  obtain ⟨word, denotes, spells⟩ := Scope.spells_text bare readable
  have read := Scope.typeName_eq_ok_iff.mpr ⟨word, spells.written, denotes⟩
  rw [Compiler.typeName, read]
  rfl

/-- Reading undoes writing: the text of a type is a token for this very type, whatever the package
of the scope is. So no two types have the same text. -/
theorem types_are_read_from_their_texts (compiler : Compiler) (bare : compiler.scope.aliases = []) :
    (∀ type : TypeName, type.Readable → compiler.typeName type.text = .ok type) ∧
      ∀ type other : TypeName, type.Readable → other.Readable → type.text = other.text →
        type = other := by
  refine ⟨fun type readable => typeName_text bare readable,
    fun type other readable readable' same => ?_⟩
  have read := typeName_text bare readable
  rw [same, typeName_text bare readable'] at read
  exact (Except.ok.inj read).symm

theorem bounded_map_is_read :
    let type : TypeName := .generic ⟨"java.util", "Map", []⟩
      [.covariant (.array (.named ⟨"a", "B", ["C"]⟩)), .array (.typeVariable "T1" [])]
    type.Readable ∧ type.text = "java.util.Map<? extends a.B.C[], T1[]>" ∧
      ({ scope := { package := "p" } } : Compiler).typeName type.text = .ok type := by
  intro type
  have map : ClassName.Qualified ⟨"java.util", "Map", []⟩ :=
    ⟨⟨"java", ["util"], by decide +kernel⟩, by decide +kernel, by decide +kernel⟩
  have inner : ClassName.Qualified ⟨"a", "B", ["C"]⟩ :=
    ⟨⟨"a", [], by decide +kernel⟩, by decide +kernel, by decide +kernel⟩
  have variable_array : TypeName.Readable (.array (.typeVariable "T1" [])) :=
    .array (@TypeName.Readable.typeVariable 'T' ['1'] rfl (by simp)) (by simp)
  have readable : type.Readable := by
    refine .generic map (List.cons_ne_nil _ _) ?_
    simpa [variable_array] using .covariant (.array (.named inner) (by simp))
  exact ⟨readable, by decide +kernel, (types_are_read_from_their_texts _ rfl).1 type readable⟩

end Compiler

end ClassCompiler
