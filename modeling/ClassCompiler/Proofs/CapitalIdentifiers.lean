import ClassCompiler.Proofs.Capital

/-! Capitalized identifiers. The uppercase mapping of a letter begins with a letter, but may go on
with marks that no identifier has. There are few such letters, and a name that is put together from
capitalized identifiers is an identifier unless one of these begins with such a letter. -/

namespace ClassCompiler.Text

/-- The letters with marks in their uppercase mapping. -/
def markedLetters : List Nat :=
  [0x1F0, 0x390, 0x3B0, 0x1E96, 0x1E97, 0x1E98, 0x1E99, 0x1F50, 0x1F52, 0x1F54, 0x1F56, 0x1FB6,
    0x1FB7, 0x1FC6, 0x1FC7, 0x1FD2, 0x1FD3, 0x1FD6, 0x1FD7, 0x1FE2, 0x1FE3, 0x1FE4, 0x1FE6, 0x1FE7,
    0x1FF6, 0x1FF7]

def startsMarked (name : String) : Bool :=
  name.toList.head?.any fun first => markedLetters.contains first.toNat

/-! ### Tables as numbers

A table of code points is long, and searching it once for every letter takes the kernel seconds. As
the binary digits of one number it is read at a glance. -/

/-- The number whose binary digits say which code points are covered. -/
def bits (table : List Span) : Nat :=
  table.foldr (fun span rest => (1 <<< (span.2 + 1 - span.1) - 1) <<< span.1 ||| rest) 0

theorem testBit_span (span : Span) (code : Nat) :
    ((1 <<< (span.2 + 1 - span.1) - 1) <<< span.1).testBit code = span.covers code := by
  rw [Nat.testBit_shiftLeft, Nat.one_shiftLeft, Nat.testBit_two_pow_sub_one, Bool.eq_iff_iff,
    Span.covers_iff, Bool.and_eq_true, decide_eq_true_iff, decide_eq_true_iff]
  omega

theorem testBit_bits (table : List Span) (code : Nat) :
    (bits table).testBit code = covered table code := by
  induction table with
  | nil => exact Nat.zero_testBit code
  | cons span table ih =>
    rw [covered, List.any_cons, ← covered, ← ih, ← testBit_span, ← Nat.testBit_or]
    rfl

theorem isAlphabetic_eq (c : Char) :
    isAlphabetic c = ((bits alphabeticSpans).testBit c.toNat || c.isAlpha) := by
  rw [testBit_bits, Bool.or_comm, isAlphabetic]

theorem isNumeric_eq (c : Char) :
    isNumeric c = ((bits numericSpans).testBit c.toNat || c.isDigit) := by
  rw [testBit_bits, Bool.or_comm, isNumeric]

/-! ### Uppercase mappings of letters -/

theorem shiftedImages_alphabetic : (shiftedCombs.all fun entry =>
    (List.range (entry.1.last + 1 - entry.1.first)).all fun offset =>
      offset % entry.1.step != 0 || isAlphabetic (Char.ofNat (entry.2 + offset))) = true := by
  simp only [isAlphabetic_eq]
  decide +kernel

theorem expansions_marked : ∀ entry ∈ expansions,
    (∀ code ∈ entry.2.head?, isAlphabetic (Char.ofNat code) = true) ∧
      (entry.2.all fun code => continuesIdentifier (Char.ofNat code)) =
        !markedLetters.contains entry.1 := by
  simp only [continuesIdentifier, isAlphanumeric, isAlphabetic_eq, isNumeric_eq]
  decide +kernel

theorem markedLetters_expanded : ∀ code ∈ markedLetters, 0x80 ≤ code ∧ code ∈ expansions.map (·.1) := by
  decide

theorem isAlpha_toUpper : ∀ code ∈ List.range' 0x61 26, (Char.ofNat code).toUpper.isAlpha = true := by
  decide

theorem startsIdentifier_of_isAlphabetic {c : Char} (letter : isAlphabetic c = true) :
    startsIdentifier c = true := by
  simp [startsIdentifier, letter]

theorem startsIdentifier_toUpper {c : Char} (starts : startsIdentifier c = true) :
    startsIdentifier c.toUpper = true := by
  by_cases capital : c.toNat < 0x61 ∨ 0x7A < c.toNat
  · rwa [toUpper_eq_self capital]
  · have alpha := isAlpha_toUpper c.toNat (List.mem_range'_1.mpr (by omega))
    rw [Char.ofNat_toNat] at alpha
    exact startsIdentifier_of_isAlphabetic (isAlphabetic_of_isAlpha alpha)

theorem isAlphabetic_shifted {entry : Comb × Nat} (member : entry ∈ shiftedCombs) {code : Nat}
    (covered : entry.1.covers code = true) :
    isAlphabetic (Char.ofNat (entry.2 + (code - entry.1.first))) = true := by
  rw [Comb.covers_iff] at covered
  have letters := List.all_eq_true.mp shiftedImages_alphabetic entry member
  have letter := List.all_eq_true.mp letters (code - entry.1.first) (List.mem_range.mpr (by omega))
  simpa [covered.2.2] using letter

theorem uppercase_cases {c : Char} (starts : startsIdentifier c = true) :
    (∃ codes, (c.toNat, codes) ∈ expansions ∧ uppercase c = codes.map Char.ofNat) ∨
      c.toNat ∉ markedLetters ∧ ∃ d, uppercase c = [d] ∧ startsIdentifier d = true := by
  by_cases ascii : c.toNat < 0x80
  · refine .inr ⟨fun marked => ?_, c.toUpper, if_pos ascii, startsIdentifier_toUpper starts⟩
    have beyond := (markedLetters_expanded _ marked).1
    omega
  · cases found : expansions.lookup c.toNat with
    | some codes =>
      obtain ⟨before, after, same, -⟩ := List.lookup_eq_some_iff.mp found
      refine .inl ⟨codes, by simp [same], ?_⟩
      rw [uppercase, if_neg ascii, found]
    | none =>
      have unmarked : c.toNat ∉ markedLetters := by
        intro marked
        obtain ⟨entry, member, same⟩ := List.mem_map.mp (markedLetters_expanded _ marked).2
        have apart := List.lookup_eq_none_iff.mp found entry member
        simp [same] at apart
      refine .inr ⟨unmarked, ?_⟩
      rw [uppercase, if_neg ascii, found]
      cases shift : shiftedCombs.find? (·.1.covers c.toNat) with
      | none => exact ⟨c, rfl, starts⟩
      | some entry =>
        have covered : entry.1.covers c.toNat = true := by simpa using List.find?_some shift
        exact ⟨_, rfl, startsIdentifier_of_isAlphabetic
          (isAlphabetic_shifted (List.mem_of_find?_eq_some shift) covered)⟩

section

variable {c first : Char} {rest : List Char}

theorem startsIdentifier_uppercase (starts : startsIdentifier c = true)
    (mapped : uppercase c = first :: rest) : startsIdentifier first = true := by
  rcases uppercase_cases starts with ⟨codes, member, expanded⟩ | ⟨-, d, single, letter⟩
  · rw [expanded] at mapped
    obtain ⟨code, more, rfl, rfl, -⟩ := List.map_eq_cons_iff.mp mapped
    exact startsIdentifier_of_isAlphabetic ((expansions_marked _ member).1 code rfl)
  · rw [single] at mapped
    rwa [← (List.cons.inj mapped).1]

/-- The marks are all that keeps an uppercase mapping from being part of an identifier. -/
theorem continues_uppercase_iff (starts : startsIdentifier c = true) :
    (∀ d ∈ uppercase c, continuesIdentifier d = true) ↔ c.toNat ∉ markedLetters := by
  rcases uppercase_cases starts with ⟨codes, member, expanded⟩ | ⟨unmarked, d, single, letter⟩
  · have marked := (expansions_marked _ member).2
    rw [expanded, List.forall_mem_map, ← List.all_eq_true, marked]
    simp
  · rw [single, List.forall_mem_singleton]
    exact iff_of_true (startsIdentifier.continues letter) unmarked

end

/-! ### Names that are put together -/

theorem reservedWords_uncapitalized : (reservedWords.all fun word =>
    word.toList.head?.all fun first => uppercase first != [first]) = true := by
  decide

theorem reservedWords_unset : ∀ word ∈ reservedWords, word.toList.take 3 ≠ "set".toList := by
  decide

theorem isIdentifier_iff_of_starts {text : String} {first : Char} {rest : List Char}
    (spelled : text.toList = first :: rest) (starts : startsIdentifier first = true)
    (unreserved : text ∉ reservedWords) :
    isIdentifier text = true ↔ ∀ c ∈ text.toList, continuesIdentifier c = true := by
  rw [spelled, List.forall_mem_cons]
  simp [isIdentifier, spelled, starts, unreserved, startsIdentifier.continues starts]

theorem continues_capitalize_iff {name : String} (identifier : isIdentifier name = true) :
    (∀ c ∈ (capitalize name).toList, continuesIdentifier c = true) ↔ startsMarked name = false := by
  obtain ⟨first, rest, spelled, starts, continues, -⟩ := exists_of_isIdentifier identifier
  rw [toList_capitalize_cons spelled, List.forall_mem_append, continues_uppercase_iff starts,
    and_iff_left continues]
  simp [startsMarked, spelled]

theorem isIdentifier_set_capitalize_iff {name : String} (identifier : isIdentifier name = true) :
    isIdentifier ("set" ++ capitalize name) = true ↔ startsMarked name = false := by
  have spelled : ("set" ++ capitalize name).toList = 's' :: 'e' :: 't' :: (capitalize name).toList :=
    String.toList_append
  have starts : startsIdentifier 's' = true := by decide
  have goesOn : continuesIdentifier 'e' = true ∧ continuesIdentifier 't' = true := by decide
  have unreserved : "set" ++ capitalize name ∉ reservedWords := by
    intro reserved
    have unset := reservedWords_unset _ reserved
    rw [spelled] at unset
    exact unset rfl
  rw [isIdentifier_iff_of_starts spelled starts unreserved, spelled, List.forall_mem_cons,
    List.forall_mem_cons, List.forall_mem_cons, continues_capitalize_iff identifier,
    and_iff_right (startsIdentifier.continues starts), and_iff_right goesOn.1,
    and_iff_right goesOn.2]

theorem continues_join_iff {names : List String}
    (identifiers : ∀ name ∈ names, isIdentifier name = true) :
    (∀ c ∈ (String.join (names.map capitalize)).toList, continuesIdentifier c = true) ↔
      ∀ name ∈ names, startsMarked name = false := by
  induction names with
  | nil => simp
  | cons name names ih =>
    rw [List.forall_mem_cons] at identifiers ⊢
    rw [List.map_cons, String.join_cons, String.toList_append, List.forall_mem_append,
      continues_capitalize_iff identifiers.1, ih identifiers.2]

/-- Capitalized identifiers in a row begin with a capital letter, so they are no reserved word. -/
theorem isIdentifier_join_iff {names : List String} (some : names ≠ [])
    (identifiers : ∀ name ∈ names, isIdentifier name = true) :
    isIdentifier (String.join (names.map capitalize)) = true ↔
      ∀ name ∈ names, startsMarked name = false := by
  obtain ⟨name, more, rfl⟩ := List.exists_cons_of_ne_nil some
  obtain ⟨letter, rest, spelled, starts, -⟩ :=
    exists_of_isIdentifier (identifiers name List.mem_cons_self)
  obtain ⟨first, marks, mapped⟩ := List.exists_cons_of_ne_nil (uppercase_ne_nil letter)
  have whole : (String.join ((name :: more).map capitalize)).toList =
      first :: (marks ++ rest ++ (String.join (more.map capitalize)).toList) := by
    rw [List.map_cons, String.join_cons, String.toList_append, toList_capitalize_cons spelled,
      mapped, List.cons_append, List.cons_append]
  have unreserved : String.join ((name :: more).map capitalize) ∉ reservedWords := by
    intro reserved
    have uncapitalized := List.all_eq_true.mp reservedWords_uncapitalized _ reserved
    rw [whole, List.head?_cons, Option.all_some, bne_iff_ne] at uncapitalized
    exact uncapitalized (uppercase_head mapped)
  rw [isIdentifier_iff_of_starts whole (startsIdentifier_uppercase starts mapped) unreserved,
    continues_join_iff identifiers]

end ClassCompiler.Text
