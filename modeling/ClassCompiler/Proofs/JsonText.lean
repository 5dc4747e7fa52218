import ClassCompiler.Json.Reader
import ClassCompiler.Json.Writer

/-! Compact JSON texts are read back. Values that hold numbers are left out: their texts are their
spellings, and no model has any. -/

namespace ClassCompiler.Json

/-! ### Strings -/

section

variable {c : Char} (text : List Char)

theorem letters?_escaped {letter : Char} (known : unescape? letter = some c) :
    letters? ('\\' :: letter :: text) =
      (fun (letters, rest) => (.char c :: letters, rest)) <$> letters? text := by
  rw [letters?, known]
  · cases letters? text <;> rfl
  · rintro _ _ _ _ _ rfl
    cases known

theorem letters?_control (control : c.toNat < 0x20) :
    letters? ('\\' :: 'u' :: '0' :: '0' :: hexDigit (c.toNat / 16) :: hexDigit (c.toNat % 16) ::
        text) =
      (fun (letters, rest) => (.unit c.toNat :: letters, rest)) <$> letters? text := by
  have codes : ∀ code < 0x20,
      hexCode? '0' '0' (hexDigit (code / 16)) (hexDigit (code % 16)) = some code := by decide
  rw [letters?, codes _ control]
  cases letters? text <;> rfl

theorem letters?_plain (quote : c ≠ '"') (backslash : c ≠ '\\') (printable : ¬c.toNat < 0x20) :
    letters? (c :: text) =
      (fun (letters, rest) => (.char c :: letters, rest)) <$> letters? text := by
  rw [letters?, if_neg printable]
  · cases letters? text <;> rfl
  · exact quote
  · exact fun _ _ _ _ _ same _ => backslash same
  · exact fun _ _ same _ => backslash same

end

theorem spell?_control {c : Char} (control : c.toNat < 0x20) (letters : List Letter) :
    spell? (.unit c.toNat :: letters) = (c :: ·) <$> spell? letters := by
  have high : isHighSurrogate c.toNat = false := by
    simp [isHighSurrogate]
    omega
  have low : isLowSurrogate c.toNat = false := by
    simp [isLowSurrogate]
    omega
  conv => lhs; unfold spell?
  simp [high, low]

theorem escapeChar_cases (c : Char) :
    (∃ letter, escapeChar c = ['\\', letter] ∧ unescape? letter = some c) ∨
    c.toNat < 0x20 ∧ escapeChar c =
      ['\\', 'u', '0', '0', hexDigit (c.toNat / 16), hexDigit (c.toNat % 16)] ∨
    c ≠ '"' ∧ c ≠ '\\' ∧ ¬c.toNat < 0x20 ∧ escapeChar c = [c] := by
  have lettered : ∀ c ∈ ['"', '\\', '\x08', '\x0c', '\n', '\r', '\t'],
      ∃ letter, escapeChar c = ['\\', letter] ∧ unescape? letter = some c := by
    simp only [List.forall_mem_cons]
    exact ⟨⟨'"', rfl, rfl⟩, ⟨'\\', rfl, rfl⟩, ⟨'b', rfl, rfl⟩, ⟨'f', rfl, rfl⟩, ⟨'n', rfl, rfl⟩,
      ⟨'r', rfl, rfl⟩, ⟨'t', rfl, rfl⟩, List.forall_mem_nil _⟩
  by_cases short : c ∈ ['"', '\\', '\x08', '\x0c', '\n', '\r', '\t']
  · exact .inl (lettered c short)
  · simp only [List.mem_cons, not_or] at short
    obtain ⟨quote, backslash, backspace, feed, newline, carriage, tab, -⟩ := short
    unfold escapeChar
    rw [if_neg quote, if_neg backslash, if_neg backspace, if_neg feed, if_neg newline,
      if_neg carriage, if_neg tab]
    by_cases control : c.toNat < 0x20
    · exact .inr (.inl ⟨control, if_pos control⟩)
    · exact .inr (.inr ⟨quote, backslash, control, if_neg control⟩)

theorem exists_letter (c : Char) : ∃ letter : Letter,
    (∀ text, letters? (escapeChar c ++ text) =
      (fun (letters, rest) => (letter :: letters, rest)) <$> letters? text) ∧
    ∀ letters, spell? (letter :: letters) = (c :: ·) <$> spell? letters := by
  obtain ⟨letter, same, known⟩ | ⟨control, same⟩ | ⟨quote, backslash, printable, same⟩ :=
    escapeChar_cases c
  · rw [same]
    exact ⟨.char c, fun text => letters?_escaped text known, fun _ => rfl⟩
  · rw [same]
    exact ⟨.unit c.toNat, fun text => letters?_control text control, spell?_control control⟩
  · rw [same]
    exact ⟨.char c, fun text => letters?_plain text quote backslash printable, fun _ => rfl⟩

theorem string?_escaped (letters rest : List Char) :
    string? (letters.flatMap escapeChar ++ '"' :: rest) =
      some (some (String.ofList letters), rest) := by
  have written : ∃ found : List Letter,
      letters? (letters.flatMap escapeChar ++ '"' :: rest) = some (found, rest) ∧
      spell? found = some letters := by
    induction letters with
    | nil => exact ⟨[], rfl, rfl⟩
    | cons c letters ih =>
      obtain ⟨found, read, spelled⟩ := ih
      obtain ⟨letter, reads, spells⟩ := exists_letter c
      refine ⟨letter :: found, ?_, ?_⟩
      · rw [List.flatMap_cons, List.append_assoc, reads, read]
        rfl
      · rw [spells, spelled]
        rfl
  obtain ⟨found, read, spelled⟩ := written
  rw [string?, read]
  simp [spelled]

/-! ### Values -/

/-- No number and no text that is none stands in the value. -/
inductive Verbal : Json → Prop
  | null : Verbal null
  | bool (value : Bool) : Verbal (bool value)
  | string (text : String) : Verbal (string text)
  | array {items : List Json} (all : ∀ item ∈ items, Verbal item) : Verbal (array items)
  | object {members : List (String × Json)} (all : ∀ member ∈ members, Verbal member.2) :
      Verbal (object members)

/-- The written value is read back, whatever follows it; and its text does not start like a blank
or like the end of an array. -/
structure ReadsBack (json : Json) : Prop where
  starts : ∃ c more, json.writeChars = c :: more ∧ isBlank c = false ∧ c ≠ ']'
  read : ∀ fuel rest, 2 * json.writeChars.length ≤ fuel →
    value? fuel (json.writeChars ++ rest) = some (json, rest)

theorem skipBlanks_cons {c : Char} (filled : isBlank c = false) (rest : List Char) :
    skipBlanks (c :: rest) = c :: rest := by
  simp [skipBlanks, filled]

theorem string?_writeText (text : String) (rest : List Char) :
    ∃ more, writeText text ++ rest = '"' :: more ∧ string? more = some (some text, rest) := by
  refine ⟨text.toList.flatMap escapeChar ++ '"' :: rest, ?_, ?_⟩
  · simp [writeText]
  · rw [string?_escaped, String.ofList_toList]

theorem value?_string (fuel : Nat) (text : String) (rest : List Char) :
    value? (fuel + 1) (writeText text ++ rest) = some (string text, rest) := by
  obtain ⟨more, written, read⟩ := string?_writeText text rest
  rw [value?, written, skipBlanks_cons rfl]
  simp only [read]
  rfl

theorem writeItems_length_pos (items : List Json) : 0 < (writeItems items).length := by
  cases items <;> simp [writeItems]

theorem writeMembers_length_pos (members : List (String × Json)) :
    0 < (writeMembers members).length := by
  cases members with
  | nil => simp [writeMembers]
  | cons member members => simp [writeMembers]

section

variable {value : Json} {fuel : Nat}

theorem items?_item (reads : ReadsBack value) (enough : 2 * value.writeChars.length ≤ fuel)
    {c : Char} (filled : isBlank c = false) (rest : List Char) :
    items? (fuel + 1) (value.writeChars ++ c :: rest) =
      if c = ']' then some ([value], rest)
      else if c = ',' then (fun (items, rest) => (value :: items, rest)) <$> items? fuel rest
      else none := by
  rw [items?, reads.read fuel _ enough]
  simp only [Option.bind_eq_bind, Option.bind_some]
  rw [skipBlanks_cons filled]
  split
  next same =>
    cases same
    rfl
  next same =>
    cases same
    cases items? fuel rest <;> rfl
  next close comma =>
    rw [if_neg fun same => close rest (by rw [same]), if_neg fun same => comma rest (by rw [same])]

theorem members?_member (key : String) (reads : ReadsBack value)
    (enough : 2 * value.writeChars.length ≤ fuel) {c : Char} (filled : isBlank c = false)
    (rest : List Char) :
    members? (fuel + 1) (writeText key ++ ':' :: (value.writeChars ++ c :: rest)) =
      if c = '\x7d' then some ([(some key, value)], rest)
      else if c = ',' then
        (fun (members, rest) => ((some key, value) :: members, rest)) <$> members? fuel rest
      else none := by
  obtain ⟨more, written, read⟩ :=
    string?_writeText key (':' :: (value.writeChars ++ c :: rest))
  rw [members?, written, skipBlanks_cons rfl]
  simp only [read, Option.bind_eq_bind, Option.bind_some]
  rw [skipBlanks_cons rfl]
  simp only [reads.read fuel _ enough, Option.bind_some]
  rw [skipBlanks_cons filled]
  split
  next same =>
    cases same
    rfl
  next same =>
    cases same
    cases members? fuel rest <;> rfl
  next close comma =>
    rw [if_neg fun same => close rest (by rw [same]), if_neg fun same => comma rest (by rw [same])]

end

theorem items?_written {first : Json} {items : List Json} (reads : ReadsBack first)
    (readsAll : ∀ item ∈ items, ReadsBack item) {fuel : Nat} (rest : List Char)
    (enough : 2 * (first.writeChars ++ writeItems items).length ≤ fuel) :
    items? fuel (first.writeChars ++ (writeItems items ++ rest)) = some (first :: items, rest) := by
  -- On the items behind the first: each of them is the first of those that are left.
  induction items generalizing first fuel with
  | nil =>
    simp only [writeItems, List.length_append, List.length_singleton] at enough
    obtain ⟨fuel, rfl⟩ : ∃ less, fuel = less + 1 := ⟨fuel - 1, by omega⟩
    rw [writeItems, List.singleton_append, items?_item reads (by omega) rfl]
    rfl
  | cons item items ih =>
    have positive := writeItems_length_pos items
    simp only [writeItems, List.length_append, List.length_cons] at enough
    obtain ⟨fuel, rfl⟩ : ∃ less, fuel = less + 1 := ⟨fuel - 1, by omega⟩
    obtain ⟨readsItem, readsItems⟩ := List.forall_mem_cons.mp readsAll
    rw [writeItems, List.cons_append, List.append_assoc, items?_item reads (by omega) rfl,
      ih readsItem readsItems (by rw [List.length_append]; omega)]
    rfl

theorem members?_written (key : String) {value : Json} {members : List (String × Json)}
    (reads : ReadsBack value) (readsAll : ∀ member ∈ members, ReadsBack member.2) {fuel : Nat}
    (rest : List Char)
    (enough : 2 * (writeText key ++ ':' :: (value.writeChars ++ writeMembers members)).length ≤
      fuel) :
    members? fuel
        (writeText key ++ ':' :: (value.writeChars ++ (writeMembers members ++ rest))) =
      some (((key, value) :: members).map fun member => (some member.1, member.2), rest) := by
  induction members generalizing key value fuel with
  | nil =>
    simp only [writeMembers, List.length_append, List.length_cons, List.length_nil] at enough
    obtain ⟨fuel, rfl⟩ : ∃ less, fuel = less + 1 := ⟨fuel - 1, by omega⟩
    rw [writeMembers, List.singleton_append, members?_member key reads (by omega) rfl]
    rfl
  | cons member members ih =>
    obtain ⟨nextKey, next⟩ := member
    have positive := writeMembers_length_pos members
    simp only [writeMembers, List.length_append, List.length_cons] at enough
    obtain ⟨fuel, rfl⟩ : ∃ less, fuel = less + 1 := ⟨fuel - 1, by omega⟩
    obtain ⟨readsNext, readsMembers⟩ := List.forall_mem_cons.mp readsAll
    rw [writeMembers, List.cons_append, members?_member key reads (by omega) rfl,
      List.append_assoc, List.cons_append, List.append_assoc,
      ih nextKey readsNext readsMembers
        (by simp only [List.length_append, List.length_cons]; omega)]
    rfl

theorem ofMembers_texts (members : List (String × Json)) :
    ofMembers (members.map fun member => (some member.1, member.2)) = object members := by
  have texts : members.mapM some = some members := by
    induction members with
    | nil => rfl
    | cons member members ih =>
      rw [List.mapM_cons, ih]
      rfl
  simp [ofMembers, List.mapM_map, Function.comp_def, texts]

theorem exists_succ_of_length {fuel length : Nat} (positive : 0 < length)
    (enough : 2 * length ≤ fuel) : ∃ less, fuel = less + 1 ∧ 2 * (length - 1) ≤ less :=
  ⟨fuel - 1, by omega, by omega⟩

theorem readsBack_array {items : List Json} (all : ∀ item ∈ items, ReadsBack item) :
    ReadsBack (array items) := by
  cases items with
  | nil =>
    refine ⟨⟨'[', [']'], rfl, rfl, by decide⟩, fun fuel rest enough => ?_⟩
    obtain ⟨fuel, rfl, -⟩ := exists_succ_of_length (by simp [writeChars]) enough
    rfl
  | cons first items =>
    obtain ⟨readsFirst, readsItems⟩ := List.forall_mem_cons.mp all
    refine ⟨⟨'[', _, rfl, rfl, by decide⟩, fun fuel rest enough => ?_⟩
    obtain ⟨fuel, rfl, left⟩ := exists_succ_of_length (by simp [writeChars]) enough
    have read := items?_written readsFirst readsItems rest left
    -- The first item is not mistaken for blanks or for the end of the array.
    obtain ⟨c, more, written, filled, inside⟩ := readsFirst.starts
    rw [written, List.cons_append] at read
    rw [value?, writeChars, List.cons_append, skipBlanks_cons rfl, written]
    simp only [List.append_assoc, List.cons_append]
    rw [skipBlanks_cons filled]
    split
    next same => exact absurd (List.cons.inj same).1 inside
    next => simp [read]

theorem readsBack_object {members : List (String × Json)}
    (all : ∀ member ∈ members, ReadsBack member.2) : ReadsBack (object members) := by
  cases members with
  | nil =>
    refine ⟨⟨'\x7b', ['\x7d'], rfl, rfl, by decide⟩, fun fuel rest enough => ?_⟩
    obtain ⟨fuel, rfl, -⟩ := exists_succ_of_length (by simp [writeChars]) enough
    rfl
  | cons member members =>
    obtain ⟨key, value⟩ := member
    obtain ⟨readsValue, readsMembers⟩ := List.forall_mem_cons.mp all
    refine ⟨⟨'\x7b', _, rfl, rfl, by decide⟩, fun fuel rest enough => ?_⟩
    obtain ⟨fuel, rfl, left⟩ := exists_succ_of_length (by simp [writeChars]) enough
    have read := members?_written key readsValue readsMembers rest left
    rw [value?, writeChars, List.cons_append, skipBlanks_cons rfl]
    simp only [writeText, List.append_assoc, List.cons_append] at read ⊢
    rw [skipBlanks_cons rfl]
    split
    next same => exact absurd (List.cons.inj same).1 (by decide)
    next =>
      rw [read]
      exact congrArg (fun json => some (json, rest)) (ofMembers_texts ((key, value) :: members))

theorem readsBack {json : Json} (verbal : json.Verbal) : ReadsBack json := by
  induction verbal with
  | null =>
    refine ⟨⟨_, _, rfl, rfl, by decide⟩, fun fuel rest enough => ?_⟩
    obtain ⟨fuel, rfl, -⟩ := exists_succ_of_length (by simp [writeChars]) enough
    rfl
  | bool value =>
    cases value <;> refine ⟨⟨_, _, rfl, rfl, by decide⟩, fun fuel rest enough => ?_⟩ <;>
      obtain ⟨fuel, rfl, -⟩ := exists_succ_of_length (by simp [writeChars]) enough <;> rfl
  | string text =>
    refine ⟨⟨_, _, rfl, rfl, by decide⟩, fun fuel rest enough => ?_⟩
    obtain ⟨fuel, rfl, -⟩ := exists_succ_of_length (by simp [writeChars, writeText]) enough
    exact value?_string fuel text rest
  | array all ih => exact readsBack_array ih
  | object all ih => exact readsBack_object ih

theorem read?_write {json : Json} (verbal : json.Verbal) : read? json.write = some json := by
  have read := (readsBack verbal).read (2 * json.writeChars.length + 1) [] (by omega)
  rw [List.append_nil] at read
  rw [read?, write, String.toList_ofList, readChars?, read]
  rfl

end ClassCompiler.Json
