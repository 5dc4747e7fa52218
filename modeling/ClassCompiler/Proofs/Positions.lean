import ClassCompiler.Proofs.TemplateGrammar

/-! Two ways to number slots. A template without positions means the same, and fails with the same
fault, once the position of each slot is written out. -/

namespace ClassCompiler

namespace Template
open Text

/-- No placeholder carries digits. Digits that run to the end of a template are in none. -/
def Bare : List Char → Prop
  | '$' :: letter :: rest =>
    (letter.isDigit = true → ∀ digit ∈ rest, digit.isDigit = true) ∧ Bare rest
  | _ :: rest => Bare rest
  | [] => True

/-- The template with the position of each slot written out; `before` slots come before it. -/
def withPositions (before : Nat) : List Char → List Char
  | '$' :: letter :: rest =>
    match slot? letter with
    | some _ => '$' :: (Nat.toDigits 10 (before + 1) ++ letter :: withPositions (before + 1) rest)
    | none => '$' :: letter :: withPositions before rest
  | c :: rest => c :: withPositions before rest
  | [] => []

theorem decimal_toDigits (number : Nat) : decimal (Nat.toDigits 10 number) = number :=
  Nat.ofDigitChars_ten_toDigits

theorem isDigit_of_mem_toDigits {number : Nat} {digit : Char}
    (member : digit ∈ Nat.toDigits 10 number) : digit.isDigit = true :=
  Nat.isDigit_of_mem_toDigits (by decide) (by decide) member

theorem position?_toDigits (before : Nat) :
    position? (Nat.toDigits 10 (before + 1)) = some before := by
  rw [position?, if_neg Nat.toDigits_ne_nil, decimal_toDigits]
  rfl

theorem withPositions_digits {rest : List Char} (digits : ∀ digit ∈ rest, digit.isDigit = true)
    (before : Nat) : withPositions before rest = rest := by
  induction rest with
  | nil => rfl
  | cons digit rest ih =>
    rw [List.forall_mem_cons] at digits
    have plain : digit ≠ '$' := by
      rintro rfl
      exact absurd digits.1 (by decide)
    rw [withPositions, ih digits.2]
    exact fun _ _ dollar => absurd dollar plain

/-! ### Pieces -/

theorem pieces_char {c : Char} (plain : c ≠ '$') (rest : List Char) :
    pieces (c :: rest) = .char c :: pieces rest := by
  rw [pieces, if_neg plain]

theorem pieces_dangling {digits : List Char} (all : ∀ digit ∈ digits, digit.isDigit = true) :
    pieces ('$' :: digits) = [.fault .danglingDollar] := by
  have reached := piecesAfterDollar_digits all [] []
  rw [List.append_nil, List.nil_append] at reached
  rw [pieces, if_pos rfl, reached, piecesAfterDollar]

theorem pieces_bare_slot (kind : Slot) (rest : List Char) :
    pieces ('$' :: kind.letter :: rest) = .slot kind none :: pieces rest := by
  have digitless : (Item.slot [] kind).WellFormed := List.forall_mem_nil _
  have inRange : (Item.slot [] kind).InRange := by
    rintro _ ⟨⟩
    exact .inl rfl
  exact pieces_item digitless inRange rest

theorem pieces_placed_slot {before : Nat} (bounded : before + 1 ≤ maxPosition) (kind : Slot)
    (rest : List Char) :
    pieces ('$' :: (Nat.toDigits 10 (before + 1) ++ kind.letter :: rest)) =
      .slot kind (some before) :: pieces rest := by
  have inRange : (Item.slot (Nat.toDigits 10 (before + 1)) kind).InRange := by
    rintro _ ⟨⟩
    dsimp only
    rw [Template.InRange, decimal_toDigits]
    exact .inr ⟨Nat.succ_pos _, bounded⟩
  have digits : (Item.slot (Nat.toDigits 10 (before + 1)) kind).WellFormed :=
    fun _ member => isDigit_of_mem_toDigits member
  have read := pieces_item digits inRange rest
  rw [Item.text, List.cons_append, List.append_assoc, List.singleton_append, Item.piece,
    position?_toDigits] at read
  exact read

theorem ne_slot_of_mark? {letter : Char} {mark : Piece} (marked : mark? letter = some mark)
    (kind : Slot) (position : Option Nat) : mark ≠ .slot kind position := by
  unfold mark? at marked
  split at marked <;> cases marked <;> nofun

theorem ne_fault_of_mark? {letter : Char} {mark : Piece} (marked : mark? letter = some mark)
    (fault : TemplateFault) : mark ≠ .fault fault := by
  unfold mark? at marked
  split at marked <;> cases marked <;> nofun

theorem pieces_unslotted {letter : Char} (unslotted : slot? letter = none)
    (digitless : letter.isDigit = false) :
    (∃ mark, mark? letter = some mark ∧
      ∀ rest, pieces ('$' :: letter :: rest) = mark :: pieces rest) ∨
    ∀ rest, pieces ('$' :: letter :: rest) = [.fault (.unknownPlaceholder letter)] := by
  have opened (rest : List Char) :
      pieces ('$' :: letter :: rest) = piecesAfterDollar [] (letter :: rest) := by
    rw [pieces, if_pos rfl]
  cases marked : mark? letter with
  | none =>
    right
    intro rest
    have unknown : placeholder [] letter = .fault (.unknownPlaceholder letter) := by
      rw [placeholder, marked, unslotted]
    rw [opened, piecesAfterDollar, if_neg (by simp [digitless]), unknown]
  | some mark =>
    left
    refine ⟨mark, rfl, fun rest => ?_⟩
    have known : placeholder [] letter = mark := by
      rw [placeholder, marked, unslotted]
      rfl
    rw [opened, piecesAfterDollar, if_neg (by simp [digitless]), known]
    cases mark with
    | fault fault => exact absurd rfl (ne_fault_of_mark? marked fault)
    | _ => rfl

/-! ### Filling -/

section

variable {arguments : List Argument}

def placed (before : Nat) : Numbering := if before = 0 then .relative 0 else .positional

theorem choose_placed (before index : Nat) :
    (placed before).choose (some index) = some (index, placed (before + 1)) := by
  cases before <;> rfl

theorem fill_piece {numbering other : Numbering} {piece : Piece} {rest others : List Piece}
    (unslotted : ∀ kind position, piece ≠ .slot kind position)
    (same : fill arguments numbering rest = fill arguments other others) :
    fill arguments numbering (piece :: rest) = fill arguments other (piece :: others) := by
  cases piece with
  | slot kind position => exact absurd rfl (unslotted kind position)
  | fault fault => rfl
  | _ => rw [fill, fill, same]

/-- A slot with its position denotes what the slot in turn denotes. Both are out of bounds at the
same time, and only then can the positions go on beyond the greatest one. -/
theorem fill_slot {before : Nat} {rest others : List Piece} (kind : Slot)
    (same : before < arguments.length →
      fill arguments (placed (before + 1)) rest = fill arguments (.relative (before + 1)) others) :
    fill arguments (placed before) (.slot kind (some before) :: rest) =
      fill arguments (.relative before) (.slot kind none :: others) := by
  have inTurn : (Numbering.relative before).choose none =
      some (before, .relative (before + 1)) := by
    cases before <;> rfl
  rw [fill, fill, choose_placed, inTurn]
  dsimp only
  cases found : arguments[before]? with
  | none => rfl
  | some argument =>
    have bound := (List.getElem?_eq_some_iff.mp found).1
    dsimp only
    rw [same bound]

theorem fill_withPositions (fits : arguments.length < maxPosition) {template : List Char}
    (bare : Bare template) {before : Nat} (within : before ≤ arguments.length) :
    fill arguments (placed before) (pieces (withPositions before template)) =
      fill arguments (.relative before) (pieces template) := by
  fun_induction withPositions before template with
  | case1 before letter rest kind slotted ih =>
    obtain rfl := eq_letter_of_slot? slotted
    rw [pieces_bare_slot, pieces_placed_slot (by omega)]
    exact fill_slot kind fun inside => ih bare.2 inside
  | case2 before letter rest unslotted ih =>
    -- In a bare template, digits behind a dollar sign go on to the end.
    by_cases digit : letter.isDigit = true
    · have digits : ∀ other ∈ letter :: rest, other.isDigit = true :=
        List.forall_mem_cons.mpr ⟨digit, bare.1 digit⟩
      rw [withPositions_digits (bare.1 digit), pieces_dangling digits]
      rfl
    · rcases pieces_unslotted unslotted (by simpa using digit) with
        ⟨mark, marked, read⟩ | read
      · rw [read, read]
        exact fill_piece (ne_slot_of_mark? marked) (ih bare.2 within)
      · rw [read, read]
        rfl
  | case3 before c rest single ih =>
    by_cases dollar : c = '$'
    · subst dollar
      cases rest with
      | nil => rfl
      | cons letter rest => exact (single letter rest rfl rfl).elim
    · have later : Bare rest := by
        rw [Bare] at bare
        · exact bare
        · exact fun _ _ same => absurd same dollar
      rw [pieces_char dollar, pieces_char dollar]
      exact fill_piece nofun (ih later within)
  | case4 before => cases before <;> rfl

theorem parse_withPositions (fits : arguments.length < maxPosition) {template : List Char}
    (bare : Bare template) : parse (withPositions 0 template) arguments = parse template arguments := by
  have same : fill arguments (.relative 0) (pieces (withPositions 0 template)) =
      fill arguments (.relative 0) (pieces template) :=
    fill_withPositions fits bare (Nat.zero_le _)
  rw [parse, parse, same]

end

end Template

namespace Code

/-- A template without positions and the same template with the position of each slot written out
make the same block of arguments, or fail with the same fault. No list of arguments is as long as
the greatest position. -/
theorem positions_may_be_written (template : String) (arguments : List Argument)
    (fits : arguments.length < Template.maxPosition) (bare : Template.Bare template.toList) :
    (ofTemplate (String.ofList (Template.withPositions 0 template.toList)) arguments).mapError
        TemplateError.fault =
      (ofTemplate template arguments).mapError TemplateError.fault := by
  rw [ofTemplate, ofTemplate, String.toList_ofList, Template.parse_withPositions fits bare]
  cases Template.parse template.toList arguments <;> rfl

theorem eleventh_slot_expects_type :
    let template := "$L$L$L$L$L$L$L$L$L$N=$T;$$1L"
    let arguments := List.replicate 10 (.literal "a") ++ [.literal "b"]
    arguments.length < Template.maxPosition ∧ Template.Bare template.toList ∧
      String.ofList (Template.withPositions 0 template.toList) =
        "$1L$2L$3L$4L$5L$6L$7L$8L$9L$10N=$11T;$$1L" ∧
      (ofTemplate "$1L$2L$3L$4L$5L$6L$7L$8L$9L$10N=$11T;$$1L" arguments).mapError
          TemplateError.fault =
        (ofTemplate template arguments).mapError TemplateError.fault ∧
      (ofTemplate template arguments).mapError TemplateError.fault =
        .error (.typeExpected 10 "b") := by
  intro template arguments
  have fits : arguments.length < Template.maxPosition := by decide
  have bare : Template.Bare template.toList := by simp [template, Template.Bare]
  have written : String.ofList (Template.withPositions 0 template.toList) =
      "$1L$2L$3L$4L$5L$6L$7L$8L$9L$10N=$11T;$$1L" := by
    decide +kernel
  have agree := positions_may_be_written template arguments fits bare
  rw [written] at agree
  have fails : (match ofTemplate template arguments with
      | .ok _ => none
      | .error error => some error.fault) = some (.typeExpected 10 "b") := by
    decide +kernel
  refine ⟨fits, bare, written, agree, ?_⟩
  cases made : ofTemplate template arguments with
  | ok code =>
    rw [made] at fails
    cases fails
  | error error =>
    rw [made] at fails
    exact congrArg _ (Option.some.inj fails)

end Code

end ClassCompiler
