import ClassCompiler.Proofs.Positions
import ClassCompiler.Proofs.TemplateFilling

/-! Which fault a template is refused with. It is that of the leftmost placeholder that offends, and
does not depend on what follows this placeholder; only a template without such a placeholder can
leave a dollar sign dangling or arguments unused. -/

namespace ClassCompiler

namespace Template
open Text

def index (place : Nat) (digits : List Char) : Nat :=
  if digits = [] then place else decimal digits - 1

def denoted (items : List Item) : List Nat :=
  (slots items).mapIdx fun place slot => index place slot.1

/-- One of the slots before has digits and this one has none, or the other way round. -/
def Mixes (before : List (List Char × Slot)) (digits : List Char) : Prop :=
  ∃ slot ∈ before, ¬(slot.1 = [] ↔ digits = [])

/-- A placeholder of these digits and this letter offends, behind these slots. -/
inductive Offends (arguments : List Argument) (before : List (List Char × Slot))
    (digits : List Char) : Char → TemplateFault → Prop
  | unknown {letter : Char} (digitless : letter.isDigit = false) (unmarked : mark? letter = none)
      (unslotted : slot? letter = none) :
      Offends arguments before digits letter (.unknownPlaceholder letter)
  | marked {letter : Char} {mark : Piece} (marked : mark? letter = some mark)
      (placed : digits ≠ []) : Offends arguments before digits letter .invalidPosition
  | outOfRange {kind : Slot} (out : ¬InRange digits) :
      Offends arguments before digits kind.letter .invalidPosition
  | mixed {kind : Slot} (inRange : InRange digits) (mixes : Mixes before digits) :
      Offends arguments before digits kind.letter .mixedPlaceholders
  | missing {kind : Slot} (inRange : InRange digits) (agrees : ¬Mixes before digits)
      (beyond : arguments.length ≤ index before.length digits) :
      Offends arguments before digits kind.letter
        (.missingArgument (index before.length digits) arguments.length)
  | untyped {text : String} (inRange : InRange digits) (agrees : ¬Mixes before digits)
      (found : arguments[index before.length digits]? = some (.literal text)) :
      Offends arguments before digits Slot.type.letter
        (.typeExpected (index before.length digits) text)

structure Sound (arguments : List Argument) (items : List Item) : Prop where
  wellFormed : ∀ item ∈ items, item.WellFormed
  fine : ∀ before digits kind after, items = before ++ .slot digits kind :: after →
    ∀ fault, ¬Offends arguments (slots before) digits kind.letter fault

section

variable {arguments : List Argument} {before : List (List Char × Slot)} {digits : List Char}
  {letter : Char} {fault : TemplateFault} {items more : List Item} {item : Item}

theorem Offends.digitless (offends : Offends arguments before digits letter fault) :
    letter.isDigit = false := by
  have slotted (kind : Slot) : kind.letter.isDigit = false := by cases kind <;> rfl
  cases offends with
  | unknown digitless => exact digitless
  | marked marked =>
    unfold mark? at marked
    split at marked <;> first | rfl | cases marked
  | _ => exact slotted _

theorem Offends.ne_danglingDollar (offends : Offends arguments before digits letter fault) :
    fault ≠ .danglingDollar := by
  cases offends <;> nofun

theorem Offends.ne_unusedArguments (offends : Offends arguments before digits letter fault)
    (count : Nat) : fault ≠ .unusedArguments count := by
  cases offends <;> nofun

theorem Sound.nil : Sound arguments [] where
  wellFormed := List.forall_mem_nil _
  fine before digits kind after split := by simp at split

theorem Sound.of_append (sound : Sound arguments (items ++ more)) : Sound arguments items where
  wellFormed item member := sound.wellFormed item (List.mem_append_left _ member)
  fine before digits kind after split :=
    sound.fine before digits kind (after ++ more) (by rw [split, List.append_assoc]; rfl)

theorem Sound.append (sound : Sound arguments items) (wellFormed : item.WellFormed)
    (fine : ∀ digits kind, item = .slot digits kind →
      ∀ fault, ¬Offends arguments (slots items) digits kind.letter fault) :
    Sound arguments (items ++ [item]) where
  wellFormed := by
    rw [List.forall_mem_append, List.forall_mem_singleton]
    exact ⟨sound.wellFormed, wellFormed⟩
  fine before digits kind after split := by
    rcases List.eq_nil_or_concat after with rfl | ⟨after, last, rfl⟩
    · obtain ⟨rfl, same⟩ := List.append_inj' split rfl
      exact fine digits kind (List.cons.inj same).1
    · rw [List.concat_eq_append, ← List.cons_append, ← List.append_assoc] at split
      exact sound.fine before digits kind after (List.append_inj' split rfl).1

/-! ### Numbering -/

inductive Counts : Numbering → List (List Char × Slot) → Prop
  | inTurn {slots : List (List Char × Slot)} (bare : ∀ slot ∈ slots, slot.1 = []) :
      Counts (.relative slots.length) slots
  | byPosition {slots : List (List Char × Slot)} (some : slots ≠ [])
      (placed : ∀ slot ∈ slots, slot.1 ≠ []) : Counts .positional slots

variable {numbering : Numbering}

theorem Counts.choose_eq_none (counts : Counts numbering before) (mixes : Mixes before digits) :
    numbering.choose (position? digits) = none := by
  obtain ⟨slot, member, differs⟩ := mixes
  cases counts with
  | inTurn bare =>
    have placed : digits ≠ [] := fun none => differs (iff_of_true (bare slot member) none)
    rw [position?, if_neg placed]
    cases before with
    | nil => cases member
    | cons slot before => rfl
  | byPosition _ placed =>
    have bare : digits = [] := by
      by_contra some
      exact differs (iff_of_false (placed slot member) some)
    rw [position?, if_pos bare]
    rfl

theorem Counts.exists_choose (counts : Counts numbering before) (agrees : ¬Mixes before digits)
    (kind : Slot) : ∃ next,
      numbering.choose (position? digits) = some (index before.length digits, next) ∧
        Counts next (before ++ [(digits, kind)]) := by
  have alike : ∀ slot ∈ before, slot.1 = [] ↔ digits = [] := by
    intro slot member
    by_contra differs
    exact agrees ⟨slot, member, differs⟩
  -- The first slot decides between the two numberings, and this one agrees with it.
  by_cases bare : digits = []
  · have all : ∀ slot ∈ before ++ [(digits, kind)], slot.1 = [] := by
      rw [List.forall_mem_append, List.forall_mem_singleton]
      exact ⟨fun slot member => (alike slot member).mpr bare, bare⟩
    have counted := Counts.inTurn all
    rw [List.length_append] at counted
    cases counts with
    | inTurn _ =>
      refine ⟨_, ?_, counted⟩
      rw [position?, if_pos bare, index, if_pos bare]
      cases before <;> rfl
    | byPosition some placed =>
      obtain ⟨slot, member⟩ := List.exists_mem_of_ne_nil _ some
      exact absurd ((alike slot member).mpr bare) (placed slot member)
  · have all : ∀ slot ∈ before ++ [(digits, kind)], slot.1 ≠ [] := by
      rw [List.forall_mem_append, List.forall_mem_singleton]
      exact ⟨fun slot member none => bare ((alike slot member).mp none), bare⟩
    refine ⟨.positional, ?_, .byPosition (by simp) all⟩
    rw [position?, if_neg bare, index, if_neg bare]
    cases counts with
    | inTurn inTurn =>
      cases before with
      | nil => rfl
      | cons slot before =>
        exact absurd ((alike slot List.mem_cons_self).mp (inTurn slot List.mem_cons_self)) bare
    | byPosition => rfl

/-! ### Filling what is sound, and stopping where a placeholder offends -/

theorem pieces_fault (all : ∀ digit ∈ digits, digit.isDigit = true)
    (digitless : letter.isDigit = false) (refused : placeholder digits letter = .fault fault)
    (rest : List Char) : pieces ('$' :: (digits ++ letter :: rest)) = [.fault fault] := by
  rw [pieces, if_pos rfl, piecesAfterDollar_digits all, List.nil_append, piecesAfterDollar,
    if_neg (by simp [digitless]), refused]

theorem pieces_slot (all : ∀ digit ∈ digits, digit.isDigit = true) (inRange : InRange digits)
    (kind : Slot) (rest : List Char) : pieces ('$' :: (digits ++ kind.letter :: rest)) =
      .slot kind (position? digits) :: pieces rest := by
  have wellFormed : (Item.slot digits kind).WellFormed := all
  have known : (Item.slot digits kind).InRange := by
    rintro _ ⟨⟩
    exact inRange
  have read := pieces_item wellFormed known rest
  rw [Item.text, List.cons_append, List.append_assoc, List.singleton_append] at read
  exact read

theorem fill_offending (counts : Counts numbering before)
    (all : ∀ digit ∈ digits, digit.isDigit = true)
    (offends : Offends arguments before digits letter fault) (rest : List Char) :
    fill arguments numbering (pieces ('$' :: (digits ++ letter :: rest))) = .error fault := by
  have digitless := offends.digitless
  cases offends with
  | unknown _ unmarked unslotted =>
    rw [pieces_fault all digitless (by rw [placeholder, unmarked, unslotted]), fill]
  | marked marked placed =>
    have refused : placeholder digits letter = .fault .invalidPosition := by
      simp [placeholder, marked, placed]
    rw [pieces_fault all digitless refused, fill]
  | outOfRange out => rw [pieces_fault all digitless (placeholder_out_of_range out _), fill]
  | mixed inRange mixes =>
    rw [pieces_slot all inRange, fill, counts.choose_eq_none mixes]
  | @missing kind inRange agrees beyond =>
    obtain ⟨next, choice, -⟩ := counts.exists_choose agrees kind
    rw [pieces_slot all inRange, fill, choice]
    dsimp only
    rw [List.getElem?_eq_none beyond]
  | untyped inRange agrees found =>
    obtain ⟨next, choice, -⟩ := counts.exists_choose agrees .type
    rw [pieces_slot all inRange, fill, choice]
    dsimp only
    rw [found]
    rfl

theorem denoted_append (items : List Item) (item : Item) : denoted (items ++ [item]) =
    denoted items ++ (item.slot?.map fun slot => index (slots items).length slot.1).toList := by
  rw [denoted, slots_append]
  cases plain : item.slot? with
  | none =>
    rw [slots_cons_plain plain]
    exact (congrArg _ (List.append_nil _)).trans (List.append_nil _).symm
  | some slot =>
    obtain rfl := eq_slot_of_slot? plain
    rw [slots_cons_slot]
    exact List.mapIdx_concat

/-- A slot that does not offend takes the argument that it denotes. -/
theorem fill_fine {kind : Slot} (counts : Counts numbering before)
    (all : ∀ digit ∈ digits, digit.isDigit = true)
    (fine : ∀ fault, ¬Offends arguments before digits kind.letter fault) :
    ∃ next token, Counts next (before ++ [(digits, kind)]) ∧ ∀ rest,
      fill arguments numbering (pieces ((Item.slot digits kind).text ++ rest)) =
        (fun result => (token :: result.1, index before.length digits :: result.2)) <$>
          fill arguments next (pieces rest) := by
  have inRange : InRange digits := by
    by_contra out
    exact fine _ (.outOfRange out)
  have agrees : ¬Mixes before digits := fun mixes => fine _ (.mixed inRange mixes)
  have within : index before.length digits < arguments.length := by
    by_contra beyond
    exact fine _ (.missing inRange agrees (Nat.le_of_not_lt beyond))
  obtain ⟨argument, found⟩ : ∃ argument, arguments[index before.length digits]? = some argument :=
    ⟨_, List.getElem?_eq_getElem within⟩
  have takes : kind.Takes argument := by
    rintro rfl
    cases argument with
    | type t => exact ⟨t, rfl⟩
    | literal text => exact absurd (.untyped inRange agrees found) (fine _)
  obtain ⟨next, choice, counts'⟩ := counts.exists_choose agrees kind
  refine ⟨next, kind.token argument, counts', fun rest => ?_⟩
  have made := (Slot.fill_eq_ok_iff (index before.length digits)).mpr ⟨takes, rfl⟩
  rw [Item.text, List.cons_append, List.append_assoc, List.singleton_append,
    pieces_slot all inRange, fill, choice]
  dsimp only
  rw [found]
  dsimp only
  rw [made]
  cases fill arguments next (pieces rest) <;> rfl

theorem fill_item (counts : Counts numbering (slots items)) (sound : Sound arguments (items ++ [item])) :
    ∃ next token used, Counts next (slots (items ++ [item])) ∧
      denoted (items ++ [item]) = denoted items ++ used ∧ ∀ rest,
      fill arguments numbering (pieces (item.text ++ rest)) =
        (fun result => (token :: result.1, used ++ result.2)) <$>
          fill arguments next (pieces rest) := by
  have wellFormed : item.WellFormed :=
    sound.wellFormed item (List.mem_append_right _ (List.mem_singleton_self item))
  cases plain : item.slot? with
  | none =>
    have inRange : item.InRange := by
      intro slot slotted
      rw [plain] at slotted
      cases slotted
    refine ⟨numbering, item.token, [], ?_, ?_, fun rest => ?_⟩
    · rw [slots_append, slots_cons_plain plain]
      exact (List.append_nil (slots items)).symm ▸ counts
    · rw [denoted_append, plain]
      rfl
    · rw [pieces_item wellFormed inRange, fill_plain plain]
      rfl
  | some slot =>
    obtain ⟨digits, kind⟩ := slot
    obtain rfl := eq_slot_of_slot? plain
    obtain ⟨next, token, counts', run⟩ :=
      fill_fine counts wellFormed (sound.fine items digits kind [] rfl)
    exact ⟨next, token, [_], by rwa [slots_append], denoted_append items _, run⟩

theorem fill_sound (sound : Sound arguments items) :
    ∃ numbering filled, Counts numbering (slots items) ∧ ∀ rest,
      fill arguments (.relative 0) (pieces (items.flatMap Item.text ++ rest)) =
        (fun result => (filled ++ result.1, denoted items ++ result.2)) <$>
          fill arguments numbering (pieces rest) := by
  induction items using List.reverseRecOn with
  | nil =>
    refine ⟨.relative 0, [], .inTurn (List.forall_mem_nil _), fun rest => ?_⟩
    exact (id_map (fill arguments (.relative 0) (pieces rest))).symm
  | append_singleton items item ih =>
    obtain ⟨numbering, filled, counts, run⟩ := ih sound.of_append
    obtain ⟨next, token, used, counts', places, step⟩ := fill_item counts sound
    refine ⟨next, filled ++ [token], counts', fun rest => ?_⟩
    rw [List.flatMap_append, List.append_assoc, List.flatMap_singleton, run, step, places,
      Functor.map_map]
    simp only [List.append_assoc, List.singleton_append]

/-! ### What templates are refused with -/

theorem parse_sound (sound : Sound arguments items) :
    parse (items.flatMap Item.text) arguments = .error fault ↔
      ∃ count, fault = .unusedArguments count ∧ 0 < count ∧
        count = (List.range arguments.length).countP (· ∉ denoted items) := by
  obtain ⟨numbering, filled, -, run⟩ := fill_sound sound
  have whole := run []
  rw [List.append_nil] at whole
  have counted : unusedCount arguments (denoted items ++ []) =
      (List.range arguments.length).countP (· ∉ denoted items) := by
    simp [unusedCount]
  rw [parse, whole]
  show (if 0 < unusedCount arguments (denoted items ++ []) then _ else _) = _ ↔ _
  rw [counted]
  split
  next left =>
    constructor
    · rintro ⟨⟩
      exact ⟨_, rfl, left, rfl⟩
    · rintro ⟨_, rfl, -, rfl⟩
      rfl
  next none =>
    constructor
    · rintro ⟨⟩
    · rintro ⟨_, -, some, rfl⟩
      exact absurd some none

theorem parse_dangling (sound : Sound arguments items)
    (all : ∀ digit ∈ digits, digit.isDigit = true) :
    parse (items.flatMap Item.text ++ '$' :: digits) arguments = .error .danglingDollar := by
  obtain ⟨numbering, filled, -, run⟩ := fill_sound sound
  rw [parse, run, pieces_dangling all]
  rfl

theorem parse_offending (sound : Sound arguments items)
    (all : ∀ digit ∈ digits, digit.isDigit = true)
    (offends : Offends arguments (slots items) digits letter fault) (rest : List Char) :
    parse (items.flatMap Item.text ++ '$' :: (digits ++ letter :: rest)) arguments =
      .error fault := by
  obtain ⟨numbering, filled, counts, run⟩ := fill_sound sound
  rw [parse, run, fill_offending counts all offends]
  rfl

/-! ### How far templates are sound -/

theorem Offends.of_placeholder (digitless : letter.isDigit = false)
    (refused : placeholder digits letter = .fault fault) :
    Offends arguments before digits letter fault := by
  cases marked : mark? letter with
  | some mark =>
    by_cases none : digits = []
    · rw [placeholder, marked, none] at refused
      exact absurd refused (ne_fault_of_mark? marked fault)
    · simp only [placeholder, marked, List.isEmpty_eq_false_iff.mpr none] at refused
      cases refused
      exact .marked marked none
  | none =>
    cases slotted : slot? letter with
    | some kind =>
      obtain rfl := eq_letter_of_slot? slotted
      by_cases inRange : InRange digits
      · rw [placeholder_slot inRange] at refused
        cases refused
      · rw [placeholder_out_of_range inRange] at refused
        cases refused
        exact .outOfRange inRange
    | none =>
      rw [placeholder, marked, slotted] at refused
      cases refused
      exact .unknown digitless marked slotted

/-- A template is sound, ends inside a placeholder, or has a first placeholder that offends. -/
inductive Reaches (arguments : List Argument) : List Char → Prop
  | whole {items : List Item} (sound : Sound arguments items) :
      Reaches arguments (items.flatMap Item.text)
  | dangling {items : List Item} {digits : List Char} (sound : Sound arguments items)
      (all : ∀ digit ∈ digits, digit.isDigit = true) :
      Reaches arguments (items.flatMap Item.text ++ '$' :: digits)
  | offending {items : List Item} {digits : List Char} {letter : Char} {fault : TemplateFault}
      (sound : Sound arguments items) (all : ∀ digit ∈ digits, digit.isDigit = true)
      (offends : Offends arguments (slots items) digits letter fault) (rest : List Char) :
      Reaches arguments (items.flatMap Item.text ++ '$' :: (digits ++ letter :: rest))

theorem exists_digits (template : List Char) : ∃ digits rest, template = digits ++ rest ∧
    (∀ digit ∈ digits, digit.isDigit = true) ∧
    ∀ letter more, rest = letter :: more → letter.isDigit = false := by
  refine ⟨template.takeWhile Char.isDigit, template.dropWhile Char.isDigit,
    List.takeWhile_append_dropWhile.symm, List.all_eq_true.mp List.all_takeWhile, ?_⟩
  intro letter more starts
  have first := List.head?_dropWhile_not Char.isDigit template
  rw [starts] at first
  simpa using first

theorem Sound.reaches {items : List Item} (sound : Sound arguments items) :
    (template : List Char) → Reaches arguments (items.flatMap Item.text ++ template)
  | [] => by
    rw [List.append_nil]
    exact .whole sound
  | c :: rest => by
    by_cases dollar : c = '$'
    · subst dollar
      obtain ⟨digits, more, rfl, all, digitless⟩ := exists_digits rest
      cases more with
      | nil =>
        rw [List.append_nil]
        exact .dangling sound all
      | cons letter more =>
        by_cases offends : ∃ fault, Offends arguments (slots items) digits letter fault
        · obtain ⟨fault, offends⟩ := offends
          exact .offending sound all offends more
        · have fine : ∀ fault, ¬Offends arguments (slots items) digits letter fault :=
            not_exists.mp offends
          obtain ⟨item, spelled, wellFormed, -⟩ := exists_item all fun fault refused =>
            fine fault (.of_placeholder (digitless letter more rfl) refused)
          have longer : Sound arguments (items ++ [item]) := by
            refine sound.append wellFormed ?_
            rintro other kind rfl
            obtain ⟨rfl, same⟩ := List.append_inj' (List.cons.inj spelled).2 rfl
            rw [(List.cons.inj same).1]
            exact fine
          have reached := longer.reaches more
          rw [List.flatMap_append, List.flatMap_singleton, spelled] at reached
          simpa using reached
    · have longer : Sound arguments (items ++ [.char c]) := sound.append dollar nofun
      have reached := longer.reaches rest
      rw [List.flatMap_append, List.append_assoc] at reached
      exact reached
  termination_by template => template.length

theorem reaches (arguments : List Argument) (template : List Char) : Reaches arguments template :=
  Sound.nil.reaches template

theorem start_of_text (wellFormed : item.WellFormed) {start : List Char}
    (begins : start <+: item.text) : start = [] ∨ start = item.text ∨
      ∃ others : List Char, (∀ digit ∈ others, digit.isDigit = true) ∧ start = '$' :: others := by
  have placeholder {digits : List Char} {letter : Char}
      (all : ∀ digit ∈ digits, digit.isDigit = true)
      (spelled : item.text = '$' :: digits ++ [letter]) : start = [] ∨ start = item.text ∨
        ∃ others : List Char, (∀ digit ∈ others, digit.isDigit = true) ∧ start = '$' :: others := by
    rw [spelled, List.prefix_concat_iff, List.prefix_cons_iff] at begins
    rcases begins with rfl | rfl | ⟨others, rfl, more⟩
    · exact .inr (.inl spelled.symm)
    · exact .inl rfl
    · exact .inr (.inr ⟨others, fun digit member => all digit (more.subset member), rfl⟩)
  cases item with
  | char c =>
    rcases List.prefix_cons_iff.mp begins with rfl | ⟨rest, rfl, more⟩
    · exact .inl rfl
    · rw [List.prefix_nil.mp more]
      exact .inr (.inl rfl)
  | slot digits kind => exact placeholder wellFormed rfl
  | _ => exact placeholder (List.forall_mem_nil _) rfl

/-- A start of a template is a start of its items, and may go into the placeholder behind them. -/
theorem start_cases (wellFormed : ∀ item ∈ items, item.WellFormed)
    (all : ∀ digit ∈ digits, digit.isDigit = true) {start : List Char}
    (begins : start <+: items.flatMap Item.text ++ '$' :: digits) :
    ∃ first, first <+: items ∧ (start = first.flatMap Item.text ∨
      ∃ others : List Char, (∀ digit ∈ others, digit.isDigit = true) ∧
        start = first.flatMap Item.text ++ '$' :: others) := by
  induction items generalizing start with
  | nil =>
    refine ⟨[], List.nil_prefix, ?_⟩
    rcases List.prefix_cons_iff.mp begins with rfl | ⟨others, rfl, more⟩
    · exact .inl rfl
    · exact .inr ⟨others, fun digit member => all digit (more.subset member), rfl⟩
  | cons item items ih =>
    rw [List.forall_mem_cons] at wellFormed
    rw [List.flatMap_cons, List.append_assoc] at begins
    rcases List.prefix_or_prefix_of_prefix begins (List.prefix_append _ _) with inside | ⟨rest, rfl⟩
    · rcases start_of_text wellFormed.1 inside with rfl | rfl | ⟨others, digits, rfl⟩
      · exact ⟨[], List.nil_prefix, .inl rfl⟩
      · exact ⟨[item], List.cons_prefix_cons.mpr ⟨rfl, List.nil_prefix⟩,
          .inl (List.append_nil _).symm⟩
      · exact ⟨[], List.nil_prefix, .inr ⟨others, digits, rfl⟩⟩
    · obtain ⟨first, before, shape⟩ := ih wellFormed.2 ((List.prefix_append_right_inj _).mp begins)
      refine ⟨item :: first, List.cons_prefix_cons.mpr ⟨rfl, before⟩, ?_⟩
      rw [List.flatMap_cons]
      rcases shape with rfl | ⟨others, digits, rfl⟩
      · exact .inl rfl
      · exact .inr ⟨others, digits, (List.append_assoc _ _ _).symm⟩

end

/-- The start of a template ends in a placeholder that offends, and none before it does. -/
def EndsOffending (arguments : List Argument) (start : List Char) (fault : TemplateFault) : Prop :=
  ∃ items digits letter, start = items.flatMap Item.text ++ '$' :: (digits ++ [letter]) ∧
    Sound arguments items ∧ (∀ digit ∈ digits, digit.isDigit = true) ∧
    Offends arguments (slots items) digits letter fault

section

variable {arguments : List Argument} {start other : List Char} {fault : TemplateFault}

theorem EndsOffending.parse_eq (ends : EndsOffending arguments start fault) (rest : List Char) :
    parse (start ++ rest) arguments = .error fault := by
  obtain ⟨items, digits, letter, rfl, sound, all, offends⟩ := ends
  have refused := parse_offending sound all offends rest
  simpa using refused

theorem EndsOffending.ne_danglingDollar (ends : EndsOffending arguments start fault) :
    fault ≠ .danglingDollar := by
  obtain ⟨_, _, _, -, -, -, offends⟩ := ends
  exact offends.ne_danglingDollar

theorem EndsOffending.ne_unusedArguments (ends : EndsOffending arguments start fault)
    (count : Nat) : fault ≠ .unusedArguments count := by
  obtain ⟨_, _, _, -, -, -, offends⟩ := ends
  exact offends.ne_unusedArguments count

theorem EndsOffending.eq_of_prefix (ends : EndsOffending arguments start fault)
    (begins : other <+: start) (refused : parse other arguments = .error fault) : other = start := by
  have apart := ends.ne_danglingDollar
  have apart' := ends.ne_unusedArguments
  obtain ⟨items, digits, letter, rfl, sound, all, -⟩ := ends
  rw [← List.cons_append, ← List.append_assoc, List.prefix_concat_iff] at begins
  rcases begins with rfl | before
  · rw [← List.cons_append, ← List.append_assoc]
  · obtain ⟨first, ⟨more, rfl⟩, shape⟩ := start_cases sound.wellFormed all before
    rcases shape with rfl | ⟨others, digits, rfl⟩
    · obtain ⟨count, unused, -⟩ := (parse_sound sound.of_append).mp refused
      exact absurd unused (apart' count)
    · rw [parse_dangling sound.of_append digits] at refused
      exact absurd (Except.error.inj refused).symm apart

theorem EndsOffending.refused_iff {template : List Char}
    (ends : EndsOffending arguments start fault) (begins : start <+: template)
    (inside : other <+: template) :
    (∀ more, parse (other ++ more) arguments = .error fault) ↔ start <+: other := by
  constructor
  · intro stays
    rcases List.prefix_or_prefix_of_prefix begins inside with reached | before
    · exact reached
    · have early := stays []
      rw [List.append_nil] at early
      obtain rfl := ends.eq_of_prefix before early
      exact List.prefix_rfl
  · rintro ⟨rest, rfl⟩ more
    rw [List.append_assoc]
    exact ends.parse_eq _

theorem cases_of_refused {template : List Char} (refused : parse template arguments = .error fault) :
    (∃ start, start <+: template ∧ EndsOffending arguments start fault) ∨
    (fault = .danglingDollar ∧ ∃ items digits, Sound arguments items ∧
      (∀ digit ∈ digits, digit.isDigit = true) ∧
      template = items.flatMap Item.text ++ '$' :: digits) ∨
    ∃ count, fault = .unusedArguments count ∧ ∃ items, Sound arguments items ∧
      template = items.flatMap Item.text ∧ 0 < count ∧
      count = (List.range arguments.length).countP (· ∉ denoted items) := by
  cases reaches arguments template with
  | @whole items sound =>
    obtain ⟨count, unused, some, counted⟩ := (parse_sound sound).mp refused
    exact .inr (.inr ⟨count, unused, items, sound, rfl, some, counted⟩)
  | @dangling items digits sound all =>
    rw [parse_dangling sound all] at refused
    exact .inr (.inl ⟨(Except.error.inj refused).symm, items, digits, sound, all, rfl⟩)
  | @offending items digits letter _ sound all offends rest =>
    rw [parse_offending sound all offends rest] at refused
    obtain rfl := Except.error.inj refused
    refine .inl ⟨_, ⟨rest, ?_⟩, items, digits, letter, rfl, sound, all, offends⟩
    simp

end

end Template

namespace Code

theorem ofTemplate_eq_error_iff {template : String} {arguments : List Argument}
    {error : TemplateError} : ofTemplate template arguments = .error error ↔
      error.template = template ∧ Template.parse template.toList arguments = .error error.fault := by
  rw [ofTemplate]
  cases Template.parse template.toList arguments with
  | ok tokens => simp
  | error fault =>
    obtain ⟨refused, other⟩ := error
    simp [eq_comm]

theorem stays_refused_iff {start : List Char} {arguments : List Argument} {fault : TemplateFault} :
    (∀ more, ofTemplate (String.ofList start ++ more) arguments =
        .error ⟨String.ofList start ++ more, fault⟩) ↔
      ∀ more, Template.parse (start ++ more) arguments = .error fault := by
  simp only [ofTemplate_eq_error_iff, true_and, String.toList_append, String.toList_ofList]
  constructor
  · intro stays more
    have refused := stays (String.ofList more)
    rwa [String.toList_ofList] at refused
  · exact fun stays more => stays more.toList

/-- The fault that a template is refused with is that of its first placeholder that offends: the
start up to there is the shortest one whose continuations are all refused with it. A template where
no placeholder offends is refused only for a dollar sign that its end leaves dangling or, if there
is none, for the arguments that no slot denotes. -/
theorem first_fault_is_reported (template : String) (arguments : List Argument) :
    (∀ error, ofTemplate template arguments = .error error →
      error.template = template ∧
      (error.fault ≠ .danglingDollar → (∀ count, error.fault ≠ .unusedArguments count) →
        ∃ start, start <+: template.toList ∧ Template.EndsOffending arguments start error.fault ∧
          ∀ other, other <+: template.toList →
            ((∀ more, ofTemplate (String.ofList other ++ more) arguments =
                .error ⟨String.ofList other ++ more, error.fault⟩) ↔ start <+: other))) ∧
    (ofTemplate template arguments = .error ⟨template, .danglingDollar⟩ ↔
      ∃ items digits, Template.Sound arguments items ∧ (∀ digit ∈ digits, digit.isDigit = true) ∧
        template.toList = items.flatMap Template.Item.text ++ '$' :: digits) ∧
    ∀ count, ofTemplate template arguments = .error ⟨template, .unusedArguments count⟩ ↔
      ∃ items, Template.Sound arguments items ∧
        template.toList = items.flatMap Template.Item.text ∧ 0 < count ∧
        count = (List.range arguments.length).countP (· ∉ Template.denoted items) := by
  refine ⟨fun error failed => ?_, ⟨fun failed => ?_, ?_⟩, fun count => ⟨fun failed => ?_, ?_⟩⟩
  · obtain ⟨same, refused⟩ := ofTemplate_eq_error_iff.mp failed
    refine ⟨same, fun whole used => ?_⟩
    rcases Template.cases_of_refused refused with ⟨start, begins, ends⟩ | ⟨dangling, -⟩ |
      ⟨count, unused, -⟩
    · exact ⟨start, begins, ends, fun other inside =>
        stays_refused_iff.trans (ends.refused_iff begins inside)⟩
    · exact absurd dangling whole
    · exact absurd unused (used count)
  · have refused := (ofTemplate_eq_error_iff.mp failed).2
    rcases Template.cases_of_refused refused with ⟨start, -, ends⟩ | ⟨-, dangling⟩ | ⟨_, ⟨⟩, -⟩
    · exact absurd rfl ends.ne_danglingDollar
    · exact dangling
  · rintro ⟨items, digits, sound, all, spelled⟩
    refine ofTemplate_eq_error_iff.mpr ⟨rfl, ?_⟩
    rw [spelled]
    exact Template.parse_dangling sound all
  · have refused := (ofTemplate_eq_error_iff.mp failed).2
    rcases Template.cases_of_refused refused with ⟨start, -, ends⟩ | ⟨⟨⟩, -⟩ | ⟨_, ⟨⟩, unused⟩
    · exact absurd rfl (ends.ne_unusedArguments count)
    · exact unused
  · rintro ⟨items, sound, spelled, some, counted⟩
    refine ofTemplate_eq_error_iff.mpr ⟨rfl, ?_⟩
    rw [spelled]
    exact (Template.parse_sound sound).mpr ⟨count, rfl, some, counted⟩

theorem mixed_slots_are_reported :
    let arguments : List Argument := [.literal "a"]
    ofTemplate "$L=$1L" arguments = .error ⟨"$L=$1L", .mixedPlaceholders⟩ ∧
      ∀ more, ofTemplate ("$L=$1L" ++ more) arguments =
        .error ⟨"$L=$1L" ++ more, .mixedPlaceholders⟩ := by
  intro arguments
  have failed : ofTemplate "$L=$1L" arguments = .error ⟨"$L=$1L", .mixedPlaceholders⟩ := by
    have read : Template.pieces "$L=$1L".toList =
        [.slot .literal none, .char '=', .slot .literal (some 0)] := by
      decide
    rw [ofTemplate, Template.parse, read]
    rfl
  obtain ⟨-, reported⟩ := (first_fault_is_reported "$L=$1L" arguments).1 _ failed
  obtain ⟨start, begins, -, stays⟩ := reported (by simp) (by simp)
  refine ⟨failed, fun more => ?_⟩
  have refused := (stays _ List.prefix_rfl).mpr begins more
  rwa [String.ofList_toList] at refused

end Code

end ClassCompiler
