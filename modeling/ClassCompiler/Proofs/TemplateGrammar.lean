import ClassCompiler.Code.Template

/-! The language of templates. A template is a sequence of plain characters, marks and slots; the
scanner of templates finds them, and meets a fault exactly in the texts that are no such sequence. -/

namespace ClassCompiler.Template
open Text

/-- What templates are written with. A slot has the digits before its letter. -/
inductive Item
  | char (c : Char)
  | dollar
  | space
  | indent
  | unindent
  | slot (digits : List Char) (kind : Slot)
  deriving DecidableEq

def Slot.letter : Slot → Char
  | literal => 'L'
  | string => 'S'
  | type => 'T'
  | name => 'N'

namespace Item

def text : Item → List Char
  | char c => [c]
  | dollar => ['$', '$']
  | space => ['$', 'W']
  | indent => ['$', '>']
  | unindent => ['$', '<']
  | slot digits kind => '$' :: (digits ++ [kind.letter])

def WellFormed : Item → Prop
  | char c => c ≠ '$'
  | slot digits _ => ∀ digit ∈ digits, digit.isDigit = true
  | _ => True

def slot? : Item → Option (List Char × Slot)
  | slot digits kind => some (digits, kind)
  | _ => none

end Item

/-- There are no digits, or they spell a number that an argument can have. -/
def InRange (digits : List Char) : Prop :=
  digits = [] ∨ 0 < decimal digits ∧ decimal digits ≤ maxPosition

def Item.InRange (item : Item) : Prop := ∀ slot ∈ item.slot?, Template.InRange slot.1

def position? (digits : List Char) : Option Nat :=
  if digits = [] then none else some (decimal digits - 1)

def Item.piece : Item → Piece
  | .char c => .char c
  | .dollar => .char '$'
  | .space => .char ' '
  | .indent => .indent
  | .unindent => .unindent
  | .slot digits kind => .slot kind (position? digits)

theorem slot?_letter (kind : Slot) : slot? kind.letter = some kind := by cases kind <;> rfl

theorem mark?_letter (kind : Slot) : mark? kind.letter = none := by cases kind <;> rfl

theorem eq_letter_of_slot? {c : Char} {kind : Slot} (found : slot? c = some kind) :
    c = kind.letter := by
  unfold slot? at found
  split at found <;> cases found <;> rfl

/-! ### Reading what is written -/

theorem piecesAfterDollar_digits {digits : List Char} (all : ∀ digit ∈ digits, digit.isDigit = true)
    (before rest : List Char) :
    piecesAfterDollar before (digits ++ rest) = piecesAfterDollar (before ++ digits) rest := by
  induction digits generalizing before with
  | nil => rw [List.nil_append, List.append_nil]
  | cons digit digits ih =>
    rw [List.cons_append, piecesAfterDollar, if_pos (all digit List.mem_cons_self),
      ih fun other member => all other (List.mem_cons_of_mem _ member), List.append_assoc,
      List.singleton_append]

theorem placeholder_slot {digits : List Char} (inRange : InRange digits) (kind : Slot) :
    placeholder digits kind.letter = .slot kind (position? digits) := by
  rw [placeholder, mark?_letter, slot?_letter]
  rcases inRange with rfl | ⟨positive, bounded⟩
  · rfl
  · have some : digits ≠ [] := by
      rintro rfl
      exact absurd positive (Nat.lt_irrefl 0)
    simp [position?, some, positive, bounded]

theorem pieces_item {item : Item} (wellFormed : item.WellFormed) (inRange : item.InRange)
    (rest : List Char) : pieces (item.text ++ rest) = item.piece :: pieces rest := by
  cases item with
  | char c => exact (pieces.eq_2 c rest).trans (if_neg wellFormed)
  | slot digits kind =>
    have letter : kind.letter.isDigit = false := by cases kind <;> rfl
    rw [Item.text, List.cons_append, List.append_assoc, pieces, if_pos rfl,
      piecesAfterDollar_digits wellFormed, List.nil_append, List.singleton_append,
      piecesAfterDollar, if_neg (by simp [letter]), placeholder_slot (inRange _ rfl)]
    rfl
  | _ => rfl

theorem pieces_flatMap_text {items : List Item} (wellFormed : ∀ item ∈ items, item.WellFormed)
    (inRange : ∀ item ∈ items, item.InRange) :
    pieces (items.flatMap Item.text) = items.map Item.piece := by
  induction items with
  | nil => rfl
  | cons item items ih =>
    rw [List.flatMap_cons, List.map_cons,
      pieces_item (wellFormed item List.mem_cons_self) (inRange item List.mem_cons_self),
      ih (fun other member => wellFormed other (List.mem_cons_of_mem _ member))
        fun other member => inRange other (List.mem_cons_of_mem _ member)]

theorem placeholder_out_of_range {digits : List Char} (out : ¬InRange digits) (kind : Slot) :
    placeholder digits kind.letter = .fault .invalidPosition := by
  rw [InRange, not_or] at out
  have filled : ¬digits.isEmpty = true := by simpa using out.1
  have unfit : ¬(0 < decimal digits && decimal digits ≤ maxPosition) = true := by simpa using out.2
  rw [placeholder, mark?_letter, slot?_letter]
  dsimp only
  rw [if_neg filled, if_neg unfit]

theorem pieces_out_of_range {item : Item} (wellFormed : item.WellFormed) (out : ¬item.InRange)
    (rest : List Char) : pieces (item.text ++ rest) = [.fault .invalidPosition] := by
  cases item with
  | slot digits kind =>
    have beyond : ¬Template.InRange digits := fun inRange => out fun slot slotted => by
      obtain rfl := Option.some.inj slotted
      exact inRange
    have letter : kind.letter.isDigit = false := by cases kind <;> rfl
    rw [Item.text, List.cons_append, List.append_assoc, pieces, if_pos rfl,
      piecesAfterDollar_digits wellFormed, List.nil_append, List.singleton_append,
      piecesAfterDollar, if_neg (by simp [letter]), placeholder_out_of_range beyond]
  | _ => exact absurd (fun _ slotted => nomatch slotted) out

theorem inRange_of_clean {items : List Item} (wellFormed : ∀ item ∈ items, item.WellFormed)
    (clean : ∀ fault, Piece.fault fault ∉ pieces (items.flatMap Item.text)) :
    ∀ item ∈ items, item.InRange := by
  induction items with
  | nil => exact List.forall_mem_nil _
  | cons item items ih =>
    rw [List.forall_mem_cons] at wellFormed ⊢
    rw [List.flatMap_cons] at clean
    by_cases inRange : item.InRange
    · rw [pieces_item wellFormed.1 inRange] at clean
      exact ⟨inRange, ih wellFormed.2 fun fault member =>
        clean fault (List.mem_cons_of_mem _ member)⟩
    · rw [pieces_out_of_range wellFormed.1 inRange] at clean
      exact absurd (List.mem_singleton.mpr rfl) (clean .invalidPosition)

/-! ### Finding what was written -/

theorem exists_mark {c : Char} {mark : Piece} (found : mark? c = some mark) :
    ∃ item : Item, item.text = ['$', c] ∧ item.WellFormed ∧ item.InRange := by
  unfold mark? at found
  split at found
  next => exact ⟨.dollar, rfl, trivial, nofun⟩
  next => exact ⟨.space, rfl, trivial, nofun⟩
  next => exact ⟨.indent, rfl, trivial, nofun⟩
  next => exact ⟨.unindent, rfl, trivial, nofun⟩
  next => cases found

theorem exists_item {digits : List Char} {c : Char}
    (all : ∀ digit ∈ digits, digit.isDigit = true)
    (sound : ∀ fault, placeholder digits c ≠ .fault fault) :
    ∃ item : Item, item.text = '$' :: (digits ++ [c]) ∧ item.WellFormed ∧ item.InRange := by
  unfold placeholder at sound
  split at sound
  next marked =>
    split at sound
    next none =>
      rw [List.isEmpty_iff.mp none]
      exact exists_mark marked
    next => exact absurd rfl (sound _)
  next kind _ slotted =>
    have spelled := eq_letter_of_slot? slotted
    refine ⟨.slot digits kind, by rw [Item.text, spelled], all, ?_⟩
    rintro _ ⟨⟩
    split at sound
    next none => exact .inl (List.isEmpty_iff.mp none)
    next =>
      dsimp only at sound
      split at sound
      next inRange => exact .inr (by simpa using inRange)
      next => exact absurd rfl (sound _)
  next => exact absurd rfl (sound _)

mutual

/-- A text without faults is a sequence of items. -/
theorem exists_items : (template : List Char) → (∀ fault, Piece.fault fault ∉ pieces template) →
    ∃ items : List Item, template = items.flatMap Item.text ∧
      ∀ item ∈ items, item.WellFormed ∧ item.InRange
  | [], _ => ⟨[], rfl, List.forall_mem_nil _⟩
  | c :: rest, clean => by
    rw [pieces] at clean
    split at clean
    next dollar =>
      rw [dollar]
      exact exists_items_afterDollar [] (List.forall_mem_nil _) rest clean
    next plain =>
      obtain ⟨items, rfl, all⟩ := exists_items rest fun fault member =>
        clean fault (List.mem_cons_of_mem _ member)
      exact ⟨.char c :: items, rfl, List.forall_mem_cons.mpr ⟨⟨plain, nofun⟩, all⟩⟩

theorem exists_items_afterDollar : (digits : List Char) →
    (∀ digit ∈ digits, digit.isDigit = true) → (template : List Char) →
    (∀ fault, Piece.fault fault ∉ piecesAfterDollar digits template) →
    ∃ items : List Item, '$' :: (digits ++ template) = items.flatMap Item.text ∧
      ∀ item ∈ items, item.WellFormed ∧ item.InRange
  | digits, _, [], clean => absurd (List.mem_singleton.mpr rfl) (clean .danglingDollar)
  | digits, all, c :: rest, clean => by
    rw [piecesAfterDollar] at clean
    split at clean
    next digit =>
      have longer : ∀ other ∈ digits ++ [c], other.isDigit = true := by
        intro other member
        rcases List.mem_append.mp member with before | last
        · exact all other before
        · exact List.mem_singleton.mp last ▸ digit
      have found := exists_items_afterDollar (digits ++ [c]) longer rest clean
      rwa [List.append_assoc, List.singleton_append] at found
    next =>
      split at clean
      next fault _ => exact absurd (List.mem_singleton.mpr rfl) (clean fault)
      next sound =>
        obtain ⟨item, spelled, wellFormed, inRange⟩ := exists_item all sound
        obtain ⟨items, rfl, good⟩ := exists_items rest fun fault member =>
          clean fault (List.mem_cons_of_mem _ member)
        refine ⟨item :: items, ?_, List.forall_mem_cons.mpr ⟨⟨wellFormed, inRange⟩, good⟩⟩
        rw [List.flatMap_cons, spelled, List.cons_append, List.append_assoc, List.singleton_append]

end

end ClassCompiler.Template
