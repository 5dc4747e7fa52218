import ClassCompiler.Proofs.Rendering
import ClassCompiler.Proofs.TemplateGrammar
import Mathlib.Data.List.Chain
import Mathlib.Data.List.Forall2

/-! What templates make of their arguments. A template is accepted exactly if its slots agree on one
way to number arguments and denote each of them, and types where only types can stand; its block is
the template with every placeholder replaced. -/

namespace ClassCompiler

namespace Code.Token

def shift? : Token → Option Int
  | indent => some 1
  | unindent => some (-1)
  | _ => none

def IsText (token : Token) : Prop := ∃ s, token = text s

theorem text_empty_not_mem_merge (tokens : List Token) : text "" ∉ merge tokens := by
  fun_induction merge tokens with
  | case1 => exact List.not_mem_nil
  | case2 s rest t more merged ih =>
    rw [merged, List.mem_cons, not_or] at ih
    rw [List.mem_cons, not_or]
    refine ⟨fun same => ih.1 ?_, ih.2⟩
    have none := congrArg String.toList (Token.text.inj same)
    rw [String.toList_empty, String.toList_append] at none
    rw [String.toList_eq_nil_iff.mp (List.append_eq_nil_iff.mp none.symm).2]
  | case3 rest alone ih => exact ih
  | case4 s rest some alone ih =>
    rw [List.mem_cons, not_or]
    exact ⟨fun same => some (Token.text.inj same).symm, ih⟩
  | case5 token rest mark ih =>
    rw [List.mem_cons, not_or]
    exact ⟨fun same => mark "" same.symm, ih⟩

theorem isChain_merge (tokens : List Token) :
    (merge tokens).IsChain fun a b => ¬(a.IsText ∧ b.IsText) := by
  fun_induction merge tokens with
  | case1 => exact .nil
  | case2 s rest t more merged ih =>
    rw [merged, List.isChain_cons] at ih
    rw [List.isChain_cons]
    exact ⟨fun b starts both => ih.1 b starts ⟨⟨t, rfl⟩, both.2⟩, ih.2⟩
  | case3 rest alone ih => exact ih
  | case4 s rest some alone ih =>
    rw [List.isChain_cons]
    refine ⟨fun b starts both => ?_, ih⟩
    obtain ⟨t, rfl⟩ := both.2
    obtain ⟨more, same⟩ := List.head?_eq_some_iff.mp starts
    exact alone t more same
  | case5 token rest mark ih =>
    rw [List.isChain_cons]
    exact ⟨fun b starts both => both.1.elim mark, ih⟩

theorem filterMap_merge {α : Type} {f : Token → Option α} (texts : ∀ s, f (text s) = none)
    (tokens : List Token) : (merge tokens).filterMap f = tokens.filterMap f := by
  fun_induction merge tokens with
  | case1 => rfl
  | case2 s rest t more merged ih =>
    rw [merged, List.filterMap_cons_none (texts t)] at ih
    rw [List.filterMap_cons_none (texts _), List.filterMap_cons_none (texts _), ih]
  | case3 rest alone ih => rw [ih, List.filterMap_cons_none (texts _)]
  | case4 s rest some alone ih =>
    rw [List.filterMap_cons_none (texts _), List.filterMap_cons_none (texts _), ih]
  | case5 token rest mark ih => rw [List.filterMap_cons, List.filterMap_cons, ih]

theorem join_spelling_merge (tokens : List Token) :
    String.join ((merge tokens).map spelling) = String.join (tokens.map spelling) := by
  fun_induction merge tokens with
  | case1 => rfl
  | case2 s rest t more merged ih =>
    rw [merged, List.map_cons, String.join_cons] at ih
    rw [List.map_cons, List.map_cons, String.join_cons, String.join_cons, ← ih]
    exact String.append_assoc
  | case3 rest alone ih =>
    rw [List.map_cons, String.join_cons, ih]
    exact String.empty_append.symm
  | case4 s rest some alone ih =>
    rw [List.map_cons, List.map_cons, String.join_cons, String.join_cons, ih]
  | case5 token rest mark ih =>
    rw [List.map_cons, List.map_cons, String.join_cons, String.join_cons, ih]

end Code.Token

namespace Template
open Text

namespace Slot

def Takes (kind : Slot) (argument : Argument) : Prop :=
  kind = .type → ∃ t, argument = .type t

def text : Slot → Argument → String
  | string, argument => Code.quote argument.text
  | _, argument => argument.text

def reference? : Slot → Argument → Option TypeName
  | literal, .type t => some t
  | type, .type t => some t
  | _, _ => none

def token (kind : Slot) (argument : Argument) : Code.Token :=
  match kind.reference? argument with
  | some t => .type t
  | none => .text (kind.text argument)

theorem fill_eq_ok_iff (index : Nat) {kind : Slot} {argument : Argument} {token : Code.Token} :
    kind.fill index argument = .ok token ↔ kind.Takes argument ∧ token = kind.token argument := by
  cases argument <;> cases kind <;>
    simp [fill, Takes, Slot.token, reference?, text, Argument.text, eq_comm]

theorem spelling_token (kind : Slot) (argument : Argument) :
    (kind.token argument).spelling = kind.text argument := by
  cases kind <;> cases argument <;> rfl

theorem type?_token (kind : Slot) (argument : Argument) :
    (kind.token argument).type? = kind.reference? argument := by
  cases kind <;> cases argument <;> rfl

theorem shift?_token (kind : Slot) (argument : Argument) : (kind.token argument).shift? = none := by
  cases kind <;> cases argument <;> rfl

end Slot

/-! ### What a template means -/

def Item.plain : Item → String
  | .char c => String.singleton c
  | .dollar => "$"
  | .space => " "
  | _ => ""

def Item.shift? : Item → Option Int
  | .indent => some 1
  | .unindent => some (-1)
  | _ => none

def slots (items : List Item) : List (List Char × Slot) := items.filterMap Item.slot?

/-- The text in which every placeholder is replaced, the slots by the arguments chosen for them. -/
def substitute : List Item → List Argument → String
  | .slot _ kind :: items, argument :: chosen => kind.text argument ++ substitute items chosen
  | item :: items, chosen => item.plain ++ substitute items chosen
  | [], _ => ""

/-- The types among the arguments chosen for slots, where the slots keep the reference. -/
def references (items : List Item) (chosen : List Argument) : List TypeName :=
  ((slots items).zip chosen).filterMap fun (slot, argument) => slot.2.reference? argument

/-- The numbers of the arguments that slots denote, from one on. Slots without digits are numbered
in turn; otherwise the digits of all slots are their numbers. -/
inductive Numbered : List (List Char × Slot) → List Nat → Prop
  | inTurn {slots : List (List Char × Slot)} (bare : ∀ slot ∈ slots, slot.1 = []) :
      Numbered slots (List.range' 1 slots.length)
  | byPosition {slots : List (List Char × Slot)} (placed : ∀ slot ∈ slots, slot.1 ≠ []) :
      Numbered slots (slots.map (decimal ·.1))

/-- The template is this sequence of items, and these are the arguments that its slots denote. -/
structure Reading (template : List Char) (arguments : List Argument) (items : List Item)
    (chosen : List Argument) : Prop where
  spelled : template = items.flatMap Item.text
  wellFormed : ∀ item ∈ items, item.WellFormed
  numbered : ∃ numbers, Numbered (slots items) numbers ∧ (∀ number ∈ numbers, 0 < number) ∧
    List.Forall₂ (fun number argument => arguments[number - 1]? = some argument) numbers chosen ∧
    ∀ index < arguments.length, index + 1 ∈ numbers
  taken : List.Forall₂ (fun slot argument => slot.2.Takes argument) (slots items) chosen

/-! ### Filling slots one by one -/

def Item.token : Item → Code.Token
  | .indent => .indent
  | .unindent => .unindent
  | item => .text item.plain

def tokens : List Item → List Argument → List Code.Token
  | .slot _ kind :: items, argument :: chosen => kind.token argument :: tokens items chosen
  | item :: items, chosen => item.token :: tokens items chosen
  | [], _ => []

/-- The arguments that slots with these positions choose one after the other, from zero on. -/
inductive Chooses : Numbering → List (Option Nat) → List Nat → Prop
  | nil {numbering : Numbering} : Chooses numbering [] []
  | cons {numbering next : Numbering} {position : Option Nat} {index : Nat}
      {positions : List (Option Nat)} {indices : List Nat}
      (chosen : numbering.choose position = some (index, next))
      (rest : Chooses next positions indices) :
      Chooses numbering (position :: positions) (index :: indices)

theorem chooses_positional_iff {positions : List (Option Nat)} {indices : List Nat} :
    Chooses .positional positions indices ↔ positions = indices.map some := by
  induction positions generalizing indices with
  | nil =>
    constructor
    · rintro ⟨⟩
      rfl
    · intro same
      rw [List.map_eq_nil_iff.mp same.symm]
      exact .nil
  | cons position positions ih =>
    constructor
    · rintro (_ | ⟨chosen, rest⟩)
      cases position with
      | none => cases chosen
      | some index =>
        cases chosen
        rw [ih.mp rest, List.map_cons]
    · intro same
      obtain ⟨index, rest, rfl, rfl, rfl⟩ := List.map_eq_cons_iff.mp same.symm
      exact .cons rfl (ih.mpr rfl)

theorem chooses_relative_iff {next : Nat} (begun : 0 < next) {positions : List (Option Nat)}
    {indices : List Nat} : Chooses (.relative next) positions indices ↔
      (∀ position ∈ positions, position = none) ∧ indices = List.range' next positions.length := by
  induction positions generalizing next indices with
  | nil =>
    constructor
    · rintro ⟨⟩
      exact ⟨List.forall_mem_nil _, rfl⟩
    · rintro ⟨-, rfl⟩
      exact .nil
  | cons position positions ih =>
    rw [List.forall_mem_cons, List.length_cons, List.range'_succ]
    constructor
    · rintro (_ | ⟨chosen, rest⟩)
      obtain ⟨before, rfl⟩ := Nat.exists_eq_add_one.mpr begun
      cases position with
      | some index => cases chosen
      | none =>
        cases chosen
        obtain ⟨bare, rfl⟩ := (ih (Nat.succ_pos _)).mp rest
        exact ⟨⟨rfl, bare⟩, rfl⟩
    · rintro ⟨⟨rfl, bare⟩, rfl⟩
      exact .cons rfl ((ih (Nat.succ_pos next)).mpr ⟨bare, rfl⟩)

/-- The first slot decides for all of them. -/
theorem chooses_iff {positions : List (Option Nat)} {indices : List Nat} :
    Chooses (.relative 0) positions indices ↔
      (∀ position ∈ positions, position = none) ∧ indices = List.range' 0 positions.length ∨
        positions = indices.map some := by
  cases positions with
  | nil =>
    constructor
    · rintro ⟨⟩
      exact .inr rfl
    · rintro (⟨-, rfl⟩ | same)
      · exact .nil
      · rw [List.map_eq_nil_iff.mp same.symm]
        exact .nil
  | cons position positions =>
    rw [List.forall_mem_cons, List.length_cons, List.range'_succ]
    constructor
    · rintro (_ | ⟨chosen, rest⟩)
      cases position with
      | none =>
        cases chosen
        obtain ⟨bare, rfl⟩ := (chooses_relative_iff Nat.one_pos).mp rest
        exact .inl ⟨⟨rfl, bare⟩, rfl⟩
      | some index =>
        cases chosen
        rw [chooses_positional_iff.mp rest]
        exact .inr rfl
    · rintro (⟨⟨rfl, bare⟩, rfl⟩ | same)
      · exact .cons rfl ((chooses_relative_iff Nat.one_pos).mpr ⟨bare, rfl⟩)
      · obtain ⟨index, rest, rfl, rfl, rfl⟩ := List.map_eq_cons_iff.mp same.symm
        exact .cons rfl (chooses_positional_iff.mpr rfl)

section

variable {arguments : List Argument} {numbering : Numbering} {used : List Nat}
  {filled : List Code.Token}

theorem fill_slot_eq_ok_iff {kind : Slot} {position : Option Nat} {rest : List Piece} :
    fill arguments numbering (.slot kind position :: rest) = .ok (filled, used) ↔
      ∃ index next argument others more, numbering.choose position = some (index, next) ∧
        arguments[index]? = some argument ∧ kind.Takes argument ∧
        fill arguments next rest = .ok (others, more) ∧
        filled = kind.token argument :: others ∧ used = index :: more := by
  constructor
  · intro ok
    rw [fill] at ok
    split at ok
    next => cases ok
    next index next choice =>
      split at ok
      next => cases ok
      next argument found =>
        cases made : kind.fill index argument with
        | error fault =>
          rw [made] at ok
          cases ok
        | ok token =>
          cases later : fill arguments next rest with
          | error fault =>
            rw [made, later] at ok
            cases ok
          | ok result =>
            rw [made, later] at ok
            cases ok
            obtain ⟨takes, rfl⟩ := (Slot.fill_eq_ok_iff index).mp made
            exact ⟨index, next, argument, _, _, choice, found, takes, later, rfl, rfl⟩
  · rintro ⟨index, next, argument, others, more, choice, found, takes, later, rfl, rfl⟩
    have made := (Slot.fill_eq_ok_iff index).mpr ⟨takes, rfl⟩
    rw [fill, choice]
    dsimp only
    rw [found]
    dsimp only
    rw [made, later]
    rfl

theorem fill_plain {item : Item} (plain : item.slot? = none) (numbering : Numbering)
    (rest : List Piece) : fill arguments numbering (item.piece :: rest) =
      (fun result => (item.token :: result.1, result.2)) <$> fill arguments numbering rest := by
  cases item with
  | slot digits kind => cases plain
  | _ =>
    rw [Item.piece, fill]
    cases fill arguments numbering rest <;> rfl

theorem fill_plain_eq_ok_iff {item : Item} (plain : item.slot? = none) {rest : List Piece} :
    fill arguments numbering (item.piece :: rest) = .ok (filled, used) ↔
      ∃ others, fill arguments numbering rest = .ok (others, used) ∧
        filled = item.token :: others := by
  rw [fill_plain plain]
  cases later : fill arguments numbering rest with
  | error fault => simp
  | ok result =>
    obtain ⟨others, more⟩ := result
    simp [eq_comm, and_comm]

theorem eq_slot_of_slot? {item : Item} {digits : List Char} {kind : Slot}
    (slotted : item.slot? = some (digits, kind)) : item = .slot digits kind := by
  cases item <;> cases slotted
  rfl

theorem slots_cons_slot (digits : List Char) (kind : Slot) (items : List Item) :
    slots (.slot digits kind :: items) = (digits, kind) :: slots items := rfl

theorem slots_cons_plain {item : Item} (plain : item.slot? = none) (items : List Item) :
    slots (item :: items) = slots items := List.filterMap_cons_none plain

theorem slots_append (items more : List Item) : slots (items ++ more) = slots items ++ slots more :=
  List.filterMap_append

theorem tokens_cons_plain {item : Item} (plain : item.slot? = none) (items : List Item)
    (chosen : List Argument) :
    tokens (item :: items) chosen = item.token :: tokens items chosen := by
  cases item with
  | slot digits kind => cases plain
  | _ =>
    rw [tokens]
    exact fun _ _ _ _ _ slotted => nomatch slotted

theorem fill_eq_ok_iff {items : List Item} :
    fill arguments numbering (items.map Item.piece) = .ok (filled, used) ↔
      ∃ chosen, Chooses numbering ((slots items).map (position? ·.1)) used ∧
        List.Forall₂ (fun index argument => arguments[index]? = some argument) used chosen ∧
        List.Forall₂ (fun slot argument => slot.2.Takes argument) (slots items) chosen ∧
        filled = tokens items chosen := by
  induction items generalizing numbering filled used with
  | nil =>
    constructor
    · rintro ⟨⟩
      exact ⟨[], .nil, .nil, .nil, rfl⟩
    · rintro ⟨chosen, ⟨⟩, ⟨⟩, -, rfl⟩
      rfl
  | cons item items ih =>
    rw [List.map_cons]
    cases plain : item.slot? with
    | none =>
      rw [fill_plain_eq_ok_iff plain, slots_cons_plain plain]
      simp only [tokens_cons_plain plain, ih]
      constructor
      · rintro ⟨others, ⟨chosen, rest, denoted, taken, rfl⟩, rfl⟩
        exact ⟨chosen, rest, denoted, taken, rfl⟩
      · rintro ⟨chosen, rest, denoted, taken, rfl⟩
        exact ⟨_, ⟨chosen, rest, denoted, taken, rfl⟩, rfl⟩
    | some slot =>
      obtain ⟨digits, kind⟩ := slot
      obtain rfl := eq_slot_of_slot? plain
      rw [Item.piece, fill_slot_eq_ok_iff, slots_cons_slot, List.map_cons]
      constructor
      · rintro ⟨index, next, argument, others, more, choice, found, takes, later, rfl, rfl⟩
        obtain ⟨chosen, rest, denoted, taken, rfl⟩ := ih.mp later
        exact ⟨argument :: chosen, .cons choice rest, .cons found denoted, .cons takes taken, rfl⟩
      · rintro ⟨chosen, _ | ⟨choice, rest⟩, _ | ⟨found, denoted⟩, _ | ⟨takes, taken⟩, rfl⟩
        exact ⟨_, _, _, _, _, choice, found, takes, ih.mpr ⟨_, rest, denoted, taken, rfl⟩, rfl, rfl⟩

end

theorem fill_cons_eq_ok {arguments : List Argument} {numbering : Numbering} {piece : Piece}
    {rest : List Piece} {result : List Code.Token × List Nat}
    (ok : fill arguments numbering (piece :: rest) = .ok result) :
    (∀ fault, .fault fault ≠ piece) ∧ ∃ next others, fill arguments next rest = .ok others := by
  cases piece with
  | fault fault => cases ok
  | slot kind position =>
    obtain ⟨_, next, _, others, more, -, -, -, later, -⟩ := fill_slot_eq_ok_iff.mp ok
    exact ⟨nofun, next, (others, more), later⟩
  | _ =>
    rw [fill] at ok
    cases later : fill arguments numbering rest with
    | error fault =>
      rw [later] at ok
      cases ok
    | ok others => exact ⟨nofun, numbering, others, later⟩

theorem fault_not_mem_of_fill {arguments : List Argument} {numbering : Numbering}
    {pieces : List Piece} {result : List Code.Token × List Nat}
    (ok : fill arguments numbering pieces = .ok result) (fault : TemplateFault) :
    .fault fault ∉ pieces := by
  induction pieces generalizing numbering result with
  | nil => exact List.not_mem_nil
  | cons piece rest ih =>
    obtain ⟨sound, next, others, later⟩ := fill_cons_eq_ok ok
    rw [List.mem_cons, not_or]
    exact ⟨sound fault, ih later⟩

/-! ### Numbers of arguments -/

theorem inRange_iff {items : List Item} :
    (∀ item ∈ items, item.InRange) ↔ ∀ slot ∈ slots items, InRange slot.1 := by
  constructor
  · intro inRange slot member
    obtain ⟨item, inside, slotted⟩ := List.mem_filterMap.mp member
    exact inRange item inside slot slotted
  · intro inRange item inside slot slotted
    exact inRange slot (List.mem_filterMap.mpr ⟨item, inside, slotted⟩)

theorem position?_eq_none_iff {digits : List Char} : position? digits = none ↔ digits = [] := by
  simp [position?]

theorem position?_eq_some_iff {digits : List Char} (inRange : InRange digits) {index : Nat} :
    position? digits = some index ↔ digits ≠ [] ∧ index + 1 = decimal digits := by
  rcases inRange with rfl | ⟨positive, -⟩
  · simp [position?]
  · have some : digits ≠ [] := by
      rintro rfl
      exact absurd positive (Nat.lt_irrefl 0)
    simp only [position?, some, if_false, Option.some.injEq, ne_eq, not_false_iff, true_and]
    omega

theorem map_position?_eq_iff {slots : List (List Char × Slot)} {used : List Nat}
    (inRange : ∀ slot ∈ slots, InRange slot.1) :
    slots.map (position? ·.1) = used.map some ↔
      (∀ slot ∈ slots, slot.1 ≠ []) ∧ used.map (· + 1) = slots.map (decimal ·.1) := by
  induction slots generalizing used with
  | nil => cases used <;> simp
  | cons slot slots ih =>
    cases used with
    | nil => simp
    | cons index used =>
      rw [List.forall_mem_cons] at inRange
      rw [List.map_cons, List.map_cons, List.map_cons, List.map_cons, List.cons.injEq,
        List.cons.injEq, List.forall_mem_cons, position?_eq_some_iff inRange.1, ih inRange.2]
      exact and_and_and_comm

theorem numbered_iff {slots : List (List Char × Slot)} {numbers : List Nat} :
    Numbered slots numbers ↔
      (∀ slot ∈ slots, slot.1 = []) ∧ numbers = List.range' 1 slots.length ∨
        (∀ slot ∈ slots, slot.1 ≠ []) ∧ numbers = slots.map (decimal ·.1) := by
  constructor
  · rintro (bare | placed)
    · exact .inl ⟨bare, rfl⟩
    · exact .inr ⟨placed, rfl⟩
  · rintro (⟨bare, rfl⟩ | ⟨placed, rfl⟩)
    · exact .inTurn bare
    · exact .byPosition placed

theorem chooses_iff_numbered {slots : List (List Char × Slot)} {used : List Nat}
    (inRange : ∀ slot ∈ slots, InRange slot.1) :
    Chooses (.relative 0) (slots.map (position? ·.1)) used ↔
      Numbered slots (used.map (· + 1)) := by
  have shifted : used = List.range' 0 slots.length ↔
      used.map (· + 1) = List.range' 1 slots.length := by
    have next : List.range' 1 slots.length = (List.range' 0 slots.length).map (· + 1) := by
      simpa [Nat.add_comm] using (List.map_add_range' (a := 1) 0 slots.length 1).symm
    rw [next, List.map_inj_right fun _ _ => Nat.succ_inj.mp]
  rw [chooses_iff, numbered_iff, map_position?_eq_iff inRange, List.length_map, shifted,
    List.forall_mem_map]
  simp only [position?_eq_none_iff]

theorem exists_of_mem_forall₂ {α β : Type} {related : α → β → Prop} {as : List α} {bs : List β}
    (all : List.Forall₂ related as bs) {a : α} (member : a ∈ as) : ∃ b, related a b := by
  induction all with
  | nil => cases member
  | @cons first second as bs head rest ih =>
    rcases List.mem_cons.mp member with rfl | later
    · exact ⟨second, head⟩
    · exact ih later

theorem unusedCount_eq_zero_iff {arguments : List Argument} {used : List Nat} :
    unusedCount arguments used = 0 ↔ ∀ index < arguments.length, index ∈ used := by
  simp [unusedCount, List.countP_eq_zero]

/-! ### Accepted templates -/

section

variable {template : List Char} {arguments : List Argument} {items : List Item}
  {chosen : List Argument}

/-- No list of arguments is so long that a position could not be written. -/
theorem Reading.inRange (reading : Reading template arguments items chosen)
    (fits : arguments.length ≤ maxPosition) : ∀ slot ∈ slots items, InRange slot.1 := by
  intro slot member
  obtain ⟨numbers, numbered, positive, denoted, -⟩ := reading.numbered
  cases numbered with
  | inTurn bare => exact .inl (bare slot member)
  | byPosition placed =>
    have inside := List.mem_map_of_mem (f := (decimal ·.1)) member
    obtain ⟨argument, found⟩ := exists_of_mem_forall₂ denoted inside
    have bound := (List.getElem?_eq_some_iff.mp found).1
    exact .inr ⟨positive _ inside, by omega⟩

theorem Reading.parse_eq_of_inRange (reading : Reading template arguments items chosen)
    (inRange : ∀ slot ∈ slots items, InRange slot.1) :
    parse template arguments = .ok (Code.Token.merge (tokens items chosen)) := by
  obtain ⟨numbers, numbered, positive, denoted, complete⟩ := reading.numbered
  have restored : (numbers.map (· - 1)).map (· + 1) = numbers := by
    rw [List.map_map, List.map_congr_left, List.map_id]
    exact fun number member => Nat.sub_add_cancel (positive number member)
  have chooses := (chooses_iff_numbered inRange).mpr (restored ▸ numbered)
  have ok := fill_eq_ok_iff.mpr ⟨chosen, chooses, List.forall₂_map_left_iff.mpr denoted,
    reading.taken, rfl⟩
  have unused : unusedCount arguments (numbers.map (· - 1)) = 0 :=
    unusedCount_eq_zero_iff.mpr fun index inside =>
      List.mem_map.mpr ⟨index + 1, complete index inside, rfl⟩
  rw [parse, reading.spelled, pieces_flatMap_text reading.wellFormed (inRange_iff.mpr inRange),
    ok]
  show (if 0 < unusedCount arguments (numbers.map (· - 1)) then _ else _) = _
  rw [unused]
  rfl

theorem Reading.parse_eq (reading : Reading template arguments items chosen)
    (fits : arguments.length ≤ maxPosition) :
    parse template arguments = .ok (Code.Token.merge (tokens items chosen)) :=
  reading.parse_eq_of_inRange (reading.inRange fits)

theorem exists_fill {made : List Code.Token} (ok : parse template arguments = .ok made) :
    ∃ result, fill arguments (.relative 0) (pieces template) = .ok result ∧
      unusedCount arguments result.2 = 0 := by
  unfold parse at ok
  cases filled : fill arguments (.relative 0) (pieces template) with
  | error fault =>
    rw [filled] at ok
    cases ok
  | ok result =>
    rw [filled] at ok
    refine ⟨result, rfl, ?_⟩
    by_contra unused
    simp [bind, Except.bind, Nat.pos_of_ne_zero unused, throw, throwThe,
      MonadExceptOf.throw] at ok

/-- Any reading of an accepted template says what it makes, also if its numbers are huge. -/
theorem Reading.made (reading : Reading template arguments items chosen)
    {made : List Code.Token} (ok : parse template arguments = .ok made) :
    made = Code.Token.merge (tokens items chosen) := by
  obtain ⟨result, filled, -⟩ := exists_fill ok
  have clean := fault_not_mem_of_fill filled
  rw [reading.spelled] at clean
  have inRange := inRange_iff.mp (inRange_of_clean reading.wellFormed clean)
  exact Except.ok.inj (ok.symm.trans (reading.parse_eq_of_inRange inRange))

theorem exists_reading {made : List Code.Token} (ok : parse template arguments = .ok made) :
    ∃ items chosen, Reading template arguments items chosen := by
  obtain ⟨⟨filling, used⟩, filled, complete⟩ := exists_fill ok
  obtain ⟨items, rfl, all⟩ := exists_items template (fault_not_mem_of_fill filled)
  have wellFormed := fun item member => (all item member).1
  have inRange := fun item member => (all item member).2
  rw [pieces_flatMap_text wellFormed inRange] at filled
  obtain ⟨chosen, chooses, denoted, taken, -⟩ := fill_eq_ok_iff.mp filled
  refine ⟨items, chosen, rfl, wellFormed, ⟨used.map (· + 1), ?_, ?_, ?_, ?_⟩, taken⟩
  · exact (chooses_iff_numbered (inRange_iff.mp inRange)).mp chooses
  · simp
  · simpa using denoted
  · simpa using unusedCount_eq_zero_iff.mp complete

end

/-! ### The block of a template -/

theorem spelling_token (item : Item) : item.token.spelling = item.plain := by cases item <;> rfl

theorem type?_token (item : Item) : item.token.type? = none := by cases item <;> rfl

theorem shift?_token (item : Item) : item.token.shift? = item.shift? := by cases item <;> rfl

theorem join_spelling_tokens (items : List Item) (chosen : List Argument) :
    String.join ((tokens items chosen).map Code.Token.spelling) = substitute items chosen := by
  fun_induction tokens items chosen with
  | case1 digits kind items argument chosen ih =>
    rw [List.map_cons, String.join_cons, ih, Slot.spelling_token, substitute]
  | case2 item items chosen unmatched ih =>
    rw [List.map_cons, String.join_cons, ih, spelling_token, substitute]
    exact unmatched
  | case3 => rfl

theorem filterMap_shift?_tokens (items : List Item) (chosen : List Argument) :
    (tokens items chosen).filterMap Code.Token.shift? = items.filterMap Item.shift? := by
  fun_induction tokens items chosen with
  | case1 digits kind items argument chosen ih =>
    rw [List.filterMap_cons_none (kind.shift?_token argument), ih]
    rfl
  | case2 item items chosen unmatched ih =>
    rw [List.filterMap_cons, List.filterMap_cons, shift?_token, ih]
  | case3 => rfl

theorem filterMap_type?_tokens (items : List Item) (chosen : List Argument) :
    (tokens items chosen).filterMap Code.Token.type? = references items chosen := by
  fun_induction tokens items chosen with
  | case1 digits kind items argument chosen ih =>
    rw [List.filterMap_cons, ih, kind.type?_token, references, references, slots_cons_slot,
      List.zip_cons_cons, List.filterMap_cons]
  | case2 item items chosen unmatched ih =>
    rw [List.filterMap_cons_none (type?_token item), ih, references, references]
    cases plain : item.slot? with
    | none => rw [slots_cons_plain plain]
    | some slot =>
      obtain rfl := eq_slot_of_slot? plain
      cases chosen with
      | nil => rw [List.zip_nil_right, List.zip_nil_right]
      | cons argument chosen => exact (unmatched _ _ _ _ rfl rfl).elim
  | case3 => rfl

end Template

namespace Code

/-- A template is accepted exactly if it is a sequence of items whose slots denote arguments, all of
them; no list of arguments is longer than the greatest position. The block then is the template with
its placeholders replaced, in as few tokens as possible. -/
theorem templates_mean_their_placeholders (template : String) (arguments : List Argument)
    (fits : arguments.length ≤ Template.maxPosition) :
    ((∃ code, ofTemplate template arguments = .ok code) ↔
      ∃ items chosen, Template.Reading template.toList arguments items chosen) ∧
    ∀ code items chosen, ofTemplate template arguments = .ok code →
      Template.Reading template.toList arguments items chosen →
      .text "" ∉ code.tokens ∧
      (code.tokens.IsChain fun a b => ¬(a.IsText ∧ b.IsText)) ∧
      code.tokens.filterMap Token.shift? = items.filterMap Template.Item.shift? ∧
      code.types = Template.references items chosen ∧
      String.join (code.tokens.map Token.spelling) = Template.substitute items chosen := by
  have made {items : List Template.Item} {chosen : List Argument}
      (reading : Template.Reading template.toList arguments items chosen) :
      ofTemplate template arguments = .ok ⟨Token.merge (Template.tokens items chosen)⟩ := by
    rw [ofTemplate, reading.parse_eq fits]
  refine ⟨⟨?_, ?_⟩, ?_⟩
  · rintro ⟨code, ok⟩
    cases parsed : Template.parse template.toList arguments with
    | error fault => simp [ofTemplate, parsed] at ok
    | ok tokens => exact Template.exists_reading parsed
  · rintro ⟨items, chosen, reading⟩
    exact ⟨_, made reading⟩
  · intro code items chosen ok reading
    obtain rfl := Except.ok.inj ((made reading).symm.trans ok)
    refine ⟨Token.text_empty_not_mem_merge _, Token.isChain_merge _, ?_, ?_, ?_⟩
    · rw [Token.filterMap_merge (fun _ => rfl), Template.filterMap_shift?_tokens]
    · rw [types, Token.filterMap_merge (fun _ => rfl), Template.filterMap_type?_tokens]
    · rw [Token.join_spelling_merge, Template.join_spelling_tokens]

theorem swapped_arguments_are_filled :
    let arguments : List Argument := [.literal "a\"", .type (.primitive .int)]
    arguments.length ≤ Template.maxPosition ∧
      ∃ code, ofTemplate "$2T $$x$1S$>;" arguments = .ok code ∧
        code.types = [.primitive .int] ∧
        String.join (code.tokens.map Token.spelling) = "int $x\"a\\\"\";" := by
  intro arguments
  have fits : arguments.length ≤ Template.maxPosition := by decide
  have reading : Template.Reading "$2T $$x$1S$>;".toList arguments
      [.slot ['2'] .type, .char ' ', .dollar, .char 'x', .slot ['1'] .string, .indent, .char ';']
      [.type (.primitive .int), .literal "a\""] := by
    refine ⟨by decide, by simp [Template.Item.WellFormed], ⟨[2, 1], ?_, ?_, ?_, ?_⟩, ?_⟩
    · exact Template.numbered_iff.mpr (.inr ⟨by decide, by decide⟩)
    · decide
    · exact .cons rfl (.cons rfl .nil)
    · decide
    · exact .cons (fun _ => ⟨_, rfl⟩) (.cons nofun .nil)
  have meaning := templates_mean_their_placeholders "$2T $$x$1S$>;" arguments fits
  obtain ⟨code, ok⟩ := meaning.1.mpr ⟨_, _, reading⟩
  obtain ⟨-, -, -, types, text⟩ := meaning.2 code _ _ ok reading
  exact ⟨fits, code, ok, types.trans (by decide), text.trans (by decide +kernel)⟩

end Code

end ClassCompiler
