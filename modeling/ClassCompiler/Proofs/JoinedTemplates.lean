import ClassCompiler.Proofs.Literals

/-! Templates that follow each other. Where slots take their arguments in turn, two templates can be
joined, with their arguments: the block is that of the first and then that of the second. -/

namespace ClassCompiler

namespace Code.Token

/-- What a token is merged with is all that matters of the tokens behind it. -/
theorem merge_cons_congr {rest more : List Token} (same : merge rest = merge more) (token : Token) :
    merge (token :: rest) = merge (token :: more) := by
  cases token <;> simp only [merge, same]

theorem merge_text_before {rest more : List Token} {t : String} (merged : merge rest = text t :: more)
    (s : String) : merge (text s :: rest) = text (s ++ t) :: more := by
  rw [merge, merged]

theorem merge_text_alone {rest : List Token} (alone : ∀ t more, merge rest ≠ text t :: more)
    (s : String) : merge (text s :: rest) = if s = "" then merge rest else text s :: merge rest := by
  rw [merge]
  split
  next t more merged => exact absurd merged (alone t more)
  next => rfl

theorem merge_text_empty (rest : List Token) : merge (text "" :: rest) = merge rest := by
  by_cases before : ∃ t more, merge rest = text t :: more
  · obtain ⟨t, more, merged⟩ := before
    rw [merge_text_before merged, merged, String.empty_append]
  · rw [merge_text_alone fun t more merged => before ⟨t, more, merged⟩, if_pos rfl]

theorem merge_text_text (s t : String) (rest : List Token) :
    merge (text s :: text t :: rest) = merge (text (s ++ t) :: rest) := by
  by_cases before : ∃ u more, merge rest = text u :: more
  · obtain ⟨u, more, merged⟩ := before
    rw [merge_text_before (merge_text_before merged t), merge_text_before merged,
      String.append_assoc]
  · have alone : ∀ u more, merge rest ≠ text u :: more := fun u more merged => before ⟨u, more, merged⟩
    by_cases empty : t = ""
    · subst empty
      rw [merge_cons_congr (merge_text_empty rest), String.append_empty]
    · have second : merge (text t :: rest) = text t :: merge rest := by
        rw [merge_text_alone alone, if_neg empty]
      have whole : s ++ t ≠ "" := fun none => empty (String.append_eq_empty_iff.mp none).2
      rw [merge_text_before second, merge_text_alone alone, if_neg whole]

theorem merge_append_congr {rest more : List Token} (same : merge rest = merge more)
    (tokens : List Token) : merge (tokens ++ rest) = merge (tokens ++ more) := by
  induction tokens with
  | nil => exact same
  | cons token tokens ih => exact merge_cons_congr ih token

theorem merge_merge_append (tokens more : List Token) :
    merge (merge tokens ++ more) = merge (tokens ++ more) := by
  fun_induction merge tokens with
  | case1 => rfl
  | case2 s rest t others merged ih =>
    rw [merged] at ih
    calc merge (text (s ++ t) :: (others ++ more))
        = merge (text s :: text t :: (others ++ more)) := (merge_text_text s t _).symm
      _ = merge (text s :: (rest ++ more)) := merge_cons_congr ih _
  | case3 rest alone ih => exact ih.trans (merge_text_empty (rest ++ more)).symm
  | case4 s rest some alone ih => exact merge_cons_congr ih _
  | case5 token rest mark ih => exact merge_cons_congr ih token

theorem merge_merge (tokens : List Token) : merge (merge tokens) = merge tokens := by
  have whole := merge_merge_append tokens []
  rwa [List.append_nil, List.append_nil] at whole

theorem merge_append_merge (tokens more : List Token) :
    merge (merge tokens ++ merge more) = merge (tokens ++ more) :=
  (merge_merge_append tokens _).trans (merge_append_congr (merge_merge more) tokens)

end Code.Token

namespace Template
open Text

def InTurn (template : List Char) : Prop := ∀ kind position, .slot kind (some position) ∉ pieces template

theorem tokens_append {items : List Item} {chosen : List Argument}
    (filled : (slots items).length = chosen.length) (more : List Item) (others : List Argument) :
    tokens (items ++ more) (chosen ++ others) = tokens items chosen ++ tokens more others := by
  induction items generalizing chosen with
  | nil =>
    rw [List.eq_nil_of_length_eq_zero filled.symm]
    rfl
  | cons item items ih =>
    cases plain : item.slot? with
    | none =>
      rw [slots_cons_plain plain] at filled
      rw [List.cons_append, tokens_cons_plain plain, tokens_cons_plain plain, ih filled,
        List.cons_append]
    | some slot =>
      obtain rfl := eq_slot_of_slot? plain
      cases chosen with
      | nil => cases filled
      | cons argument chosen =>
        rw [List.cons_append, List.cons_append, tokens, tokens, ih (Nat.succ.inj filled),
          List.cons_append]

section

variable {template other : List Char} {arguments others : List Argument} {items more : List Item}
  {chosen : List Argument}

theorem Numbered.eq_range' {slots : List (List Char × Slot)} {numbers : List Nat}
    (numbered : Numbered slots numbers) (bare : ∀ slot ∈ slots, slot.1 = []) :
    numbers = List.range' 1 slots.length := by
  cases numbered with
  | inTurn => rfl
  | byPosition placed =>
    cases slots with
    | nil => rfl
    | cons slot slots => exact absurd (bare slot List.mem_cons_self) (placed slot List.mem_cons_self)

theorem eq_take_of_denoted {count : Nat}
    (denoted : List.Forall₂ (fun number argument => arguments[number - 1]? = some argument)
      (List.range' 1 count) chosen) : chosen = arguments.take count := by
  have length : chosen.length = count := by rw [← denoted.length_eq, List.length_range']
  have here := (List.forall₂_iff_get.mp denoted).2
  apply List.ext_getElem?
  intro index
  by_cases inside : index < count
  · have within : index < chosen.length := by omega
    have found := here index (by rwa [List.length_range']) within
    simp only [List.get_eq_getElem, List.getElem_range', Nat.one_mul,
      Nat.add_sub_cancel_left] at found
    rw [List.getElem?_eq_getElem within, List.getElem?_take_of_lt inside, found]
  · rw [List.getElem?_eq_none (by omega), List.getElem?_take_eq_none (by omega)]

/-- Without positions, the slots denote all of the arguments, in their order. -/
theorem reading_iff_of_bare (bare : ∀ slot ∈ slots items, slot.1 = []) :
    Reading template arguments items chosen ↔ template = items.flatMap Item.text ∧
      (∀ item ∈ items, item.WellFormed) ∧ chosen = arguments ∧
      List.Forall₂ (fun slot argument => slot.2.Takes argument) (slots items) arguments := by
  constructor
  · rintro ⟨spelled, wellFormed, ⟨numbers, numbered, -, denoted, complete⟩, taken⟩
    obtain rfl := numbered.eq_range' bare
    have count : arguments.length ≤ (slots items).length := by
      by_contra fewer
      have last := complete (slots items).length (by omega)
      rw [List.mem_range'_1] at last
      omega
    have whole := eq_take_of_denoted denoted
    rw [List.take_of_length_le count] at whole
    subst whole
    exact ⟨spelled, wellFormed, rfl, taken⟩
  · rintro ⟨spelled, wellFormed, rfl, taken⟩
    have count := taken.length_eq
    refine ⟨spelled, wellFormed, ⟨_, .inTurn bare, ?_, ?_, ?_⟩, taken⟩
    · intro number member
      exact (List.mem_range'_1.mp member).1
    · rw [List.forall₂_iff_get]
      refine ⟨by rw [List.length_range', count], fun index inside inside' => ?_⟩
      simp only [List.get_eq_getElem, List.getElem_range', Nat.one_mul, Nat.add_sub_cancel_left]
      exact List.getElem?_eq_getElem inside'
    · intro index inside
      rw [List.mem_range'_1]
      omega

theorem Reading.append (first : Reading template arguments items arguments)
    (second : Reading other others more others) (bare : ∀ slot ∈ slots items, slot.1 = [])
    (bare' : ∀ slot ∈ slots more, slot.1 = []) :
    Reading (template ++ other) (arguments ++ others) (items ++ more) (arguments ++ others) := by
  have both : ∀ slot ∈ slots (items ++ more), slot.1 = [] := by
    rw [slots_append]
    exact List.forall_mem_append.mpr ⟨bare, bare'⟩
  refine (reading_iff_of_bare both).mpr ⟨?_, ?_, rfl, ?_⟩
  · rw [first.spelled, second.spelled, List.flatMap_append]
  · exact List.forall_mem_append.mpr ⟨first.wellFormed, second.wellFormed⟩
  · rw [slots_append]
    exact List.rel_append first.taken second.taken

theorem exists_bare_reading (inTurn : InTurn template) {made : List Code.Token}
    (ok : parse template arguments = .ok made) :
    ∃ items, Reading template arguments items arguments ∧ (∀ slot ∈ slots items, slot.1 = []) ∧
      made = Code.Token.merge (tokens items arguments) := by
  obtain ⟨items, chosen, reading⟩ := exists_reading ok
  obtain ⟨_, filled, -⟩ := exists_fill ok
  have clean := fault_not_mem_of_fill filled
  have bare : ∀ slot ∈ slots items, slot.1 = [] := by
    rw [reading.spelled] at clean
    have inRange := inRange_of_clean reading.wellFormed clean
    rintro ⟨digits, kind⟩ member
    by_contra placed
    obtain ⟨item, inside, slotted⟩ := List.mem_filterMap.mp member
    obtain rfl := eq_slot_of_slot? slotted
    have piece : Item.piece (.slot digits kind) ∈ pieces template := by
      rw [reading.spelled, pieces_flatMap_text reading.wellFormed inRange]
      exact List.mem_map_of_mem inside
    rw [Item.piece, position?, if_neg placed] at piece
    exact inTurn _ _ piece
  obtain ⟨-, -, rfl, -⟩ := (reading_iff_of_bare bare).mp reading
  exact ⟨items, reading, bare, reading.made ok⟩

theorem parse_append {made more : List Code.Token} (inTurn : InTurn template)
    (inTurn' : InTurn other) (ok : parse template arguments = .ok made)
    (ok' : parse other others = .ok more) :
    parse (template ++ other) (arguments ++ others) = .ok (Code.Token.merge (made ++ more)) := by
  obtain ⟨items, reading, bare, rfl⟩ := exists_bare_reading inTurn ok
  obtain ⟨later, reading', bare', rfl⟩ := exists_bare_reading inTurn' ok'
  have inRange : ∀ slot ∈ slots (items ++ later), InRange slot.1 := by
    rw [slots_append]
    exact List.forall_mem_append.mpr
      ⟨fun slot member => .inl (bare slot member), fun slot member => .inl (bare' slot member)⟩
  rw [(reading.append reading' bare bare').parse_eq_of_inRange inRange,
    tokens_append reading.taken.length_eq, Code.Token.merge_append_merge]

end

end Template

namespace Code

/-- Two templates whose slots take their arguments in turn can be joined. The block of the joined
template is the first block and then the second, with the texts at the seam in one token. -/
theorem templates_may_be_joined {first second : String} {arguments others : List Argument}
    {code more : Code} (inTurn : Template.InTurn first.toList)
    (inTurn' : Template.InTurn second.toList) (made : ofTemplate first arguments = .ok code)
    (made' : ofTemplate second others = .ok more) :
    ∃ joined, ofTemplate (first ++ second) (arguments ++ others) = .ok joined ∧
      joined.tokens = Token.merge (code ++ more).tokens ∧
      joined.render = (code ++ more).render ∧ joined.types = (code ++ more).types := by
  have parsed := Template.parse_append inTurn inTurn' (parse_of_ofTemplate made)
    (parse_of_ofTemplate made')
  refine ⟨⟨Token.merge (code ++ more).tokens⟩, ?_, rfl, ?_, ?_⟩
  · rw [ofTemplate, String.toList_append, parsed, tokens_append]
  · rw [render, glyphs, glyphs_merge]
    rfl
  · exact Token.filterMap_merge (fun _ => rfl) _

theorem assignment_is_joined :
    let first := "$T $$$N ="
    let second := " $S;"
    let arguments : List Argument := [.type (.primitive .int), .literal "n"]
    let others : List Argument := [.literal "a"]
    ∃ code more joined, ofTemplate first arguments = .ok code ∧
      ofTemplate second others = .ok more ∧
      ofTemplate (first ++ second) (arguments ++ others) = .ok joined ∧
      code.tokens = [.type (.primitive .int), .text " $n ="] ∧
      joined.tokens = [.type (.primitive .int), .text " $n = \"a\";"] ∧
      joined.render = (code ++ more).render ∧ joined.types = [.primitive .int] := by
  intro first second arguments others
  have read : Template.pieces first.toList =
      [.slot .type none, .char ' ', .char '$', .slot .name none, .char ' ', .char '='] := by
    decide
  have read' : Template.pieces second.toList = [.char ' ', .slot .string none, .char ';'] := by
    decide
  have inTurn : Template.InTurn first.toList := by simp [Template.InTurn, read]
  have inTurn' : Template.InTurn second.toList := by simp [Template.InTurn, read']
  have made : ofTemplate first arguments = .ok ⟨[.type (.primitive .int), .text " $n ="]⟩ := by
    rw [ofTemplate, Template.parse, read]
    rfl
  have made' : ofTemplate second others = .ok ⟨[.text " \"a\";"]⟩ := by
    rw [ofTemplate, Template.parse, read']
    rfl
  obtain ⟨joined, ok, tokens, render, types⟩ :=
    templates_may_be_joined inTurn inTurn' made made'
  have seam : Token.merge ([.type (.primitive .int), .text " $n ="] ++ [.text " \"a\";"]) =
      [.type (.primitive .int), .text " $n = \"a\";"] := by
    decide
  exact ⟨_, _, joined, made, made', ok, rfl, tokens.trans seam, render, types⟩

end Code

end ClassCompiler
