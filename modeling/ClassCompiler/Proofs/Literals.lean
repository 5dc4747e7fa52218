import ClassCompiler.Proofs.Indentation
import ClassCompiler.Proofs.TemplateFilling

/-! String literals. A literal is read back to its text, whatever follows it, and stays on one line.
So it stands unaltered in the text of every block that a template has put it into. -/

namespace ClassCompiler

namespace Code

/-! ### Reading literals back -/

theorem unescape?_plain {c : Char} (plain : escapeLetter? c = none) (rest : List Char) :
    unescape? (c :: rest) = (fun found => (c :: found.1, found.2)) <$> unescape? rest := by
  have quoteless : c ≠ '"' := by
    rintro rfl
    cases plain
  have unescaped : c ≠ '\\' := by
    rintro rfl
    cases plain
  rw [unescape?]
  · cases unescape? rest <;> rfl
  · exact quoteless
  · exact fun same => absurd same unescaped
  · exact fun _ _ same => absurd same unescaped

theorem unescape?_escaped {c letter : Char} (escaped : escapeLetter? c = some letter)
    (rest : List Char) :
    unescape? ('\\' :: letter :: rest) =
      (fun found => (c :: found.1, found.2)) <$> unescape? rest := by
  rw [unescape?, unescapeLetter?_of_escapeLetter? escaped]
  cases unescape? rest <;> rfl

/-- Escaped text ends at the first quote that follows it. -/
theorem unescape?_escape (letters rest : List Char) :
    unescape? (escape letters ++ '"' :: rest) = some (letters, rest) := by
  induction letters with
  | nil => rfl
  | cons c letters ih =>
    cases escaped : escapeLetter? c with
    | some letter =>
      rw [escape_cons_escaped escaped, List.cons_append, List.cons_append,
        unescape?_escaped escaped, ih]
      rfl
    | none =>
      rw [escape_cons_plain escaped, List.cons_append, unescape?_plain escaped, ih]
      rfl

theorem unquote?_quoted (letters rest : List Char) :
    unquote? (quoted letters ++ rest) = some (letters, rest) := by
  rw [quoted, List.cons_append, List.append_assoc, List.singleton_append]
  exact unescape?_escape letters rest

theorem not_mem_escape {c letter : Char} (escaped : escapeLetter? c = some letter)
    (backslash : c ≠ '\\') (other : ∀ d, escapeLetter? d ≠ some c) (letters : List Char) :
    c ∉ escape letters := by
  induction letters with
  | nil => exact List.not_mem_nil
  | cons d letters ih =>
    cases found : escapeLetter? d with
    | some e =>
      rw [escape_cons_escaped found]
      simp only [List.mem_cons, not_or]
      exact ⟨backslash, fun same => other d (same ▸ found), ih⟩
    | none =>
      rw [escape_cons_plain found, List.mem_cons, not_or]
      refine ⟨?_, ih⟩
      rintro rfl
      rw [escaped] at found
      cases found

theorem escapeLetter?_ne {c : Char} (apart : c ∉ ['"', '\\', 'n', 'r', 't']) (d : Char) :
    escapeLetter? d ≠ some c := by
  intro found
  unfold escapeLetter? at found
  split at found <;> cases found <;> simp at apart

theorem not_mem_quoted {c letter : Char} (escaped : escapeLetter? c = some letter)
    (apart : c ∉ ['"', '\\', 'n', 'r', 't']) (letters : List Char) : c ∉ quoted letters := by
  have inside : c ∉ escape letters :=
    not_mem_escape escaped (by rintro rfl; simp at apart) (escapeLetter?_ne apart) letters
  have quoteless : c ≠ '"' := by
    rintro rfl
    simp at apart
  simp [quoted, inside, quoteless]

theorem newline_not_mem_quoted (letters : List Char) : '\n' ∉ quoted letters :=
  not_mem_quoted (rfl : escapeLetter? '\n' = some 'n') (by decide) letters

theorem return_not_mem_quoted (letters : List Char) : '\r' ∉ quoted letters :=
  not_mem_quoted (rfl : escapeLetter? '\r' = some 'r') (by decide) letters

/-! ### Text within a line -/

theorem layout_line {text : List Char} (inLine : '\n' ∉ text) (level : Nat) (rest : List Glyph) :
    layout level false (text.map .char ++ rest) = text ++ layout level false rest := by
  induction text with
  | nil => rfl
  | cons c text ih =>
    rw [List.mem_cons, not_or] at inLine
    rw [List.map_cons, List.cons_append, layout_inside (Ne.symm inLine.1), ih inLine.2]
    rfl

/-- A literal keeps its characters together: a margin can only stand before it. -/
theorem layout_quoted (level : Nat) (fresh : Bool) (letters : List Char) (rest : List Glyph) :
    layout level fresh ((quoted letters).map .char ++ rest) =
      (if fresh then margin level else []) ++ quoted letters ++ layout level false rest := by
  have inLine := newline_not_mem_quoted letters
  rw [quoted, List.mem_cons, not_or] at inLine
  have goesOn := layout_line inLine.2 level rest
  have quote : '"' ≠ '\n' := by decide
  rw [quoted, List.map_cons, List.cons_append]
  cases fresh with
  | true =>
    rw [layout_fresh quote, goesOn, if_pos rfl]
    simp
  | false =>
    rw [layout_inside quote, goesOn]
    rfl

/-! ### Blocks and their literals -/

/-- A part of a block: a string literal, by the text that it quotes, or another token. -/
inductive Part
  | literal (text : String)
  | token (token : Token)

def Part.toToken : Part → Token
  | literal text => .text (quote text)
  | token t => t

end Code

namespace Template

def Slot.part : Slot → Argument → Code.Part
  | string, argument => .literal argument.text
  | kind, argument => .token (kind.token argument)

def parts : List Item → List Argument → List Code.Part
  | .slot _ kind :: items, argument :: chosen => kind.part argument :: parts items chosen
  | item :: items, chosen => .token item.token :: parts items chosen
  | [], _ => []

theorem Slot.toToken_part (kind : Slot) (argument : Argument) :
    (kind.part argument).toToken = kind.token argument := by
  cases kind <;> cases argument <;> rfl

theorem map_toToken_parts (items : List Item) (chosen : List Argument) :
    (parts items chosen).map Code.Part.toToken = tokens items chosen := by
  fun_induction parts items chosen with
  | case1 digits kind items argument chosen ih =>
    rw [List.map_cons, Slot.toToken_part, ih, tokens]
  | case2 item items chosen unmatched ih =>
    rw [List.map_cons, ih, tokens]
    · rfl
    · exact unmatched
  | case3 => rfl

end Template

namespace Code
open Text

/-- The blocks that a builder makes, with their parts. It adds templates, statements, blocks that
have been built before, and shifts; a template that is refused leaves the block as it is. -/
inductive Built : Code → List Part → Prop
  | empty : Built .empty []
  | template {code more : Code} {parts : List Part} {template : String} {arguments : List Argument}
      {items : List Template.Item} {chosen : List Argument} (built : Built code parts)
      (filled : ofTemplate template arguments = .ok more)
      (reading : Template.Reading template.toList arguments items chosen) :
      Built (code ++ more) (parts ++ Template.parts items chosen)
  | statement {code more : Code} {parts : List Part} {template : String} {arguments : List Argument}
      {items : List Template.Item} {chosen : List Argument} (built : Built code parts)
      (filled : Code.statement template arguments = .ok more)
      (reading : Template.Reading template.toList arguments items chosen) :
      Built (code ++ more) (parts ++ Template.parts items chosen ++ [.token (.text ";\n")])
  | block {code more : Code} {parts others : List Part} (built : Built code parts)
      (other : Built more others) : Built (code ++ more) (parts ++ others)
  | indent {code : Code} {parts : List Part} (built : Built code parts) :
      Built (code ++ Code.indent) (parts ++ [.token .indent])
  | unindent {code : Code} {parts : List Part} (built : Built code parts) :
      Built (code ++ Code.unindent) (parts ++ [.token .unindent])

def ofParts (parts : List Part) : Code := { tokens := parts.map Part.toToken }

theorem glyphs_ofParts_append (parts others : List Part) :
    (ofParts (parts ++ others)).glyphs = (ofParts parts).glyphs ++ (ofParts others).glyphs := by
  simp [ofParts, glyphs]

theorem parse_of_ofTemplate {template : String} {arguments : List Argument} {code : Code}
    (filled : ofTemplate template arguments = .ok code) :
    Template.parse template.toList arguments = .ok code.tokens := by
  unfold ofTemplate at filled
  cases parsed : Template.parse template.toList arguments with
  | error fault =>
    rw [parsed] at filled
    cases filled
  | ok tokens =>
    rw [parsed] at filled
    cases filled
    rfl

theorem glyphs_ofTemplate {template : String} {arguments : List Argument} {code : Code}
    {items : List Template.Item} {chosen : List Argument}
    (filled : ofTemplate template arguments = .ok code)
    (reading : Template.Reading template.toList arguments items chosen) :
    code.glyphs = (ofParts (Template.parts items chosen)).glyphs := by
  have made := reading.made (parse_of_ofTemplate filled)
  rw [glyphs, made, ofParts, Template.map_toToken_parts]
  exact glyphs_merge _

theorem exists_of_statement {template : String} {arguments : List Argument} {code : Code}
    (filled : Code.statement template arguments = .ok code) :
    ∃ inner, ofTemplate template arguments = .ok inner ∧ code = inner ++ statementEnd := by
  unfold Code.statement at filled
  cases made : ofTemplate template arguments with
  | error error =>
    rw [made] at filled
    cases filled
  | ok inner =>
    rw [made] at filled
    cases filled
    exact ⟨inner, rfl, rfl⟩

theorem Built.exists_template {code more : Code} {parts : List Part} {template : String}
    {arguments : List Argument} (built : Built code parts)
    (filled : ofTemplate template arguments = .ok more) :
    ∃ items chosen, Template.Reading template.toList arguments items chosen ∧
      Built (code ++ more) (parts ++ Template.parts items chosen) := by
  obtain ⟨items, chosen, reading⟩ := Template.exists_reading (parse_of_ofTemplate filled)
  exact ⟨items, chosen, reading, built.template filled reading⟩

theorem Built.exists_statement {code more : Code} {parts : List Part} {template : String}
    {arguments : List Argument} (built : Built code parts)
    (filled : Code.statement template arguments = .ok more) :
    ∃ items chosen, Template.Reading template.toList arguments items chosen ∧
      Built (code ++ more) (parts ++ Template.parts items chosen ++ [.token (.text ";\n")]) := by
  obtain ⟨inner, made, -⟩ := exists_of_statement filled
  obtain ⟨items, chosen, reading⟩ := Template.exists_reading (parse_of_ofTemplate made)
  exact ⟨items, chosen, reading, built.statement filled reading⟩

theorem Built.glyphs {code : Code} {parts : List Part} (built : Built code parts) :
    code.glyphs = (ofParts parts).glyphs := by
  induction built with
  | empty => rfl
  | template built filled reading ih =>
    rw [glyphs_append, glyphs_ofParts_append, ih, glyphs_ofTemplate filled reading]
  | statement built filled reading ih =>
    obtain ⟨inner, made, rfl⟩ := exists_of_statement filled
    rw [glyphs_append, glyphs_append, glyphs_ofParts_append, glyphs_ofParts_append, ih,
      glyphs_ofTemplate made reading, List.append_assoc]
    rfl
  | block built other ih ihOther => rw [glyphs_append, glyphs_ofParts_append, ih, ihOther]
  | indent built ih => rw [glyphs_append, glyphs_ofParts_append, ih]; rfl
  | unindent built ih => rw [glyphs_append, glyphs_ofParts_append, ih]; rfl

theorem Built.plain {code : Code} {parts : List Part} (built : Built code parts) :
    plain code.tokens = plain (ofParts parts).tokens := by
  apply String.toList_injective
  rw [← letters_glyphs, ← letters_glyphs]
  exact congrArg letters built.glyphs

theorem Built.render {code : Code} {parts : List Part} (built : Built code parts) :
    code.render = (ofParts parts).render := by
  rw [Code.render, built.glyphs, Code.render]

theorem glyphs_literal (before : List Part) (text : String) (after : List Part) :
    (ofParts (before ++ .literal text :: after)).glyphs =
      (ofParts before).glyphs ++ ((quoted text.toList).map .char ++ (ofParts after).glyphs) := by
  have split : before ++ .literal text :: after = before ++ ([.literal text] ++ after) := rfl
  have literal : (ofParts [.literal text]).glyphs = (quoted text.toList).map .char := by
    rw [← toList_quote]
    exact List.append_nil _
  rw [split, glyphs_ofParts_append, glyphs_ofParts_append, literal]

theorem plain_literal (before : List Part) (text : String) (after : List Part) :
    plain (ofParts (before ++ .literal text :: after)).tokens =
      plain (ofParts before).tokens ++ quote text ++ plain (ofParts after).tokens := by
  rw [ofParts, List.map_append, List.map_cons, plain_append, plain_cons, ← String.append_assoc]
  rfl

theorem render_literal (before : List Part) (text : String) (after : List Part) :
    ∃ gap rest, (gap = [] ∨ gap = margin (levelAfter (ofParts before).tokens)) ∧
      (ofParts (before ++ .literal text :: after)).render =
        (ofParts before).render ++ String.ofList gap ++ quote text ++ rest := by
  have level : (ofParts before).glyphs.foldl Glyph.level 0 = levelAfter (ofParts before).tokens :=
    level_glyphs 0 _
  have laidOut := toList_render (ofParts (before ++ .literal text :: after))
  rw [glyphs_literal, layout_append, layout_quoted, level] at laidOut
  let gap := if (ofParts before).glyphs.foldl Glyph.fresh true
    then margin (levelAfter (ofParts before).tokens) else []
  let rest := layout (levelAfter (ofParts before).tokens) false (ofParts after).glyphs
  refine ⟨gap, String.ofList rest, ?_, ?_⟩
  · by_cases fresh : (ofParts before).glyphs.foldl Glyph.fresh true
    · exact .inr (if_pos fresh)
    · exact .inl (if_neg fresh)
  · apply String.toList_injective
    rw [laidOut, String.toList_append, String.toList_append, String.toList_append,
      String.toList_ofList, String.toList_ofList, toList_quote, toList_render, List.append_assoc,
      List.append_assoc, List.append_assoc]

/-- Literals are read back to their texts, whatever follows them, and have no line ends. Whatever
templates and statements are added, the block that a builder makes has parts, the arguments of
string slots among them as literals; and each literal stands unaltered behind the rendering of what
comes before it and at most the margin of its line. -/
theorem string_literals_survive :
    (∀ value rest : String,
      unquote? (quote value ++ rest).toList = some (value.toList, rest.toList)) ∧
    (∀ value : String, '\n' ∉ (quote value).toList ∧ '\r' ∉ (quote value).toList) ∧
    ∀ code parts, Built code parts →
      (∀ template arguments more, ofTemplate template arguments = .ok more →
        ∃ items chosen, Template.Reading template.toList arguments items chosen ∧
          Built (code ++ more) (parts ++ Template.parts items chosen)) ∧
      (∀ template arguments more, Code.statement template arguments = .ok more →
        ∃ items chosen, Template.Reading template.toList arguments items chosen ∧
          Built (code ++ more) (parts ++ Template.parts items chosen ++ [.token (.text ";\n")])) ∧
      ∀ before text after, parts = before ++ .literal text :: after →
        plain code.tokens =
          plain (ofParts before).tokens ++ quote text ++ plain (ofParts after).tokens ∧
        ∃ gap rest,
          (gap = [] ∨ gap = List.replicate (4 * levelAfter (ofParts before).tokens) ' ') ∧
          code.render = (ofParts before).render ++ String.ofList gap ++ quote text ++ rest := by
  refine ⟨?_, ?_, ?_⟩
  · intro value rest
    rw [String.toList_append, toList_quote]
    exact unquote?_quoted value.toList rest.toList
  · intro value
    rw [toList_quote]
    exact ⟨newline_not_mem_quoted _, return_not_mem_quoted _⟩
  · intro code parts built
    refine ⟨fun _ _ _ => built.exists_template, fun _ _ _ => built.exists_statement, ?_⟩
    rintro before text after rfl
    rw [built.plain, built.render]
    exact ⟨plain_literal before text after, render_literal before text after⟩

theorem greeting_survives :
    let greeting := "say \"hi\"\n"
    ∃ code, Built code [.token .indent, .literal greeting, .token (.text ";\n")] ∧
      unquote? (quote greeting ++ ";\n").toList = some (greeting.toList, ";\n".toList) ∧
      ∃ gap rest, (gap = [] ∨ gap = [' ', ' ', ' ', ' ']) ∧
        code.render = String.ofList gap ++ "\"say \\\"hi\\\"\\n\"" ++ rest := by
  intro greeting
  have takes : Template.Slot.string.Takes (.literal greeting) := by
    intro same
    cases same
  have reading : Template.Reading "$S".toList [.literal greeting] [.slot [] .string]
      [.literal greeting] := by
    refine ⟨rfl, by simp [Template.Item.WellFormed], ⟨[1], ?_, by simp, ?_, by simp⟩, ?_⟩
    · exact .inTurn (by simp [Template.slots, Template.Item.slot?])
    · exact .cons rfl .nil
    · exact .cons takes .nil
  have filled : Code.statement "$S" [.literal greeting] =
      .ok ({ tokens := [.text (quote greeting)] } ++ statementEnd) := by
    rw [Code.statement, ofTemplate_quoted]
    rfl
  have built : Built _ [.token .indent, .literal greeting, .token (.text ";\n")] :=
    .statement (.indent .empty) filled reading
  obtain ⟨reads, -, survives⟩ := string_literals_survive
  obtain ⟨-, -, stand⟩ := survives _ _ built
  obtain ⟨-, gap, rest, blank, rendered⟩ :=
    stand [.token .indent] greeting [.token (.text ";\n")] rfl
  have before : (ofParts [.token .indent]).render = "" := by decide
  have margin : List.replicate (4 * levelAfter (ofParts [.token .indent]).tokens) ' ' =
      [' ', ' ', ' ', ' '] := by
    decide
  have literal : quote greeting = "\"say \\\"hi\\\"\\n\"" := by decide +kernel
  rw [margin] at blank
  refine ⟨_, built, reads greeting ";\n", gap, rest, blank, ?_⟩
  rw [rendered, before, String.empty_append, literal]

end Code

end ClassCompiler
