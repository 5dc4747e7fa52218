import ClassCompiler.Code.Layout

/-! Rendering goes by lines. A rendered block has the lines of its plain text, and each line that is
not empty stands behind the margin of the level in force at its first character. -/

namespace ClassCompiler

def Text.lines (text : String) : List String := (text.toList.splitOn '\n').map String.ofList

namespace Code
open Text

def plain (tokens : List Token) : String := String.join (tokens.map Token.spelling)

def Token.level (level : Nat) : Token → Nat
  | indent => level + 1
  | unindent => level - 1
  | _ => level

def levelAfter (tokens : List Token) : Nat := tokens.foldl Token.level 0

/-- The offset at which a line starts in the text that the lines make up. -/
def lineStart : List String → Nat → Nat
  | line :: lines, index + 1 => line.length + 1 + lineStart lines index
  | _, _ => 0

theorem lineStart_zero (lines : List String) : lineStart lines 0 = 0 := by
  cases lines <;> rfl

/-- The token behind `before` holds the first character of a line. -/
def Opens (code : Code) (line : Nat) (before : List Token) : Prop :=
  ∃ token after, code.tokens = before ++ token :: after ∧
    (plain before).length ≤ lineStart (lines (plain code.tokens)) line ∧
    lineStart (lines (plain code.tokens)) line < (plain before).length + token.spelling.length

theorem toList_plain (tokens : List Token) :
    (plain tokens).toList = tokens.flatMap (·.spelling.toList) := by
  simp [plain, String.toList_join, List.flatMap_map]

theorem plain_cons (token : Token) (tokens : List Token) :
    plain (token :: tokens) = token.spelling ++ plain tokens := String.join_cons

theorem plain_append (before after : List Token) :
    plain (before ++ after) = plain before ++ plain after := by
  apply String.toList_injective
  simp [toList_plain]

/-! ### Glyphs -/

namespace Glyph

def char? : Glyph → Option Char
  | char c => some c
  | _ => none

def level (level : Nat) : Glyph → Nat
  | char _ => level
  | indent => level + 1
  | unindent => level - 1

def fresh (fresh : Bool) : Glyph → Bool
  | char c => c = '\n'
  | _ => fresh

end Glyph

def letters (glyphs : List Glyph) : List Char := glyphs.filterMap Glyph.char?

theorem letters_append (before after : List Glyph) :
    letters (before ++ after) = letters before ++ letters after := List.filterMap_append

theorem letters_chars (text : List Char) : letters (text.map .char) = text := by
  induction text with
  | nil => rfl
  | cons c text ih => simp_all [letters, Glyph.char?]

theorem letters_glyphs (tokens : List Token) :
    letters (tokens.flatMap Token.glyphs) = (plain tokens).toList := by
  rw [toList_plain, letters, List.filterMap_flatMap]
  congr 1
  funext token
  cases token with
  | text s => exact letters_chars s.toList
  | type t => exact letters_chars t.text.toList
  | _ => rfl

theorem level_chars (level : Nat) (text : List Char) :
    (text.map Glyph.char).foldl Glyph.level level = level := by
  induction text with
  | nil => rfl
  | cons c text ih => exact ih

theorem level_glyphs (level : Nat) (tokens : List Token) :
    (tokens.flatMap Token.glyphs).foldl Glyph.level level = tokens.foldl Token.level level := by
  induction tokens generalizing level with
  | nil => rfl
  | cons token tokens ih =>
    rw [List.flatMap_cons, List.foldl_append, List.foldl_cons, ih]
    cases token with
    | text s => rw [Token.glyphs, level_chars, Token.level] <;> nofun
    | type t => rw [Token.glyphs, level_chars, Token.level] <;> nofun
    | _ => rfl

/-- What comes later is laid out from the level and the place in the line that come before it. -/
theorem layout_append (level : Nat) (fresh : Bool) (before after : List Glyph) :
    layout level fresh (before ++ after) = layout level fresh before ++
      layout (before.foldl Glyph.level level) (before.foldl Glyph.fresh fresh) after := by
  induction before generalizing level fresh with
  | nil => rfl
  | cons glyph before ih =>
    rw [List.cons_append, List.foldl_cons, List.foldl_cons]
    cases glyph with
    | indent => exact ih (level + 1) fresh
    | unindent => exact ih (level - 1) fresh
    | char c =>
      by_cases ended : c = '\n'
      · subst ended
        rw [layout_newline, layout_newline, ih]
        rfl
      · have inside : Glyph.fresh fresh (.char c) = false := by simp [Glyph.fresh, ended]
        cases fresh with
        | true => rw [layout_fresh ended, layout_fresh ended, ih, inside, List.append_assoc]; rfl
        | false => rw [layout_inside ended, layout_inside ended, ih, inside]; rfl

/-! ### Rows -/

/-- A line of glyphs: its characters and the level in force at the first of them. -/
structure Row where
  level : Nat
  letters : List Char

namespace Row

def text (row : Row) : String := String.ofList row.letters

def laid (row : Row) : List Char := if row.letters = [] then [] else margin row.level ++ row.letters

def push (level : Nat) (c : Char) (row : Row) : Row := ⟨level, c :: row.letters⟩

end Row

/-- The rows of glyphs from a level on. -/
def rows (level : Nat) : List Glyph → List Row
  | [] => [⟨level, []⟩]
  | .indent :: rest => rows (level + 1) rest
  | .unindent :: rest => rows (level - 1) rest
  | .char c :: rest =>
    if c = '\n' then ⟨level, []⟩ :: rows level rest
    else (rows level rest).modifyHead (.push level c)

theorem rows_newline (level : Nat) (rest : List Glyph) :
    rows level (.char '\n' :: rest) = ⟨level, []⟩ :: rows level rest := by
  simp [rows]

theorem rows_inside {c : Char} (inLine : c ≠ '\n') (level : Nat) (rest : List Glyph) :
    rows level (.char c :: rest) = (rows level rest).modifyHead (.push level c) := by
  simp [rows, inLine]

theorem exists_rows (level : Nat) (glyphs : List Glyph) :
    ∃ row more, rows level glyphs = row :: more := by
  induction glyphs generalizing level with
  | nil => exact ⟨_, _, rfl⟩
  | cons glyph rest ih =>
    cases glyph with
    | indent => exact ih (level + 1)
    | unindent => exact ih (level - 1)
    | char c =>
      by_cases ended : c = '\n'
      · exact ⟨_, _, ended ▸ rows_newline level rest⟩
      · obtain ⟨row, more, same⟩ := ih level
        exact ⟨row.push level c, more, by rw [rows_inside ended, same, List.modifyHead_cons]⟩

theorem splitOn_letters (level : Nat) (glyphs : List Glyph) :
    (letters glyphs).splitOn '\n' = (rows level glyphs).map Row.letters := by
  induction glyphs generalizing level with
  | nil => rfl
  | cons glyph rest ih =>
    cases glyph with
    | indent => exact ih (level + 1)
    | unindent => exact ih (level - 1)
    | char c =>
      show (c :: letters rest).splitOn '\n' = _
      rw [List.splitOn_cons_eq_if_modifyHead, ih level]
      by_cases ended : c = '\n'
      · subst ended
        rw [rows_newline, if_pos (beq_self_eq_true _), List.map_cons]
      · obtain ⟨row, more, same⟩ := exists_rows level rest
        rw [rows_inside ended, if_neg (by simpa using ended), same]
        rfl

theorem splitOn_append {prior : List Char} (inLine : '\n' ∉ prior) (rest : List Char) :
    (prior ++ rest).splitOn '\n' = (rest.splitOn '\n').modifyHead (prior ++ ·) := by
  induction prior with
  | nil => exact (congrFun List.modifyHead_id _).symm
  | cons c prior ih =>
    rw [List.mem_cons, not_or] at inLine
    rw [List.cons_append, List.splitOn_cons_eq_if_modifyHead, ih inLine.2,
      if_neg (by simpa using Ne.symm inLine.1), List.modifyHead_modifyHead]
    rfl

theorem newline_not_mem_margin (level : Nat) : '\n' ∉ margin level := by
  simp [margin]

/-- Layout puts every row behind its margin. A line that has been begun has its margin already. -/
theorem splitOn_layout {level : Nat} {glyphs : List Glyph} {row : Row} {more : List Row}
    (same : rows level glyphs = row :: more) :
    (layout level true glyphs).splitOn '\n' = row.laid :: more.map Row.laid ∧
      (layout level false glyphs).splitOn '\n' = row.letters :: more.map Row.laid := by
  -- Both layouts at once: a line end leads to the fresh one, any other character to the begun one.
  induction glyphs generalizing level row more with
  | nil =>
    cases same
    exact ⟨rfl, rfl⟩
  | cons glyph rest ih =>
    cases glyph with
    | indent => exact ih same
    | unindent => exact ih same
    | char c =>
      obtain ⟨next, others, later⟩ := exists_rows level rest
      obtain ⟨begun, inside⟩ := ih later
      by_cases ended : c = '\n'
      · subst ended
        rw [rows_newline, later] at same
        cases same
        rw [layout_newline, layout_newline, List.splitOn_cons_eq_if_modifyHead,
          if_pos (beq_self_eq_true _), begun]
        exact ⟨rfl, rfl⟩
      · rw [rows_inside ended, later, List.modifyHead_cons] at same
        obtain ⟨rfl, rfl⟩ := List.cons.inj same
        have goesOn : (c :: layout level false rest).splitOn '\n' =
            (c :: next.letters) :: others.map Row.laid := by
          rw [List.splitOn_cons_eq_if_modifyHead, if_neg (by simpa using ended), inside]
          rfl
        rw [layout_fresh ended, layout_inside ended, splitOn_append (newline_not_mem_margin level),
          goesOn]
        exact ⟨rfl, rfl⟩

theorem lines_render (code : Code) :
    lines code.render = (rows 0 code.glyphs).map (String.ofList ·.laid) := by
  obtain ⟨row, more, same⟩ := exists_rows 0 code.glyphs
  rw [lines, toList_render, (splitOn_layout same).1, same, ← List.map_cons, List.map_map]
  rfl

theorem lines_plain (code : Code) :
    lines (plain code.tokens) = (rows 0 code.glyphs).map Row.text := by
  have spelled : (plain code.tokens).toList = letters code.glyphs :=
    (letters_glyphs code.tokens).symm
  rw [lines, spelled, splitOn_letters 0, List.map_map]
  rfl

/-! ### Levels of rows -/

theorem level_of_row {before after : List Glyph} {c : Char} {level index : Nat}
    (starts : lineStart ((rows level (before ++ .char c :: after)).map Row.text) index =
      (letters before).length) :
    (rows level (before ++ .char c :: after))[index]?.map Row.level =
      some (before.foldl Glyph.level level) := by
  induction before generalizing level index with
  | nil =>
    obtain ⟨row, more, same⟩ := exists_rows level after
    have begins : ∃ row more, rows level (.char c :: after) = row :: more ∧ row.level = level := by
      by_cases ended : c = '\n'
      · exact ⟨_, _, ended ▸ rows_newline level after, rfl⟩
      · exact ⟨_, _, by rw [rows_inside ended, same, List.modifyHead_cons], rfl⟩
    obtain ⟨first, others, same, atLevel⟩ := begins
    rw [List.nil_append, same] at starts ⊢
    cases index with
    | zero => simp [atLevel]
    | succ index => simp [lineStart, letters] at starts
  | cons glyph before ih =>
    cases glyph with
    | indent => exact ih starts
    | unindent => exact ih starts
    | char d =>
      have longer : (letters (.char d :: before)).length = (letters before).length + 1 := rfl
      rw [longer, List.cons_append] at starts
      rw [List.cons_append]
      cases index with
      | zero => simp [lineStart] at starts
      | succ index =>
        -- Behind a line end there is one row less to pass; any other character is in the first row.
        by_cases ended : d = '\n'
        · subst ended
          rw [rows_newline] at starts ⊢
          have earlier : lineStart ((rows level (before ++ .char c :: after)).map Row.text) index =
              (letters before).length := by
            simp [lineStart, Row.text] at starts
            omega
          exact ih earlier
        · obtain ⟨row, more, same⟩ := exists_rows level (before ++ .char c :: after)
          rw [rows_inside ended, same, List.modifyHead_cons] at starts ⊢
          have earlier : lineStart ((rows level (before ++ .char c :: after)).map Row.text)
              (index + 1) = (letters before).length := by
            rw [same]
            simp [lineStart, Row.text, Row.push] at starts ⊢
            omega
          have found := ih earlier
          rw [same] at found
          exact found

theorem lineStart_length (level : Nat) (glyphs : List Glyph) :
    lineStart ((rows level glyphs).map Row.text) (rows level glyphs).length =
      (letters glyphs).length + 1 := by
  induction glyphs generalizing level with
  | nil => rfl
  | cons glyph rest ih =>
    cases glyph with
    | indent => exact ih (level + 1)
    | unindent => exact ih (level - 1)
    | char c =>
      have longer : (letters (.char c :: rest)).length = (letters rest).length + 1 := rfl
      rw [longer, ← ih level]
      by_cases ended : c = '\n'
      · subst ended
        rw [rows_newline, List.map_cons, List.length_cons, lineStart]
        simp [Row.text, Nat.add_comm]
      · obtain ⟨row, more, same⟩ := exists_rows level rest
        rw [rows_inside ended, same, List.modifyHead_cons]
        simp [lineStart, Row.text, Row.push]
        omega

theorem lineStart_add_le {lines : List String} {index : Nat} {line : String}
    (found : lines[index]? = some line) :
    lineStart lines index + (line.length + 1) ≤ lineStart lines lines.length := by
  induction lines generalizing index with
  | nil => simp at found
  | cons first lines ih =>
    rw [List.length_cons, lineStart]
    cases index with
    | zero =>
      obtain rfl := Option.some.inj found
      rw [lineStart_zero]
      omega
    | succ index =>
      have later := ih found
      rw [lineStart]
      omega

/-! ### Lines of a block -/

theorem exists_token {tokens : List Token} {offset : Nat} (inside : offset < (plain tokens).length) :
    ∃ before token after, tokens = before ++ token :: after ∧
      (plain before).length ≤ offset ∧ offset < (plain before).length + token.spelling.length := by
  induction tokens generalizing offset with
  | nil => simp [plain] at inside
  | cons first tokens ih =>
    have whole (others : List Token) :
        (plain (first :: others)).length = first.spelling.length + (plain others).length := by
      rw [plain_cons, String.length_append]
    by_cases early : offset < first.spelling.length
    · exact ⟨[], first, tokens, rfl, Nat.zero_le _, by simpa [plain] using early⟩
    · rw [whole] at inside
      have later : offset - first.spelling.length < (plain tokens).length := by omega
      obtain ⟨before, token, after, rfl, reached, holds⟩ := ih later
      refine ⟨first :: before, token, after, rfl, ?_, ?_⟩
      · rw [whole]
        omega
      · rw [whole]
        omega

theorem exists_opens {code : Code} {index : Nat} {line : String}
    (found : (lines (plain code.tokens))[index]? = some line) (filled : line ≠ "") :
    ∃ before, Opens code index before := by
  have length : 0 < line.length := by
    rw [← String.length_toList]
    exact List.length_pos_iff.mpr fun blank => filled (String.toList_eq_nil_iff.mp blank)
  have fits := lineStart_add_le found
  have whole : lineStart (lines (plain code.tokens)) (lines (plain code.tokens)).length =
      (plain code.tokens).length + 1 := by
    rw [lines_plain, List.length_map, lineStart_length, glyphs, letters_glyphs,
      String.length_toList]
  have starts : lineStart (lines (plain code.tokens)) index < (plain code.tokens).length := by omega
  obtain ⟨before, token, after, parted, reached, holds⟩ := exists_token starts
  exact ⟨before, token, after, parted, reached, holds⟩

theorem glyphs_of_spelling {token : Token} (filled : 0 < token.spelling.length) :
    token.glyphs = token.spelling.toList.map .char := by
  cases token with
  | text s => rfl
  | type t => rfl
  | indent => exact absurd filled (Nat.lt_irrefl 0)
  | unindent => exact absurd filled (Nat.lt_irrefl 0)

theorem level_of_opens {code : Code} {index : Nat} {before : List Token}
    (opens : Opens code index before) :
    (rows 0 code.glyphs)[index]?.map Row.level = some (levelAfter before) := by
  obtain ⟨token, after, parted, reached, holds⟩ := opens
  rw [lines_plain] at reached holds
  have inside : lineStart ((rows 0 code.glyphs).map Row.text) index - (plain before).length <
      token.spelling.toList.length := by
    rw [String.length_toList]
    omega
  -- The line starts inside the spelling of the token, so `front` and `c` part the glyphs there.
  obtain ⟨front, c, back, spelled, reaches⟩ : ∃ front c back,
      token.spelling.toList = front ++ c :: back ∧
        (plain before).length + front.length =
          lineStart ((rows 0 code.glyphs).map Row.text) index := by
    refine ⟨_, _, _, (List.take_append_drop _ _).symm.trans
      (congrArg _ (List.drop_eq_getElem_cons inside)), ?_⟩
    rw [List.length_take]
    omega
  have glyphs : code.glyphs = (before.flatMap Token.glyphs ++ front.map .char) ++
      .char c :: (back.map .char ++ after.flatMap Token.glyphs) := by
    rw [Code.glyphs, parted, List.flatMap_append, List.flatMap_cons,
      glyphs_of_spelling (by omega), spelled]
    simp
  have starts : lineStart ((rows 0 code.glyphs).map Row.text) index =
      (letters (before.flatMap Token.glyphs ++ front.map .char)).length := by
    rw [letters_append, letters_glyphs, letters_chars, List.length_append, String.length_toList,
      reaches]
  rw [glyphs] at starts ⊢
  rw [level_of_row starts, List.foldl_append, level_glyphs, level_chars, levelAfter]

/-- A rendered block has as many lines as its plain text. Empty lines stay empty, and every other
line is the plain one behind four spaces for each level in force at the token that holds its first
character. -/
theorem lines_are_indented (code : Code) :
    (lines code.render).length = (lines (plain code.tokens)).length ∧
    ∀ index line, (lines (plain code.tokens))[index]? = some line →
      (line = "" → (lines code.render)[index]? = some "") ∧
      (line ≠ "" → (∃ before, Opens code index before) ∧
        ∀ before, Opens code index before →
          (lines code.render)[index]? =
            some (String.ofList (List.replicate (4 * levelAfter before) ' ') ++ line)) := by
  refine ⟨by rw [lines_render, lines_plain, List.length_map, List.length_map], ?_⟩
  intro index line found
  have inside := found
  rw [lines_plain, List.getElem?_map, Option.map_eq_some_iff] at inside
  obtain ⟨row, inside, rfl⟩ := inside
  rw [lines_render, List.getElem?_map, inside, Option.map_some]
  constructor
  · intro blank
    have blank : row.letters = [] := by simpa [Row.text] using blank
    simp [Row.laid, blank]
  · intro filled
    refine ⟨exists_opens found filled, ?_⟩
    intro before opens
    have filled : row.letters ≠ [] := by simpa [Row.text] using filled
    have level := level_of_opens opens
    rw [inside] at level
    rw [← Option.some.inj level, Row.laid, if_neg filled, String.ofList_append, Row.text, margin]

theorem call_is_indented :
    let before : List Token := [.unindent, .text "do \x7b\n\n", .indent]
    let code : Code := { tokens := before ++
      [.text "run(", .unindent, .type (.primitive .int), .text ");\n\x7d"] }
    Opens code 2 before ∧ (lines (plain code.tokens))[2]? = some "run(int);" ∧
      (lines code.render)[2]? = some "    run(int);" := by
  intro before code
  have found : (lines (plain code.tokens))[2]? = some "run(int);" := by decide +kernel
  have opens : Opens code 2 before :=
    ⟨.text "run(", _, rfl, by decide +kernel, by decide +kernel⟩
  have indented := (((lines_are_indented code).2 2 _ found).2 (by decide)).2 before opens
  have spaces : String.ofList (List.replicate (4 * levelAfter before) ' ') ++ "run(int);" =
      "    run(int);" := by
    decide
  exact ⟨opens, found, indented.trans (congrArg _ spaces)⟩

end Code

end ClassCompiler
