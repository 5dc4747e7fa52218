import ClassCompiler.Code.Layout
import ClassCompiler.Code.Template

/-! The text of blocks that hold nothing but text. -/

namespace ClassCompiler.Code

/-- Joining text tokens does not change what a block is read as. -/
theorem glyphs_merge (tokens : List Token) :
    (Token.merge tokens).flatMap Token.glyphs = tokens.flatMap Token.glyphs := by
  fun_induction Token.merge tokens with
  | case1 => rfl
  | case2 s rest t more merged ih =>
    rw [merged, List.flatMap_cons] at ih
    rw [List.flatMap_cons, List.flatMap_cons, ← ih]
    simp [Token.glyphs]
  | case3 rest alone ih =>
    rw [List.flatMap_cons, ← ih]
    simp [Token.glyphs]
  | case4 s rest some alone ih => rw [List.flatMap_cons, List.flatMap_cons, ih]
  | case5 token rest mark ih => rw [List.flatMap_cons, List.flatMap_cons, ih]

theorem layout_chars (fresh : Bool) (letters : List Char) :
    layout 0 fresh (letters.map .char) = letters := by
  induction letters generalizing fresh with
  | nil => rfl
  | cons c letters ih =>
    by_cases ended : c = '\n'
    · rw [ended, List.map_cons, layout_newline, ih]
    · cases fresh with
      | true =>
        rw [List.map_cons, layout_fresh ended, ih]
        rfl
      | false => rw [List.map_cons, layout_inside ended, ih]

def Spells (code : Code) (text : String) : Prop := code.glyphs = text.toList.map .char

namespace Spells

variable {code more : Code} {text rest : String}

theorem token (text : String) : Spells { tokens := [.text text] } text := List.append_nil _

theorem chars (text : String) :
    Spells { tokens := text.toList.map fun c => .text (String.singleton c) } text := by
  rw [Spells, glyphs, List.flatMap_map, List.map_eq_flatMap]
  simp [Token.glyphs]

theorem merge {tokens : List Token} (spells : Spells ⟨tokens⟩ text) :
    Spells ⟨Token.merge tokens⟩ text :=
  (glyphs_merge tokens).trans spells

theorem append (first : Spells code text) (second : Spells more rest) :
    Spells (code ++ more) (text ++ rest) := by
  rw [Spells, glyphs_append, first, second, String.toList_append, List.map_append]

theorem render_eq (spells : Spells code text) : code.render = text := by
  rw [render, spells, layout_chars, String.ofList_toList]

end Spells

/-- A quoted text is never empty, so it stays a token. -/
theorem ofTemplate_quoted (text : String) :
    ofTemplate "$S" [.literal text] = .ok { tokens := [.text (quote text)] } := by
  have some : quote text ≠ "" := by
    intro none
    have spelled := congrArg String.toList none
    rw [toList_quote] at spelled
    cases spelled
  show Except.ok (Code.mk (Token.merge [.text (quote text)])) = _
  simp [Token.merge, some]

end ClassCompiler.Code
