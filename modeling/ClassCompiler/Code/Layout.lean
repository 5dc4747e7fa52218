import ClassCompiler.Code.Block

/-! The text of a block: every line that holds anything starts with four spaces for each level of
indentation in force at its first character. -/

namespace ClassCompiler.Code

/-- A block, read one character at a time. -/
inductive Glyph
  | char (c : Char)
  | indent
  | unindent
  deriving DecidableEq

def Token.glyphs : Token → List Glyph
  | text s => s.toList.map .char
  | type t => t.text.toList.map .char
  | indent => [.indent]
  | unindent => [.unindent]

def glyphs (code : Code) : List Glyph := code.tokens.flatMap Token.glyphs

def margin (level : Nat) : List Char := List.replicate (4 * level) ' '

/-- Lays out glyphs at a level of indentation; `fresh` says that the line is empty so far. -/
def layout (level : Nat) (fresh : Bool) : List Glyph → List Char
  | [] => []
  | .indent :: rest => layout (level + 1) fresh rest
  | .unindent :: rest => layout (level - 1) fresh rest
  | .char c :: rest =>
    if c = '\n' then '\n' :: layout level true rest
    else if fresh then margin level ++ c :: layout level false rest
    else c :: layout level false rest

def render (code : Code) : String := String.ofList (layout 0 true code.glyphs)

theorem glyphs_append (code more : Code) : (code ++ more).glyphs = code.glyphs ++ more.glyphs := by
  simp [glyphs, tokens_append]

theorem layout_indent (level : Nat) (fresh : Bool) (rest : List Glyph) :
    layout level fresh (.indent :: rest) = layout (level + 1) fresh rest := rfl

theorem layout_newline (level : Nat) (fresh : Bool) (rest : List Glyph) :
    layout level fresh (.char '\n' :: rest) = '\n' :: layout level true rest := by
  simp [layout]

theorem layout_fresh {c : Char} (inLine : c ≠ '\n') (level : Nat) (rest : List Glyph) :
    layout level true (.char c :: rest) = margin level ++ c :: layout level false rest := by
  simp [layout, inLine]

theorem layout_inside {c : Char} (inLine : c ≠ '\n') (level : Nat) (rest : List Glyph) :
    layout level false (.char c :: rest) = c :: layout level false rest := by
  simp [layout, inLine]

theorem toList_render (code : Code) : code.render.toList = layout 0 true code.glyphs := by
  simp [render]

end ClassCompiler.Code
