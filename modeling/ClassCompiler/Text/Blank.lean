import ClassCompiler.Text.Span

/-! The Unicode property White_Space. -/

namespace ClassCompiler.Text

def blankSpans : List Span :=
  [(0x9, 0xD), (0x20, 0x20), (0x85, 0x85), (0xA0, 0xA0), (0x1680, 0x1680), (0x2000, 0x200A),
  (0x2028, 0x2029), (0x202F, 0x202F), (0x205F, 0x205F), (0x3000, 0x3000)]

def isBlank (c : Char) : Bool := covered blankSpans c.toNat

/-- True of a text without any character but blanks, the empty text included. -/
def isBlankText (text : String) : Bool := text.toList.all isBlank

end ClassCompiler.Text
