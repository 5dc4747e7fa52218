import ClassCompiler.Types.TypeName

/-! Blocks of code: text with references to types, and marks that shift the lines after them. -/

namespace ClassCompiler

inductive Code.Token
  | text (text : String)
  | type (type : TypeName)
  | indent
  | unindent
  deriving DecidableEq

structure Code where
  tokens : List Code.Token := []
  deriving DecidableEq

namespace Code

namespace Token

def type? : Token → Option TypeName
  | type t => some t
  | _ => none

def spelling : Token → String
  | text s => s
  | type t => t.text
  | indent | unindent => ""

/-- Joins neighbouring text tokens and drops empty ones. -/
def merge : List Token → List Token
  | [] => []
  | text s :: rest =>
    match merge rest with
    | text t :: more => text (s ++ t) :: more
    | more => if s = "" then more else text s :: more
  | token :: rest => token :: merge rest

end Token

def empty : Code := {}

def isEmpty (code : Code) : Bool := code.tokens.isEmpty

def append (code more : Code) : Code := { tokens := code.tokens ++ more.tokens }

instance : Append Code := ⟨append⟩

def indent : Code := { tokens := [.indent] }

def unindent : Code := { tokens := [.unindent] }

def statementEnd : Code := { tokens := [.text ";\n"] }

def types (code : Code) : List TypeName := code.tokens.filterMap Token.type?

theorem tokens_append (code more : Code) : (code ++ more).tokens = code.tokens ++ more.tokens := rfl

theorem types_append (code more : Code) : (code ++ more).types = code.types ++ more.types := by
  simp [types, tokens_append]

end Code

end ClassCompiler
