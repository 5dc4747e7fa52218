import ClassCompiler.Text.Blank
import ClassCompiler.Text.Numeric
import ClassCompiler.Types.TypeName

/-! The symbols of type tokens: names and punctuation. Blanks separate symbols and mean nothing
else; a name goes on as long as its letters do. -/

namespace ClassCompiler
open Text

inductive TypeFault
  | unexpectedCharacter (c : Char)
  | expectedType
  | expectedBracket
  | expectedAngle
  | malformedName (name : String)
  | noArguments (shape : Shape) (name : String)
  | trailingInput
  deriving DecidableEq

def TypeFault.reason : TypeFault → String
  | unexpectedCharacter c => s!"unexpected character '{c}'"
  | expectedType => "expected a type name"
  | expectedBracket => "expected ']'"
  | expectedAngle => "expected '>'"
  | malformedName name => s!"malformed name '{name}'"
  | noArguments shape name => s!"{shape.text} '{name}' cannot take type arguments"
  | trailingInput => "unexpected trailing input"

inductive Symbol
  | name (text : String)
  | less
  | greater
  | comma
  | openBracket
  | closeBracket
  | question
  deriving DecidableEq

namespace Symbol

def ofChar? : Char → Option Symbol
  | '<' => some less
  | '>' => some greater
  | ',' => some comma
  | '[' => some openBracket
  | ']' => some closeBracket
  | '?' => some question
  | _ => none

def isNameChar (c : Char) : Bool := isAlphanumeric c || c == '_' || c == '$' || c == '.'

/-- Ends the name whose letters were read, the last letter first. -/
def endName (letters : List Char) (rest : List Symbol) : List Symbol :=
  if letters.isEmpty then rest else name (String.ofList letters.reverse) :: rest

/-- Reads symbols behind the letters of a name that is not at its end yet. -/
def scan (letters : List Char) : List Char → Except TypeFault (List Symbol)
  | [] => .ok (endName letters [])
  | c :: rest =>
    match ofChar? c with
    | some symbol => do return endName letters (symbol :: (← scan [] rest))
    | none =>
      if isBlank c then do return endName letters (← scan [] rest)
      else if isNameChar c then scan (c :: letters) rest
      else .error (.unexpectedCharacter c)

def ofText (text : String) : Except TypeFault (List Symbol) := scan [] text.toList

end Symbol

end ClassCompiler
