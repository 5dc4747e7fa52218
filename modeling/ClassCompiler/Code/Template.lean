import ClassCompiler.Code.Block
import ClassCompiler.Code.Quoted
import ClassCompiler.Text.Decimal

/-! Templates of code. A dollar sign starts a placeholder: `$L` a literal, `$S` a string literal,
`$T` a type, `$N` a name, `$$` a dollar sign, `$W` a space, `$>` and `$<` a shift of the lines that
follow. The first four are slots for arguments and may carry a position (`$2T`). A template has
positions in all of its slots or in none, and uses every argument. -/

namespace ClassCompiler

inductive Argument
  | literal (text : String)
  | type (type : TypeName)
  deriving DecidableEq

def Argument.text : Argument → String
  | literal text => text
  | type t => t.text

/-- What is wrong with a template and its arguments; arguments count from zero. -/
inductive TemplateFault
  | missingArgument (index available : Nat)
  | unusedArguments (count : Nat)
  | mixedPlaceholders
  | unknownPlaceholder (c : Char)
  | danglingDollar
  | typeExpected (index : Nat) (literal : String)
  | invalidPosition
  deriving DecidableEq

structure TemplateError where
  template : String
  fault : TemplateFault
  deriving DecidableEq

def TemplateError.message (error : TemplateError) : String :=
  let template := error.template
  match error.fault with
  | .missingArgument index available =>
    s!"format '{template}' references argument {index} but only {available} were given"
  | .unusedArguments count => s!"format '{template}' leaves {count} argument(s) unused"
  | .mixedPlaceholders => s!"format '{template}' mixes relative and positional placeholders"
  | .unknownPlaceholder c => s!"unknown placeholder '${c}' in format '{template}'"
  | .danglingDollar => s!"dangling '$' at end of format '{template}'"
  | .typeExpected index literal =>
    s!"format '{template}' expects a type for argument {index}, got literal '{literal}'"
  | .invalidPosition => s!"invalid positional index in format '{template}'"

namespace Template
open Text

inductive Slot
  | literal
  | string
  | type
  | name
  deriving DecidableEq

/-- The parts of a template. A position is that of an argument, from zero. Nothing is read behind
a fault. -/
inductive Piece
  | char (c : Char)
  | indent
  | unindent
  | slot (kind : Slot) (position : Option Nat)
  | fault (fault : TemplateFault)
  deriving DecidableEq

def slot? : Char → Option Slot
  | 'L' => some .literal
  | 'S' => some .string
  | 'T' => some .type
  | 'N' => some .name
  | _ => none

def mark? : Char → Option Piece
  | '$' => some (.char '$')
  | 'W' => some (.char ' ')
  | '>' => some .indent
  | '<' => some .unindent
  | _ => none

def maxPosition : Nat := 0xFFFFFFFFFFFFFFFF

def placeholder (digits : List Char) (letter : Char) : Piece :=
  match mark? letter, slot? letter with
  | some mark, _ => if digits.isEmpty then mark else .fault .invalidPosition
  | none, some kind =>
    if digits.isEmpty then .slot kind none
    else
      let position := decimal digits
      if 0 < position && position ≤ maxPosition then .slot kind (some (position - 1))
      else .fault .invalidPosition
  | none, none => .fault (.unknownPlaceholder letter)

mutual

def pieces : List Char → List Piece
  | [] => []
  | c :: rest => if c = '$' then piecesAfterDollar [] rest else .char c :: pieces rest

def piecesAfterDollar (digits : List Char) : List Char → List Piece
  | [] => [.fault .danglingDollar]
  | c :: rest =>
    if c.isDigit then piecesAfterDollar (digits ++ [c]) rest
    else
      match placeholder digits c with
      | .fault fault => [.fault fault]
      | piece => piece :: pieces rest

end

/-- How the slots read so far chose their arguments: in turn, `next` being the argument of the next
slot, or all by position. -/
inductive Numbering
  | relative (next : Nat)
  | positional
  deriving DecidableEq

def Numbering.choose : Numbering → Option Nat → Option (Nat × Numbering)
  | relative next, none => some (next, relative (next + 1))
  | relative 0, some position => some (position, positional)
  | relative (_ + 1), some _ => none
  | positional, some position => some (position, positional)
  | positional, none => none

/-- The token for an argument in a slot. Only literal and type slots keep the reference to a type;
a type slot takes nothing else. -/
def Slot.fill (kind : Slot) (index : Nat) : Argument → Except TemplateFault Code.Token
  | .type t =>
    match kind with
    | .literal | .type => .ok (.type t)
    | .string => .ok (.text (Code.quote t.text))
    | .name => .ok (.text t.text)
  | .literal text =>
    match kind with
    | .literal | .name => .ok (.text text)
    | .string => .ok (.text (Code.quote text))
    | .type => .error (.typeExpected index text)

/-- Fills the slots from left to right. The answer has one token for each piece and the arguments
that were used; the leftmost fault wins. -/
def fill (arguments : List Argument) :
    Numbering → List Piece → Except TemplateFault (List Code.Token × List Nat)
  | _, [] => .ok ([], [])
  | numbering, .char c :: rest => do
    let (tokens, used) ← fill arguments numbering rest
    return (.text (String.singleton c) :: tokens, used)
  | numbering, .indent :: rest => do
    let (tokens, used) ← fill arguments numbering rest
    return (.indent :: tokens, used)
  | numbering, .unindent :: rest => do
    let (tokens, used) ← fill arguments numbering rest
    return (.unindent :: tokens, used)
  | numbering, .slot kind position :: rest =>
    match numbering.choose position with
    | none => .error .mixedPlaceholders
    | some (index, numbering) =>
      match arguments[index]? with
      | none => .error (.missingArgument index arguments.length)
      | some argument => do
        let token ← kind.fill index argument
        let (tokens, used) ← fill arguments numbering rest
        return (token :: tokens, index :: used)
  | _, .fault fault :: _ => .error fault

def unusedCount (arguments : List Argument) (used : List Nat) : Nat :=
  (List.range arguments.length).countP (!used.contains ·)

def parse (template : List Char) (arguments : List Argument) :
    Except TemplateFault (List Code.Token) := do
  let (tokens, used) ← fill arguments (.relative 0) (pieces template)
  let unused := unusedCount arguments used
  if 0 < unused then throw (.unusedArguments unused)
  return Code.Token.merge tokens

end Template

namespace Code

def ofTemplate (template : String) (arguments : List Argument) : Except TemplateError Code :=
  match Template.parse template.toList arguments with
  | .ok tokens => .ok { tokens }
  | .error fault => .error { template, fault }

def statement (template : String) (arguments : List Argument) : Except TemplateError Code :=
  (· ++ statementEnd) <$> ofTemplate template arguments

end Code

end ClassCompiler
