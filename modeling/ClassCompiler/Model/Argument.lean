/-! Arguments of templates as models write them. -/

namespace ClassCompiler

inductive ModelArgument
  | literal (text : String)
  | type (token : String)
  deriving DecidableEq

namespace ModelArgument

/-- Reads the plain form: the marker `<type>` at the front makes the rest a type token. -/
def parse (text : String) : ModelArgument :=
  match text.toList with
  | '<' :: 't' :: 'y' :: 'p' :: 'e' :: '>' :: token => .type (String.ofList token)
  | _ => .literal text

def isType : ModelArgument → Bool
  | type _ => true
  | literal _ => false

end ModelArgument

end ClassCompiler
