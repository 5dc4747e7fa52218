/-! String literals: quotes, backslashes, line ends and tabs are escaped, all else stands for
itself. Reading a literal back gives the text and what follows the closing quote. -/

namespace ClassCompiler.Code

def escapeLetter? : Char → Option Char
  | '"' => some '"'
  | '\\' => some '\\'
  | '\n' => some 'n'
  | '\r' => some 'r'
  | '\t' => some 't'
  | _ => none

def unescapeLetter? : Char → Option Char
  | '"' => some '"'
  | '\\' => some '\\'
  | 'n' => some '\n'
  | 'r' => some '\r'
  | 't' => some '\t'
  | _ => none

def escape : List Char → List Char
  | [] => []
  | c :: rest =>
    match escapeLetter? c with
    | some letter => '\\' :: letter :: escape rest
    | none => c :: escape rest

def quoted (letters : List Char) : List Char := '"' :: (escape letters ++ ['"'])

def quote (text : String) : String := String.ofList (quoted text.toList)

/-- Reads escaped text up to its closing quote. -/
def unescape? : List Char → Option (List Char × List Char)
  | [] => none
  | '"' :: rest => some ([], rest)
  | ['\\'] => none
  | '\\' :: letter :: rest => do
    let c ← unescapeLetter? letter
    let (letters, rest) ← unescape? rest
    return (c :: letters, rest)
  | c :: rest => do
    let (letters, rest) ← unescape? rest
    return (c :: letters, rest)

def unquote? : List Char → Option (List Char × List Char)
  | '"' :: rest => unescape? rest
  | _ => none

theorem unescapeLetter?_of_escapeLetter? {c letter : Char} (escaped : escapeLetter? c = some letter) :
    unescapeLetter? letter = some c := by
  unfold escapeLetter? at escaped
  split at escaped <;> simp only [Option.some.injEq, reduceCtorEq] at escaped <;> subst escaped <;> rfl

theorem escape_cons_escaped {c letter : Char} (escaped : escapeLetter? c = some letter)
    (rest : List Char) : escape (c :: rest) = '\\' :: letter :: escape rest := by
  simp [escape, escaped]

theorem escape_cons_plain {c : Char} (plain : escapeLetter? c = none) (rest : List Char) :
    escape (c :: rest) = c :: escape rest := by
  simp [escape, plain]

theorem toList_quote (text : String) : (quote text).toList = quoted text.toList := by
  simp [quote]

end ClassCompiler.Code
