import ClassCompiler.Text.Numeric
import ClassCompiler.Text.UppercaseMapping

/-! Identifiers: a letter, underscore or dollar sign, then letters, digits, underscores and dollar
signs, and no reserved word. -/

namespace ClassCompiler.Text

def reservedWords : List String :=
  ["abstract", "assert", "boolean", "break", "byte", "case", "catch", "char", "class", "const",
    "continue", "default", "do", "double", "else", "enum", "extends", "final", "finally", "float",
    "for", "goto", "if", "implements", "import", "instanceof", "int", "interface", "long", "native",
    "new", "package", "private", "protected", "public", "return", "short", "static", "strictfp",
    "super", "switch", "synchronized", "this", "throw", "throws", "transient", "try", "void",
    "volatile", "while", "true", "false", "null"]

def startsIdentifier (c : Char) : Bool := isAlphabetic c || c == '_' || c == '$'

def continuesIdentifier (c : Char) : Bool := isAlphanumeric c || c == '_' || c == '$'

def isIdentifier (text : String) : Bool :=
  match text.toList with
  | [] => false
  | first :: rest =>
    startsIdentifier first && rest.all continuesIdentifier && !reservedWords.contains text

def capitalize (text : String) : String :=
  match text.toList with
  | [] => ""
  | first :: rest => String.ofList (uppercase first ++ rest)

theorem startsIdentifier.continues {c : Char} (starts : startsIdentifier c = true) :
    continuesIdentifier c = true := by
  simp only [startsIdentifier, Bool.or_eq_true] at starts
  simp only [continuesIdentifier, Bool.or_eq_true]
  exact starts.imp_left (·.imp_left isAlphanumeric_of_isAlphabetic)

theorem exists_of_isIdentifier {text : String} (identifier : isIdentifier text = true) :
    ∃ first rest, text.toList = first :: rest ∧ startsIdentifier first = true ∧
      (∀ c ∈ rest, continuesIdentifier c = true) ∧ text ∉ reservedWords := by
  unfold isIdentifier at identifier
  split at identifier
  next => cases identifier
  next first rest spelled =>
    simp only [Bool.and_eq_true, List.all_eq_true, Bool.not_eq_true', List.contains_eq_mem,
      decide_eq_false_iff_not] at identifier
    obtain ⟨⟨starts, continues⟩, unreserved⟩ := identifier
    exact ⟨first, rest, spelled, starts, continues, unreserved⟩

theorem capitalize_empty : capitalize "" = "" := rfl

theorem toList_capitalize_cons {text : String} {first : Char} {rest : List Char}
    (spelled : text.toList = first :: rest) :
    (capitalize text).toList = uppercase first ++ rest := by
  simp [capitalize, spelled]

end ClassCompiler.Text
