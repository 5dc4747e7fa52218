/-! The primitive types and the keywords that spell them. -/

namespace ClassCompiler

/-- The types without members; `void` stands only where a method gives no value. -/
inductive Primitive
  | boolean
  | byte
  | short
  | int
  | long
  | char
  | float
  | double
  | void
  deriving DecidableEq

namespace Primitive

def keyword : Primitive → String
  | boolean => "boolean"
  | byte => "byte"
  | short => "short"
  | int => "int"
  | long => "long"
  | char => "char"
  | float => "float"
  | double => "double"
  | void => "void"

def all : List Primitive := [boolean, byte, short, int, long, char, float, double, void]

def ofKeyword? (word : String) : Option Primitive := all.find? (·.keyword = word)

theorem ofKeyword?_keyword (kind : Primitive) : ofKeyword? kind.keyword = some kind := by
  cases kind <;> decide

theorem keyword_of_ofKeyword? {word : String} {kind : Primitive}
    (found : ofKeyword? word = some kind) : kind.keyword = word := by
  simpa using List.find?_some found

end Primitive

end ClassCompiler
