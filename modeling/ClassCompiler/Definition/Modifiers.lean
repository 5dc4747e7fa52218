/-! Sets of declaration modifiers. -/

namespace ClassCompiler

structure Modifiers where
  isPublic : Bool := false
  isProtected : Bool := false
  isPrivate : Bool := false
  isAbstract : Bool := false
  isStatic : Bool := false
  isFinal : Bool := false
  deriving DecidableEq

namespace Modifiers

def none : Modifiers := {}

def union (a b : Modifiers) : Modifiers where
  isPublic := a.isPublic || b.isPublic
  isProtected := a.isProtected || b.isProtected
  isPrivate := a.isPrivate || b.isPrivate
  isAbstract := a.isAbstract || b.isAbstract
  isStatic := a.isStatic || b.isStatic
  isFinal := a.isFinal || b.isFinal

def ofKeyword? : String → Option Modifiers
  | "public" => some { isPublic := true }
  | "protected" => some { isProtected := true }
  | "private" => some { isPrivate := true }
  | "abstract" => some { isAbstract := true }
  | "static" => some { isStatic := true }
  | "final" => some { isFinal := true }
  | _ => Option.none

def keywords (m : Modifiers) : List String :=
  ([(m.isPublic, "public"), (m.isProtected, "protected"), (m.isPrivate, "private"),
    (m.isAbstract, "abstract"), (m.isStatic, "static"), (m.isFinal, "final")].filter
      (·.1)).map (·.2)

def isEmpty (m : Modifiers) : Bool := m.keywords.isEmpty

def text (m : Modifiers) : String := String.intercalate " " m.keywords

def leading (m : Modifiers) : String := if m.isEmpty then "" else m.text ++ " "

end Modifiers

end ClassCompiler
