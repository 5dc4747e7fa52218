import ClassCompiler.Json.Basic
import ClassCompiler.Json.Magnitude

/-! Values that can be stored before it is known what they are for: every string in them spells a
text, and a double can hold every number. -/

namespace ClassCompiler.Json

mutual

def isStorable : Json → Bool
  | unpaired => false
  | number spelling => (Magnitude.ofSpelling spelling.toList).isFinite
  | array items => areStorable items
  | object members => membersStorable members
  | _ => true

def areStorable : List Json → Bool
  | [] => true
  | item :: items => item.isStorable && areStorable items

def membersStorable : List (String × Json) → Bool
  | [] => true
  | (_, value) :: members => value.isStorable && membersStorable members

end

theorem areStorable_eq_all (items : List Json) : areStorable items = items.all isStorable := by
  induction items with
  | nil => rfl
  | cons item items ih => simp [areStorable, ih]

theorem membersStorable_eq_all (members : List (String × Json)) :
    membersStorable members = members.all (·.2.isStorable) := by
  induction members with
  | nil => rfl
  | cons member members ih => simp [membersStorable, ih]

end ClassCompiler.Json
