import ClassCompiler.Json.Basic

/-! How deep arrays and objects are nested in a value. -/

namespace ClassCompiler.Json

mutual

def depth : Json → Nat
  | array items => itemsDepth items + 1
  | object members => membersDepth members + 1
  | _ => 0

def itemsDepth : List Json → Nat
  | [] => 0
  | item :: items => max item.depth (itemsDepth items)

def membersDepth : List (String × Json) → Nat
  | [] => 0
  | (_, value) :: members => max value.depth (membersDepth members)

end

theorem depth_lt_of_mem_array {items : List Json} {item : Json} (member : item ∈ items) :
    item.depth < (array items).depth := by
  suffices item.depth ≤ itemsDepth items by
    rw [depth]
    omega
  induction items with
  | nil => simp at member
  | cons first rest ih =>
    rw [itemsDepth]
    rcases List.mem_cons.mp member with same | later
    · subst same
      omega
    · have := ih later
      omega

theorem depth_lt_of_mem_object {members : List (String × Json)} {key : String} {value : Json}
    (member : (key, value) ∈ members) : value.depth < (object members).depth := by
  suffices value.depth ≤ membersDepth members by
    rw [depth]
    omega
  induction members with
  | nil => simp at member
  | cons first rest ih =>
    obtain ⟨firstKey, firstValue⟩ := first
    rw [membersDepth]
    rcases List.mem_cons.mp member with same | later
    · simp only [Prod.mk.injEq] at same
      rw [same.2]
      omega
    · have := ih later
      omega

end ClassCompiler.Json
