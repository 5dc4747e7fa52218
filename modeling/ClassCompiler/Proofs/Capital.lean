import ClassCompiler.Text.Identifier
import Mathlib.Data.List.Basic

/-! Capitalizing twice is capitalizing once. An uppercase mapping may be longer than one character,
but its first character is mapped to itself. -/

namespace ClassCompiler.Text

/-- No code point is in both combs: their ranges are apart, or they take turns, or one of them has
a single code point that the other leaves out. -/
def Comb.apart (first second : Comb) : Bool :=
  Nat.blt first.last second.first || Nat.blt second.last first.first ||
    (Nat.beq first.step 2 && Nat.beq second.step 2 &&
      Nat.beq ((first.first + second.first) % 2) 1) ||
    (Nat.beq first.first first.last && !second.covers first.first)

theorem Comb.not_covers_of_apart {first second : Comb} {code : Nat}
    (apart : first.apart second = true) (covered : first.covers code = true) :
    second.covers code = false := by
  rw [Comb.covers_iff] at covered
  simp only [Comb.apart, Bool.or_eq_true, Bool.and_eq_true, Nat.beq_eq, Nat.blt_eq,
    Bool.not_eq_true'] at apart
  by_contra covers
  rw [Bool.not_eq_false, Comb.covers_iff] at covers
  rcases apart with ((before | behind) | ⟨⟨twice, again⟩, turns⟩) | ⟨single, outside⟩
  · omega
  · omega
  · rw [twice] at covered
    rw [again] at covers
    omega
  · obtain rfl : code = first.first := by omega
    rw [Comb.covers_iff.mpr covers] at outside
    cases outside

def shiftedImage (entry : Comb × Nat) : Comb :=
  ⟨entry.2, entry.2 + (entry.1.last - entry.1.first), entry.1.step⟩

theorem shiftedImages_apart : (shiftedCombs.all fun entry => shiftedCombs.all fun other =>
    (shiftedImage entry).apart other.1) = true := by
  decide +kernel

theorem shiftedImages_unexpanded : (shiftedCombs.all fun entry => expansions.all fun other =>
    Nat.blt other.1 (shiftedImage entry).first || Nat.blt (shiftedImage entry).last other.1) =
      true := by
  decide +kernel

theorem shiftedImages_capital : (shiftedCombs.all fun entry =>
    Nat.blt (shiftedImage entry).last 0x61 || Nat.blt 0x7A (shiftedImage entry).first) = true := by
  decide

theorem expansions_settled : ∀ entry ∈ expansions, ∀ code ∈ entry.2.head?,
    uppercase (Char.ofNat code) = [Char.ofNat code] := by
  decide +kernel

theorem uppercase_ascii : ∀ code < 0x80,
    uppercase (Char.ofNat code).toUpper = [(Char.ofNat code).toUpper] := by
  decide

theorem toNat_ofNat_of_valid {code : Nat} (valid : code.isValidChar) :
    (Char.ofNat code).toNat = code := by
  rw [Char.ofNat, dif_pos valid]
  rfl

theorem toUpper_eq_self {c : Char} (capital : c.toNat < 0x61 ∨ 0x7A < c.toNat) : c.toUpper = c := by
  have other : ¬('a'.val ≤ c.val ∧ c.val ≤ 'z'.val) := by
    rintro ⟨above, below⟩
    rw [UInt32.le_iff_toNat_le] at above below
    change 0x61 ≤ c.toNat at above
    change c.toNat ≤ 0x7A at below
    omega
  exact dif_neg other

theorem uppercase_eq_self {c : Char} (capital : c.toNat < 0x61 ∨ 0x7A < c.toNat)
    (unexpanded : ∀ entry ∈ expansions, entry.1 ≠ c.toNat)
    (unshifted : ∀ entry ∈ shiftedCombs, entry.1.covers c.toNat = false) : uppercase c = [c] := by
  have expansion : expansions.lookup c.toNat = none := by
    rw [List.lookup_eq_none_iff]
    intro entry member
    exact bne_iff_ne.mpr (unexpanded entry member).symm
  have shift : shiftedCombs.find? (·.1.covers c.toNat) = none := by
    rw [List.find?_eq_none]
    intro entry member
    simp [unshifted entry member]
  unfold uppercase
  split
  next => rw [toUpper_eq_self capital]
  next => simp [expansion, shift]

theorem uppercase_shifted {entry : Comb × Nat} (member : entry ∈ shiftedCombs) {code : Nat}
    (covered : entry.1.covers code = true) :
    uppercase (Char.ofNat (entry.2 + (code - entry.1.first))) =
      [Char.ofNat (entry.2 + (code - entry.1.first))] := by
  by_cases valid : (entry.2 + (code - entry.1.first)).isValidChar
  · have image : (shiftedImage entry).covers (entry.2 + (code - entry.1.first)) = true := by
      rw [Comb.covers_iff] at covered ⊢
      simp only [shiftedImage, Nat.add_sub_cancel_left]
      exact ⟨by omega, by omega, covered.2.2⟩
    have number := toNat_ofNat_of_valid valid
    apply uppercase_eq_self
    · have capital := List.all_eq_true.mp shiftedImages_capital entry member
      rw [Comb.covers_iff] at image
      simp only [Bool.or_eq_true, Nat.blt_eq] at capital
      rw [number]
      omega
    · intro other inside same
      have apart := List.all_eq_true.mp (List.all_eq_true.mp shiftedImages_unexpanded entry member)
        other inside
      rw [number] at same
      rw [Comb.covers_iff] at image
      simp only [Bool.or_eq_true, Nat.blt_eq] at apart
      omega
    · intro other inside
      rw [number]
      exact Comb.not_covers_of_apart (List.all_eq_true.mp
        (List.all_eq_true.mp shiftedImages_apart entry member) other inside) image
  -- A number of no character is taken for the character zero.
  · have zero : Char.ofNat (entry.2 + (code - entry.1.first)) = Char.ofNat 0 := by
      rw [Char.ofNat, dif_neg valid]
      rfl
    rw [zero]
    exact uppercase_ascii 0 (by decide)

/-- The first character of an uppercase mapping is its own mapping. -/
theorem uppercase_head {c first : Char} {rest : List Char} (mapped : uppercase c = first :: rest) :
    uppercase first = [first] := by
  have again := mapped
  unfold uppercase at mapped
  split at mapped
  next ascii =>
    obtain ⟨rfl, -⟩ := List.cons.inj mapped
    have settled := uppercase_ascii c.toNat ascii
    rwa [Char.ofNat_toNat] at settled
  next =>
    split at mapped
    next codes found =>
      obtain ⟨before, after, same, _⟩ := List.lookup_eq_some_iff.mp found
      have member : (c.toNat, codes) ∈ expansions := by simp [same]
      cases codes with
      | nil => cases mapped
      | cons code codes =>
        obtain ⟨rfl, -⟩ := List.cons.inj mapped
        exact expansions_settled _ member code rfl
    next =>
      split at mapped
      next comb image found =>
        obtain ⟨rfl, -⟩ := List.cons.inj mapped
        have covered : comb.covers c.toNat = true := by simpa using List.find?_some found
        exact uppercase_shifted (List.mem_of_find?_eq_some found) covered
      next =>
        obtain ⟨rfl, -⟩ := List.cons.inj mapped
        exact again.trans (by simp_all)

theorem capitalize_capitalize (text : String) : capitalize (capitalize text) = capitalize text := by
  cases spelled : text.toList with
  | nil =>
    obtain rfl := String.toList_eq_nil_iff.mp spelled
    rfl
  | cons letter rest =>
    have once := toList_capitalize_cons spelled
    cases mapped : uppercase letter with
    | nil => exact absurd mapped (uppercase_ne_nil letter)
    | cons first more =>
      rw [mapped, List.cons_append] at once
      apply String.toList_injective
      rw [toList_capitalize_cons once, once, uppercase_head mapped, List.singleton_append]

theorem length_le_capitalize (text : String) : text.length ≤ (capitalize text).length := by
  cases spelled : text.toList with
  | nil =>
    obtain rfl := String.toList_eq_nil_iff.mp spelled
    exact Nat.zero_le _
  | cons letter rest =>
    have mapped := List.length_pos_iff.mpr (uppercase_ne_nil letter)
    rw [← String.length_toList, ← String.length_toList, toList_capitalize_cons spelled, spelled,
      List.length_append, List.length_cons]
    omega

theorem capitalize_append_capitalize (before text : String) :
    capitalize (before ++ capitalize text) = capitalize before ++ capitalize text := by
  cases spelled : before.toList with
  | nil =>
    obtain rfl := String.toList_eq_nil_iff.mp spelled
    rw [String.empty_append, capitalize_capitalize, capitalize_empty, String.empty_append]
  | cons letter rest =>
    have whole : (before ++ capitalize text).toList = letter :: (rest ++ (capitalize text).toList) := by
      rw [String.toList_append, spelled, List.cons_append]
    apply String.toList_injective
    rw [toList_capitalize_cons whole, String.toList_append, toList_capitalize_cons spelled,
      List.append_assoc]

end ClassCompiler.Text
