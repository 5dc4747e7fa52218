/-! The dot-separated segments of a name. A text without dots is its only segment. -/

namespace ClassCompiler.Text

def dotSegments : List Char → List (List Char)
  | [] => [[]]
  | c :: rest =>
    if c = '.' then [] :: dotSegments rest
    else
      match dotSegments rest with
      | [] => [[c]]
      | segment :: segments => (c :: segment) :: segments

def joinDots (segments : List String) : String := String.intercalate "." segments

theorem dotSegments_ne_nil (letters : List Char) : dotSegments letters ≠ [] := by
  cases letters with
  | nil => simp [dotSegments]
  | cons c rest =>
    simp only [dotSegments]
    split
    · simp
    · split <;> simp

theorem dotSegments_of_not_mem {letters : List Char} (plain : '.' ∉ letters) :
    dotSegments letters = [letters] := by
  induction letters with
  | nil => rfl
  | cons c rest ih =>
    simp only [List.mem_cons, not_or] at plain
    simp [dotSegments, Ne.symm plain.1, ih plain.2]

theorem dotSegments_append_dot {segment : List Char} (plain : '.' ∉ segment) (rest : List Char) :
    dotSegments (segment ++ '.' :: rest) = segment :: dotSegments rest := by
  induction segment with
  | nil => simp [dotSegments]
  | cons c segment ih =>
    simp only [List.mem_cons, not_or] at plain
    simp [dotSegments, Ne.symm plain.1, ih plain.2]

end ClassCompiler.Text
