/-! Tables of code points. A character class is the union of the spans in its table; a span is
written by its first and last code point, both included. -/

namespace ClassCompiler.Text

abbrev Span := Nat × Nat

def Span.covers (span : Span) (code : Nat) : Bool := span.1 ≤ code && code ≤ span.2

def covered (table : List Span) (code : Nat) : Bool := table.any (·.covers code)

theorem Span.covers_iff {span : Span} {code : Nat} :
    span.covers code = true ↔ span.1 ≤ code ∧ code ≤ span.2 := by
  simp [Span.covers]

theorem covered_iff {table : List Span} {code : Nat} :
    covered table code = true ↔ ∃ span ∈ table, span.1 ≤ code ∧ code ≤ span.2 := by
  simp [covered, Span.covers_iff]

/-- Every `step`-th code point from `first` to `last`. -/
structure Comb where
  first : Nat
  last : Nat
  step : Nat

def Comb.covers (comb : Comb) (code : Nat) : Bool :=
  comb.first ≤ code && code ≤ comb.last && (code - comb.first) % comb.step == 0

theorem Comb.covers_iff {comb : Comb} {code : Nat} :
    comb.covers code = true ↔
      comb.first ≤ code ∧ code ≤ comb.last ∧ (code - comb.first) % comb.step = 0 := by
  simp [Comb.covers, and_assoc]

end ClassCompiler.Text
