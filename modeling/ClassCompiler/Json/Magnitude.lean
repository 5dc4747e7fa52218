import ClassCompiler.Text.Decimal

/-! The magnitude of a number, and whether a double can hold it. The digits make a significand of
at most 64 bits, and those that no longer fit are dropped. The significand and its power of ten are
rounded to 53 bits before they are multiplied. -/

namespace ClassCompiler.Json
open Text

/-- A significand and the exponent of the power of ten that it is multiplied by. -/
structure Magnitude where
  significand : Nat
  exponent : Int
  deriving DecidableEq

namespace Magnitude

def greatestSignificand : Nat := 0xFFFFFFFFFFFFFFFF

def extend? (significand : Nat) (digit : Char) : Option Nat :=
  let extended := 10 * significand + digitValue digit
  if extended ≤ greatestSignificand then some extended else none

/-- Reads digits before the point. From the first that does not fit, each one only counts as a power
of ten. -/
def whole (significand : Nat) : List Char → Magnitude
  | [] => ⟨significand, 0⟩
  | digit :: rest =>
    match extend? significand digit with
    | some extended => whole extended rest
    | none => ⟨significand, rest.length + 1⟩

def places (magnitude : Magnitude) : List Char → Magnitude
  | [] => magnitude
  | digit :: rest =>
    match extend? magnitude.significand digit with
    | some extended => places ⟨extended, magnitude.exponent - 1⟩ rest
    | none => magnitude

def power : List Char → Int
  | '-' :: digits => -(decimal digits : Int)
  | '+' :: digits => decimal digits
  | digits => decimal digits

def ofSpelling (spelling : List Char) : Magnitude :=
  let (digits, rest) := (spelling.dropWhile (· == '-')).span Char.isDigit
  let (fraction, rest) :=
    match rest with
    | '.' :: rest => rest.span Char.isDigit
    | rest => ([], rest)
  let magnitude := (whole 0 digits).places fraction
  { magnitude with exponent := magnitude.exponent + power (rest.drop 1) }

/-- Rounds to 53 significant bits; a tie goes to the even neighbour. -/
def round (value : Nat) : Nat :=
  let unit := Nat.pow 2 (value.log2 + 1 - 53)
  let quotient := value / unit
  let rest := value % unit
  if 2 * rest < unit || (2 * rest = unit && quotient % 2 = 0) then quotient * unit
  else (quotient + 1) * unit

/-- Halfway from the greatest double to the next power of two. From here on, numbers round to
infinity. -/
def infinite : Nat := 0x3FFFFFFFFFFFFF * Nat.pow 2 970

def isFinite (magnitude : Magnitude) : Bool :=
  magnitude.significand = 0 || magnitude.exponent < 0 ||
    (magnitude.exponent ≤ 308 &&
      round magnitude.significand * round (Nat.pow 10 magnitude.exponent.toNat) < infinite)

end Magnitude

end ClassCompiler.Json
