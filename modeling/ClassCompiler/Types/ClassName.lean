import ClassCompiler.Text.Segments
import ClassCompiler.Text.Uppercase

/-! Qualified names of classes: a package, an outermost class and the classes nested in it, each
inside the one before. -/

namespace ClassCompiler
open Text

structure ClassName where
  package : String
  outermost : String
  inner : List String := []
  deriving DecidableEq

namespace ClassName

def names (name : ClassName) : List String := name.outermost :: name.inner

def simpleName (name : ClassName) : String := name.inner.getLast?.getD name.outermost

def nested (name : ClassName) (simple : String) : ClassName :=
  { name with inner := name.inner ++ [simple] }

def ofNames? (package : String) : List String → Option ClassName
  | [] => none
  | outermost :: inner => some { package, outermost, inner }

/-- The dotted name. The default package, which has no name, adds nothing. -/
def canonicalName (name : ClassName) : String :=
  if name.package = "" then joinDots name.names
  else name.package ++ "." ++ joinDots name.names

/-- Reads a dotted name: the segments before the first that starts uppercase are the package, the
others are classes. There is no reading if a segment is empty or none starts uppercase. -/
def bestGuess? (text : String) : Option ClassName :=
  let segments := dotSegments text.toList
  if segments.any (·.isEmpty) then none
  else
    let (package, classes) := segments.span (!startsUppercase ·)
    ofNames? (joinDots (package.map String.ofList)) (classes.map String.ofList)

/-- By package, then by simple names from the outermost; texts compare by code points. -/
instance : Ord ClassName where
  compare a b := (compare a.package b.package).then (compare a.names b.names)

def sorted (names : List ClassName) : List ClassName :=
  (names.mergeSort fun a b => (compare a b).isLE).eraseReps

end ClassName

end ClassCompiler
