import ClassCompiler.Types.ClassName

/-! Choices that a compilation leaves open. -/

namespace ClassCompiler

structure Options where
  /-- The annotation of a field whose serialized name is not its own. -/
  serializedNameType : ClassName :=
    { package := "com.fasterxml.jackson.annotation", outermost := "JsonProperty" }
  /-- The annotation of the parameter of a setter whose property is not required. -/
  notNullType : ClassName := { package := "jakarta.annotation", outermost := "Nonnull" }
  setterPrefix : String := "set"
  validates : Bool := true
  /-- Name inline objects after all the objects around them, not after the innermost alone. -/
  scopedPrefixes : Bool := false
  deriving DecidableEq

end ClassCompiler
