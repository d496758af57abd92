/-
The Haskell types that stand for the inferred ones.
-/
namespace SampleTypes.Haskell

/-- The type expressions for the types that are not declared, and whether samples are shown. -/
structure TypeNames where
  text : String := "BS.ByteString"
  number : String := "Double"
  boolean : String := "Bool"
  /-- Stands for the type of a null. -/
  null : String := "Maybe a"
  /-- Stands for a type that is not known. -/
  unknown : String := "UNKNOWN"
  /-- Strings are followed by a comment with their sample. -/
  sampleComments : Bool := true
  deriving DecidableEq, Repr

end SampleTypes.Haskell
