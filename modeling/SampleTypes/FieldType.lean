/-
The types that fields and aliases can have.
-/
namespace SampleTypes

/-- A type, inferred from a value. -/
inductive FieldType where
  /-- The type of strings; the sample is the string it was inferred from. -/
  | text (sample : Option String)
  | number
  | bool
  /-- The type of a null: nothing is known but that a value may be absent. -/
  | null
  /-- A declared record, by name. -/
  | record (name : String)
  /-- A sequence of elements of one type. -/
  | sequence (element : FieldType)
  /-- A type that could not be inferred. -/
  | unknown
  deriving DecidableEq, Repr

namespace FieldType

/-- Unknown, or a sequence, perhaps of sequences, of unknown elements. -/
def isUnresolved : FieldType → Bool
  | .sequence element => element.isUnresolved
  | .unknown => true
  | _ => false

/-- A description that depends on no target language. -/
def describe : FieldType → String
  | .text _ => "Text"
  | .number => "Number"
  | .bool => "Bool"
  | .null => "Maybe<unknown>"
  | .record name => name
  | .sequence element => "[" ++ element.describe ++ "]"
  | .unknown => "Unknown"

/-- The type without the samples in it. -/
def unsampled : FieldType → FieldType
  | .text _ => .text none
  | .sequence element => .sequence element.unsampled
  | t => t

/-- The names of the records that the type refers to. -/
def references : FieldType → List String
  | .record name => [name]
  | .sequence element => element.references
  | _ => []

end FieldType

end SampleTypes
