/-
Declarations as Haskell source. A record is a `data` declaration with one field a line, the type
signs one below the other, and an instance that decodes its fields in order. An alias is a `type`
synonym. Every text ends with a line feed.
-/
import SampleTypes.Declaration
import SampleTypes.FieldType
import SampleTypes.Haskell.Literal
import SampleTypes.Haskell.TypeNames
import SampleTypes.Text.Blank

namespace SampleTypes.Haskell

/-! ## Types -/

/-- A type expression that carries no sample. -/
def plainType (names : TypeNames) : FieldType → String
  | .text _ => names.text
  | .number => names.number
  | .bool => names.boolean
  | .null => names.null
  | .record name => name
  | .sequence .unknown => "[" ++ names.unknown ++ "]"
  | .sequence element => "[ " ++ plainType names element ++ " ]"
  | .unknown => names.unknown

/--
A type expression at the end of a line. The type of strings may be followed by a comment with the
sample; inside a sequence there is none, since it would swallow the closing bracket.
-/
def typeExpression (names : TypeNames) (annotate : Bool) : FieldType → String
  | .text (some sample) =>
    if annotate && names.sampleComments then
      Text.trimEnd (names.text ++ " -- " ++ commentText sample)
    else names.text
  | t => plainType names t

/-! ## Records -/

/-- The length of the longest of some texts. -/
def longest (texts : List String) : Nat :=
  (texts.map String.length).foldl max 0

/-- The label of a field: an underscore and its name, filled up to the width. -/
def label (width : Nat) (field : String) : String :=
  Text.padEnd width ("_" ++ field)

/-- What stands in front of the labels: spaces for the first field, a comma for the others. -/
def leads (fields : Nat) : List String :=
  match fields with
  | 0 => []
  | n + 1 => "    " :: List.replicate n "  , "

/-- The lines of the fields of a record. -/
def fieldLines (names : TypeNames) (r : Record FieldType) : List String :=
  let width := 1 + longest r.fieldNames
  List.zipWith
    (fun lead (field, type) => lead ++ label width field ++ " :: " ++ typeExpression names true type)
    (leads r.fields.length) r.fields

/-- The `data` declaration of a record. -/
def recordType (names : TypeNames) (r : Record FieldType) : String :=
  Text.unlines
    (("data " ++ r.name ++ " = " ++ r.name ++ " \x7b") :: fieldLines names r ++
      ["\x7d deriving (Show, Data, Typeable)"])

/-- What the equation of a decoder for objects starts with. -/
def decoderLead : String := "  parseJSON (Object v) = "

/-- The look-up of a field, aligned with the end of the decoder's lead. -/
def lookup (field : String) : String :=
  Text.padStart decoderLead.length "v .:" ++ " " ++ literal field

/-- The look-ups of fields in order, joined by applications. -/
def lookupLines : List String → List String
  | [] => []
  | [field] => [lookup field]
  | field :: next :: rest => (lookup field ++ " <*>") :: lookupLines (next :: rest)

/-- The equation that decodes an object to a record. -/
def decoderLines (r : Record FieldType) : List String :=
  match r.fieldNames with
  | [] => ["  parseJSON (Object _) = pure " ++ r.name]
  | fields => (decoderLead ++ r.name ++ " <$>") :: lookupLines fields

/-- The decoder of a record: an object gives its fields, any other value fails. -/
def recordDecoder (r : Record FieldType) : String :=
  Text.unlines
    (("instance FromJSON " ++ r.name ++ " where") :: decoderLines r ++
      ["  parseJSON _            = empty"])

/-! ## Declarations -/

/-- The `type` synonym of an alias. -/
def aliasType (names : TypeNames) (a : Alias FieldType) : String :=
  "type " ++ a.name ++ " = " ++ typeExpression names true a.element ++ "\n"

/-- The source text of a declaration. -/
structure Rendered where
  name : String
  typeText : String
  /-- The instance that decodes a record; aliases have none. -/
  decoderText : Option String
  deriving DecidableEq, Repr

namespace Rendered

/-- It is the text of a record. -/
def isRecord (r : Rendered) : Bool :=
  r.decoderText.isSome

/-- The type texts in order, then the decoder texts in order. -/
def blocks (rendered : List Rendered) : List String :=
  rendered.map Rendered.typeText ++ rendered.filterMap Rendered.decoderText

/-- The type texts, then the decoder texts, with a blank line between neighbours. -/
def source (rendered : List Rendered) : String :=
  Text.join "\n" (blocks rendered)

end Rendered

/-- Renders a declaration. -/
def render (names : TypeNames) : Declaration FieldType → Rendered
  | .record r => ⟨r.name, recordType names r, some (recordDecoder r)⟩
  | .alias a => ⟨a.name, aliasType names a, none⟩

end SampleTypes.Haskell
