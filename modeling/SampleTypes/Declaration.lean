/-
Declarations: records with named fields, and aliases for sequences. The payload of a field or an
alias is the sample value while a document is surveyed, and a type once the schema is made.
-/
import SampleTypes.Json.Printer
import SampleTypes.Text.Lines
import SampleTypes.Shape

namespace SampleTypes

/-- A record: a name and its fields in order. -/
structure Record (α : Type) where
  name : String
  fields : List (String × α)
  deriving DecidableEq, Repr

/-- An alias: a name for a payload. -/
structure Alias (α : Type) where
  name : String
  element : α
  deriving DecidableEq, Repr

/-- What a schema declares under a name. -/
inductive Declaration (α : Type) where
  | record (r : Record α)
  | alias (a : Alias α)
  deriving DecidableEq, Repr

namespace Record

variable {α : Type}

/-- The names of the fields in order. -/
def fieldNames (r : Record α) : List String :=
  r.fields.map Prod.fst

/-- The set of field names. -/
def shape (r : Record α) : Shape :=
  Shape.ofMembers r.fields

end Record

namespace Declaration

variable {α : Type}

/-- The declared name. -/
def name : Declaration α → String
  | .record r => r.name
  | .alias a => a.name

/-- The record, if it is one. -/
def record? : Declaration α → Option (Record α)
  | .record r => some r
  | .alias _ => none

/-! ## Identity -/

/-- What makes two declarations of a survey the same one. -/
inductive Identity where
  /-- Records are the same if their names and their shapes are. -/
  | record (name : String) (shape : Shape)
  /-- Aliases are the same if their names and the canonical texts of their values are. -/
  | alias (name contents : String)
  deriving DecidableEq

/-- The identity of a declaration. -/
def identity : Declaration Value → Identity
  | .record r => .record r.name r.shape
  | .alias a => .alias a.name (Json.canonical a.element)

/-! ## Description -/

/-- The number of elements of an array, of members of an object, or of characters of a string. -/
def countOf? : Value → Option Nat
  | .array es => some es.length
  | .object ms => some ms.length
  | .string s => some s.length
  | _ => none

/-- A list of names in messages; an empty one is said in words. -/
def listNames (names : List String) : String :=
  if Text.join ", " names = "" then "no fields" else Text.join ", " names

/--
The kind, the name and the extent of a declaration. An alias for a value without extent cannot be
described, and the value is what is wrong.
-/
def describe : Declaration Value → Except Value String
  | .record r => .ok ("record " ++ Text.quoted r.name ++ " (" ++ listNames r.fieldNames ++ ")")
  | .alias a =>
    match countOf? a.element with
    | some n => .ok ("alias " ++ Text.quoted a.name ++ " (length " ++ toString n ++ ")")
    | none => .error a.element

end Declaration

end SampleTypes
