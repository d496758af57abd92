/-
Names: type names from keys, and which texts are type names and dotted module prefixes.

`pascalCase` turns an identifier with underscores into a name whose segments start with capitals,
and `singular` names one of many.
-/
import SampleTypes.Text.Lines
import SampleTypes.Text.Uppercase

namespace SampleTypes

/-! ## From keys to type names -/

/-- A segment with its first character in capital form. -/
def capitalized : List Char → List Char
  | [] => []
  | c :: rest => Text.upperChar c ++ rest

/--
The name made of the segments between underscores, each with its first character in capital form
and the rest as it is.
-/
def pascalCase (s : String) : String :=
  String.ofList ((Text.splitChars '_' s.toList).flatMap capitalized)

/-- A name without the `s` at its end; irregular plurals stay as they are. -/
def singular (s : String) : String :=
  if s.toList.getLast? = some 's' then String.ofList s.toList.dropLast else s

/-! ## Valid names -/

/-- A character that starts a type name. -/
def isNameStart (c : Char) : Bool :=
  'A' ≤ c && c ≤ 'Z'

/-- A character of a type name. -/
def isNameChar (c : Char) : Bool :=
  isNameStart c || ('a' ≤ c && c ≤ 'z') || ('0' ≤ c && c ≤ '9') || c == '_' || c == '\''

/--
Accepts the characters of a type name: a capital letter, then letters, digits, underscores and
apostrophes. One line feed at the end is let pass.
-/
def isTypeNameChars : List Char → Bool
  | [] => false
  | c :: rest =>
    isNameStart c && (if rest.getLast? = some '\n' then rest.dropLast else rest).all isNameChar

/-- A text that is usable as the name of a type. -/
def isTypeName (s : String) : Bool :=
  isTypeNameChars s.toList

/-- A prefix of module names: empty, or type names with dots between them. -/
def isModulePrefix (s : String) : Bool :=
  s == "" || (Text.splitChars '.' s.toList).all isTypeNameChars

end SampleTypes
