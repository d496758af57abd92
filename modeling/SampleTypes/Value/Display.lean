/-
How messages show a value: the name of its kind, and its display form, in which texts are quoted
and objects list their members.
-/
import SampleTypes.Text.Quoted
import SampleTypes.Value
import SampleTypes.Binary64.Shortest

namespace SampleTypes.Value

/-- The name of a value's kind in messages. -/
def kindName : Value → String
  | .null => "NoneType"
  | .bool _ => "bool"
  | .int _ => "int"
  | .float _ => "float"
  | .string _ => "str"
  | .array _ => "list"
  | .object _ => "dict"

/-- The display form of a truth value. -/
def boolDisplay (b : Bool) : String :=
  if b then "True" else "False"

/-- The display form of a floating-point number. -/
def floatDisplay (x : Binary64) : String :=
  x.text "nan" "inf"

mutual

/-- The display form of a value. -/
def display : Value → String
  | .null => "None"
  | .bool b => boolDisplay b
  | .int n => toString n
  | .float x => floatDisplay x
  | .string s => Text.quoted s
  | .array es => "[" ++ displayElements es ++ "]"
  | .object ms => "\x7b" ++ displayMembers ms ++ "\x7d"

/-- The display forms of elements with a comma and a space between neighbours. -/
def displayElements : List Value → String
  | [] => ""
  | [v] => display v
  | v :: w :: rest => display v ++ ", " ++ displayElements (w :: rest)

/-- The display forms of members with a comma and a space between neighbours. -/
def displayMembers : List (String × Value) → String
  | [] => ""
  | [(k, v)] => Text.quoted k ++ ": " ++ display v
  | (k, v) :: m :: rest => Text.quoted k ++ ": " ++ display v ++ ", " ++ displayMembers (m :: rest)

end

end SampleTypes.Value
