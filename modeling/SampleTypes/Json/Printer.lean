/-
Writing values as JSON text in ASCII: on one line with a space after each comma and colon, or with
one element or member a line.
-/
import SampleTypes.Text.Quoted
import SampleTypes.Value.Sorted
import SampleTypes.Binary64.Shortest

namespace SampleTypes.Json

/-! ## Scalars -/

/-- A code below 2^16 as a `\u` escape. -/
def codeEscapeText (n : Nat) : List Char :=
  '\\' :: 'u' :: Text.hexDigits 4 n

/-- A character inside a string: a short escape, itself if it is printable ASCII, or its code. -/
def charText (c : Char) : List Char :=
  if c = '"' then ['\\', '"']
  else if c = '\\' then ['\\', '\\']
  else if c = '\n' then ['\\', 'n']
  else if c = '\r' then ['\\', 'r']
  else if c = '\t' then ['\\', 't']
  else if c = '\x0c' then ['\\', 'f']
  else if c = '\x08' then ['\\', 'b']
  else if 0x20 ≤ c.toNat ∧ c.toNat ≤ 0x7E then [c]
  else if c.toNat < 0x10000 then codeEscapeText c.toNat
  else
    codeEscapeText (0xD800 + (c.toNat - 0x10000) / 0x400) ++
      codeEscapeText (0xDC00 + (c.toNat - 0x10000) % 0x400)

/-- A string between its quotes. -/
def stringText (s : String) : List Char :=
  '"' :: s.toList.flatMap charText ++ ['"']

/-- A value that is no array and no object. -/
def scalarText : Value → List Char
  | .null => "null".toList
  | .bool b => (if b then "true" else "false").toList
  | .int n => (toString n).toList
  | .float x => (x.text "NaN" "Infinity").toList
  | .string s => stringText s
  | .array _ | .object _ => []

/-! ## On one line -/

mutual

/-- The text of a value. -/
def text : Value → List Char
  | .array es => '[' :: elementsText es ++ [']']
  | .object ms => '\x7b' :: membersText ms ++ ['\x7d']
  | v => scalarText v

/-- The texts of elements with a comma and a space between neighbours. -/
def elementsText : List Value → List Char
  | [] => []
  | [v] => text v
  | v :: w :: rest => text v ++ ',' :: ' ' :: elementsText (w :: rest)

/-- The texts of members with a comma and a space between neighbours. -/
def membersText : List (String × Value) → List Char
  | [] => []
  | [(k, v)] => stringText k ++ ':' :: ' ' :: text v
  | (k, v) :: m :: rest =>
    stringText k ++ ':' :: ' ' :: text v ++ ',' :: ' ' :: membersText (m :: rest)

end

/-- A value as JSON text on one line. -/
def print (v : Value) : String :=
  String.ofList (text v)

/-- The one text that all values share which differ only in the order of members. -/
def canonical (v : Value) : String :=
  print v.sorted

/-! ## On several lines -/

/-- A new line, indented by two spaces a level. -/
def newLine (level : Nat) : List Char :=
  '\n' :: List.replicate (2 * level) ' '

mutual

/-- The text of a value that starts at the given level of indentation. -/
def indentedText (level : Nat) : Value → List Char
  | .array [] => ['[', ']']
  | .array es => '[' :: indentedElements (level + 1) es ++ newLine level ++ [']']
  | .object [] => ['\x7b', '\x7d']
  | .object ms => '\x7b' :: indentedMembers (level + 1) ms ++ newLine level ++ ['\x7d']
  | v => scalarText v

/-- Elements, each on a line of its own, with a comma after all but the last. -/
def indentedElements (level : Nat) : List Value → List Char
  | [] => []
  | [v] => newLine level ++ indentedText level v
  | v :: w :: rest =>
    newLine level ++ indentedText level v ++ ',' :: indentedElements level (w :: rest)

/-- Members, each on a line of its own, with a comma after all but the last. -/
def indentedMembers (level : Nat) : List (String × Value) → List Char
  | [] => []
  | [(k, v)] => newLine level ++ stringText k ++ ':' :: ' ' :: indentedText level v
  | (k, v) :: m :: rest =>
    newLine level ++ stringText k ++ ':' :: ' ' :: indentedText level v ++
      ',' :: indentedMembers level (m :: rest)

end

/-- A value as JSON text with one element or member a line, indented by two spaces a level. -/
def printIndented (v : Value) : String :=
  String.ofList (indentedText 0 v)

end SampleTypes.Json
