/-
Writing entries as they are laid out. The names in a header are those that lead to the table, unless
the header keeps its own. An implied table has a header only if a value or comment stands in it,
or a key with points.
-/
import SampleTypes.Toml.Key
import SampleTypes.Toml.Styled.Entry

namespace SampleTypes.Toml.Styled

/-! ## Keys -/

/-- A character of a name between quotes. -/
def quotedChar (c : Char) : List Char :=
  let hex (n : Nat) : Char := (Nat.digitChar n)
  if c = '"' then ['\\', '"']
  else if c = '\\' then ['\\', '\\']
  else if c = '\x08' then ['\\', 'b']
  else if c = '\x1b' then ['\\', 'e']
  else if c = '\t' then ['\\', 't']
  else if c = '\n' then ['\\', 'n']
  else if c = '\x0c' then ['\\', 'f']
  else if c = '\r' then ['\\', 'r']
  else if c.toNat < 32 ∨ c.toNat = 127 then
    ['\\', 'u', '0', '0', hex (c.toNat / 16), hex (c.toNat % 16)]
  else [c]

/-- A key with a name, spelled without quotes if it can be. -/
def Key.ofName (name : String) : Key where
  name := name
  text :=
    if !name.isEmpty && name.toList.all isBare then name
    else "\"" ++ String.ofList (name.toList.flatMap quotedChar) ++ "\""

/-- A key behind the names that lead to it. -/
def Key.below (lead : Option String) (key : Key) : String :=
  match lead with
  | some lead => lead ++ "." ++ key.text
  | none => key.text

/-! ## Headers -/

/-- What follows an entry on its line. -/
def Margin.ending (m : Margin) : String :=
  m.gap ++ m.comment ++ m.trail

/-- The line of a comment. -/
def Margin.line (m : Margin) : String :=
  m.indent ++ m.comment ++ m.trail

/-- The entry stands in the lines below the header of its table: it is a value, a comment, or a table
that keys with points make. -/
def Entry.isInLines : Entry → Bool
  | .value _ _ _ | .comment _ => true
  | e => e.key?.any Key.isDotted

/-- A table has a line of its own with these entries. -/
def Heading.isWritten (h : Heading) (isDotted : Bool) (body : Body) : Bool :=
  !h.isImplied || !isDotted && body.any Entry.isInLines

/-- The line that opens a table, or the blank line in front of one without a line. -/
def Heading.line (h : Heading) (isDotted : Bool) (path : String) (body : Body) : String :=
  let m := h.margin
  if h.isWritten isDotted body then
    let header := if h.isElement then "[[" ++ path ++ "]]" else "[" ++ path ++ "]"
    let feed := if '\n' ∈ m.trail.toList ∨ (names body).isEmpty then "" else "\n"
    m.indent ++ header ++ m.ending ++ feed
  else if m.indent = "\n" then "\n"
  else ""

/-- The line that opens an element of an array. -/
def Heading.elementLine (h : Heading) (path : String) : String :=
  h.margin.indent ++ "[[" ++ path ++ "]]" ++ h.margin.ending

/-! ## Entries -/

mutual

/-- An entry of the table that a path of names leads to, of which the last one may be followed by
a point. -/
def entryText (isDotted : Bool) (path : String) : Entry → String
  | .space text => text
  | .comment margin => margin.line
  | .value key literal margin =>
    margin.indent ++ key.below (if isDotted then some path else none) ++ key.sep ++ literal.text
      ++ margin.ending
  | .table key heading body =>
    let startsAnew := heading.isImplied && key.isDotted && !isDotted
    let path := heading.shown.getD (key.below (if startsAnew then none else some path))
    heading.line key.isDotted path body ++ bodyText key.isDotted path body
  | .tables key elements => elementsText (key.below (some path)) elements

/-- The entries of a table. -/
def bodyText (isDotted : Bool) (path : String) : Body → String
  | [] => ""
  | e :: rest => entryText isDotted path e ++ bodyText isDotted path rest

/-- The elements of an array of tables. -/
def elementsText (path : String) : List (Heading × Body) → String
  | [] => ""
  | (heading, body) :: rest =>
    heading.elementLine path ++ bodyText false path body ++ elementsText path rest

end

/-- A table that lies in no other one. -/
def tableText (key : Key) (heading : Heading) (body : Body) : String :=
  heading.line key.isDotted key.text body ++ bodyText key.isDotted key.text body

end SampleTypes.Toml.Styled
