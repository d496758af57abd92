/-
TOML text as it is laid out: the entries of a table in order, with the spelling of their keys and
values, the spacing around them and the comments. One name can head several entries, since a table
may be written in parts with other tables between them.
-/
namespace SampleTypes.Toml.Styled

/-- What stands around an entry on its line. -/
structure Margin where
  /-- In front of the entry. -/
  indent : String := ""
  /-- Between the entry and its comment. -/
  gap : String := ""
  comment : String := ""
  /-- The end of the line. -/
  trail : String := "\n"
  deriving DecidableEq, Repr

/-- A key as it is written. -/
structure Key where
  name : String
  /-- How the name is spelled, with the spacing around it. -/
  text : String
  /-- The equals sign behind the key, and the spacing around it. -/
  sep : String := " = "
  /-- A point follows the key, and another key. -/
  isDotted : Bool := false
  deriving DecidableEq, Repr

/-- What a text writes. -/
inductive Kind where
  | truth (b : Bool)
  | inlineTable
  | other
  deriving DecidableEq, Repr

/-- A value as it is written. -/
structure Literal where
  text : String
  kind : Kind := .other
  /-- Spacing that was read with the value, in place of that in front of a comment. -/
  gap : String := ""
  deriving DecidableEq, Repr

/-- The line that opens a table. -/
structure Heading where
  margin : Margin := {}
  /-- The table is an element of an array. -/
  isElement : Bool := false
  /-- The table has no line of its own: it comes about with a table or a value inside of it. -/
  isImplied : Bool := false
  /-- The names on the line, if they stay as they were written. -/
  shown : Option String := none
  deriving DecidableEq, Repr

/-- A part of a table. -/
inductive Entry where
  | space (text : String)
  | comment (margin : Margin)
  | value (key : Key) (literal : Literal) (margin : Margin)
  | table (key : Key) (heading : Heading) (body : List Entry)
  /-- An array of tables. -/
  | tables (key : Key) (elements : List (Heading × List Entry))

/-- What a table holds, in order. -/
abbrev Body := List Entry

/-! ## Names -/

namespace Entry

/-- The key of an entry that has one. -/
def key? : Entry → Option Key
  | .value key _ _ | .table key _ _ | .tables key _ => some key
  | _ => none

/-- The name of an entry that has one. -/
def name? (e : Entry) : Option String :=
  e.key?.map Key.name

/-- The entry has the name. -/
def isNamed (name : String) (e : Entry) : Bool :=
  e.name? == some name

/-- What is in an entry that is a table. -/
def inner : Entry → Body
  | .table _ _ body => body
  | _ => []

/-- The entry is a table, or an array of them. -/
def holdsTables : Entry → Bool
  | .table _ _ _ | .tables _ _ => true
  | _ => false

/-- The entry was a table when it came in, even if it has become an array since. -/
def startsAsTable : Entry → Bool
  | .table _ _ _ => true
  | .tables _ ((heading, _) :: _) => !heading.isElement || heading.isImplied
  | _ => false

end Entry

/-- The entries with a name. -/
def named (name : String) (body : Body) : Body :=
  body.filter (·.isNamed name)

/-- The last entry with a name. -/
def lastNamed? (name : String) (body : Body) : Option Entry :=
  (named name body).getLast?

/-- The names, each as often as it occurs. -/
def names (body : Body) : List String :=
  body.filterMap Entry.name?

/-- Several entries have the name. -/
def isInParts (name : String) (body : Body) : Bool :=
  1 < (named name body).length

/-- The name of the last table. -/
def lastTable? (body : Body) : Option String :=
  (body.filter Entry.startsAsTable).getLast?.bind Entry.name?

/-- Puts another entry in place of the last one with a name. -/
def replaceLast (name : String) (new : Entry) : Body → Body
  | [] => []
  | e :: rest =>
    if e.isNamed name && (named name rest).isEmpty then new :: rest
    else e :: replaceLast name new rest

/-- Puts an entry in place of all with a name, where the first of them is. -/
def replaceAll (name : String) (new : Entry) : Body → Body
  | [] => []
  | e :: rest =>
    if e.isNamed name then new :: rest.filter (!·.isNamed name) else e :: replaceAll name new rest

/-- Puts a value or table under keys with points between them, of which the last one is its own:
every other key leads to an implied table. -/
def underKeys : List Key → Entry → Entry
  | [], e => e
  | key :: rest, e => .table { key with isDotted := true } { isImplied := true } [underKeys rest e]

/-! ## Levels -/

mutual

/-- How deep tables lie in each other. -/
def Entry.levels : Entry → Nat
  | .table _ _ body => bodyLevels body + 1
  | .tables _ elements => elementLevels elements + 1
  | _ => 0

/-- How deep tables lie in the entries. -/
def bodyLevels : Body → Nat
  | [] => 0
  | e :: rest => max e.levels (bodyLevels rest)

/-- How deep tables lie in the elements of an array. -/
def elementLevels : List (Heading × Body) → Nat
  | [] => 0
  | (_, body) :: rest => max (bodyLevels body) (elementLevels rest)

end

/-! ## Ends -/

mutual

/-- The entry is spacing, or ends with it. -/
def Entry.endsInSpace : Entry → Bool
  | .space _ => true
  | .table _ _ body => bodyEndsInSpace body
  | .tables _ elements => elementsEndInSpace elements
  | _ => false

/-- The last entry is spacing, or ends with it. -/
def bodyEndsInSpace : Body → Bool
  | [] => false
  | e :: rest => if rest.isEmpty then e.endsInSpace else bodyEndsInSpace rest

/-- The last element of an array ends with spacing. -/
def elementsEndInSpace : List (Heading × Body) → Bool
  | [] => false
  | (_, body) :: rest => if rest.isEmpty then bodyEndsInSpace body else elementsEndInSpace rest

end

/-! ## Forgetting how headers were written -/

mutual

/-- An entry whose tables are headed by the names that lead to them. A table in parts keeps the
headers of its parts. -/
def Entry.reheaded : Entry → Entry
  | .table key heading body =>
    .table key { heading with shown := none } (reheadedBody (names body) body)
  | .tables key elements => .tables key (reheadedElements elements)
  | e => e

/-- The same for entries, of all the names among which they are. -/
def reheadedBody (all : List String) : Body → Body
  | [] => []
  | e :: rest =>
    (if e.name?.all (fun name => all.count name = 1) then e.reheaded else e) ::
      reheadedBody all rest

/-- The same for the elements of an array. -/
def reheadedElements : List (Heading × Body) → List (Heading × Body)
  | [] => []
  | (heading, body) :: rest =>
    ({ heading with shown := none }, reheadedBody (names body) body) :: reheadedElements rest

end

end SampleTypes.Toml.Styled
