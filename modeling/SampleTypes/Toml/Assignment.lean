/-
Assignments: a key, an equals sign and a value on one line, or the first line of a string that goes
on. The key may have points, and then leads through tables, which are made where they are missing.

An assignment goes to a value that should be a table. Other values are let come this far: a key with
points breaks down at them, and any other key counts as one that is there already.
-/
import SampleTypes.Toml.Bracketed
import SampleTypes.Toml.DateText

namespace SampleTypes.Toml

open Text (trimmed)

/-! ## Quotes -/

/-- Cuts at single quotes, as long as the pieces so far leave one open. -/
def closeSingles : List (List Char) → List (List Char) → List (List Char) × List (List Char)
  | singles, [] => (singles, [])
  | singles, double :: rest =>
    if singles.length % 2 == 0 then
      let last := (singles.getLast?.getD []) ++ '"' :: double
      closeSingles (singles.dropLast ++ Text.splitChars '\'' last) rest
    else (singles, double :: rest)

/--
The pieces of a line between its quotes: every other one stands outside. A single quote counts up to
the first double one, or where it stands in front of it.
-/
def splitAtQuotes (line : List Char) : List (List Char) :=
  let doubles := Text.splitChars '"' line
  let (singles, doubles) :=
    match doubles with
    | first :: next :: rest =>
      if '\'' ∈ first then closeSingles (Text.splitChars '\'' first) (next :: rest)
      else ([], doubles)
    | doubles => ([], doubles)
  match doubles with
  | [] => singles
  | first :: rest => singles ++ Text.splitChars '\'' first ++ rest

/-! ## The equals sign -/

/-- The number of occurrences of a word up to the first one outside of quotes, that one included. -/
def countUpToOutside (word : List Char) : (isQuoted : Bool) → List (List Char) → Nat
  | _, [] => 1
  | isQuoted, piece :: rest =>
    if !isQuoted && Text.hasWord word piece then 1
    else Text.countWord word piece + countUpToOutside word (!isQuoted) rest

/-- What stands after an equals sign can be a value and needs no test. -/
def canBeValue (s : List Char) : Bool :=
  match s with
  | [] => true
  | c :: _ =>
    c ∈ [' ', '\t', '\'', '"', '[', '\x7b'] || trimmed s = "true".toList ||
      trimmed s = "false".toList

/-- A line cut at an equals sign. -/
structure Sides where
  key : List Char
  value : List Char
  /-- All that was tried as the value is regular as a number. -/
  isRegular : Bool

/-- A text is a number, or starts like a date or a time. -/
def startsPlainValue (s : List Char) : ReadM Bool := do
  if (float? s).isSome then return true
  else return (← date? s).isSome || (clock? s).isSome

/-- Moves on from an equals sign to a later one until a value, a number or a date stands behind it. -/
def sidesFrom (line : List Char) : (fuel : Nat) → (count : Nat) → Sides → ReadM Sides
  | 0, _, _ => faulty .looseValue
  | fuel + 1, count, sides => do
    if canBeValue sides.value then return sides
    else if ← startsPlainValue sides.value then return sides
    else
      let pieces := Text.piecesUpTo (count + 1) ['='] line
      let value := pieces.getLast?.getD []
      if value = sides.value then faulty .looseValue
      else
        sidesFrom line fuel (count + 1)
          ⟨Text.joinPieces ['='] pieces.dropLast, value, sides.isRegular && isRegular value⟩

/-- The text without the underscores in it, if it starts with a digit. -/
def withoutUnderscores (s : List Char) : List Char :=
  if s.head?.any Text.isDecimal then s.filter (· != '_') else s

/-- Cuts a line at the equals sign that ends its key. -/
def sides (line : List Char) : ReadM Sides :=
  let count := countUpToOutside ['='] false (splitAtQuotes line)
  let pieces := Text.piecesUpTo count ['='] line
  let value := pieces.getLast?.getD []
  (sidesFrom line (line.length + 2) count
    ⟨Text.joinPieces ['='] pieces.dropLast, withoutUnderscores value, isRegular value⟩).map
      (fun s => { s with key := trimmed s.key, value := trimmed s.value })

/-! ## Keys -/

/-- The names in a key with points; points in quotes do not part them. -/
def dottedNames : (isQuoted : Bool) → List (List Char) → List (List Char)
  | _, [] => []
  | true, piece :: rest => piece :: dottedNames false rest
  | false, piece :: rest => Text.splitChars '.' piece ++ dottedNames true rest

/-- The names of the tables that a key leads through, and the name in the last of them. -/
def keyPath (key : List Char) : ReadM (List String × String) :=
  if '.' ∈ key then
    let names := (dottedNames false (splitAtQuotes key)).reverse.dropWhile List.isEmpty
    match names with
    | [] => broken .pastEnd
    | last :: above =>
      .ok (((above.filter (fun name => !name.isEmpty)).reverse).map String.ofList,
        String.ofList (trimmed last))
  else
    match key, key.getLast? with
    | first :: _, some last =>
      if isQuote first && first == last then
        match replaceEscapes (inner 1 key) with
        | .ok name => .ok ([], String.ofList name)
        | .error f => faulty f
      else .ok ([], String.ofList key)
    | _, _ => broken .pastEnd

/-! ## Strings over several lines -/

/-- A string over several lines that is not closed yet. -/
structure Pending where
  key : String
  text : List Char
  /-- The last line ends in a backslash, which joins the next one to it. -/
  joinsNext : Bool

/-- A value text that goes on: a line feed is kept, unless a backslash at the end takes it away. -/
def continued (s : List Char) (joinsNext : Bool) : List Char :=
  if joinsNext then s.dropLast else s ++ ['\n']

/-- Puts pieces together from the end until they start with a quote. -/
def lastString (piece : List Char) : List (List Char) → ReadM (List Char)
  | [] => .ok piece
  | next :: above =>
    match piece with
    | [] => broken .pastEnd
    | c :: _ => if isQuote c then .ok piece else lastString (next ++ ',' :: piece) above

/-- The last string of an array that is not closed, and any other value text as it is. -/
def stringAtEnd (value : List Char) : ReadM (List Char) :=
  if value.head? = some '[' && value.getLast? != some ']' && startsWithString value then
    match (Text.splitChars ',' (trimmed (value.drop 1))).reverse with
    | [] => .ok []
    | last :: above => lastString last above
  else .ok value

/-- A text starts with three quotes and does not end with three more. -/
def isOpenString : List Char → ReadM Bool
  | [] => broken .pastEnd
  | a :: rest =>
    if !isQuote a then .ok false
    else
      match rest with
      | [] => broken .pastEnd
      | b :: rest =>
        if b != a then .ok false
        else
          match rest with
          | [] => broken .pastEnd
          | c :: _ => .ok (c == a && !(3 < rest.length && rest.reverse.take 3 == [a, a, a]))

/-- What is pending of a value text, if its string goes on. -/
def pending? (key : String) (value : List Char) : ReadM (Option Pending) := do
  if value.length < 3 then return none
  else
    let s ← stringAtEnd value
    if ← isOpenString s then
      let joinsNext := endsInEscape s
      return some ⟨key, continued value joinsNext, joinsNext⟩
    else return none

/-! ## Assigning -/

/-- A way to read values: whether the text is regular as a number, and the text. -/
abbrev ReadValue := Bool → List Char → ReadM Value

/-- Some part of a text is the word. -/
def textContains (s word : String) : Bool :=
  Text.hasWord word.toList s.toList

/-- Changes the value at the end of a path, on which missing tables are made. -/
def changeAt {α : Type} (change : Value → ReadM (Value × α)) :
    List String → Value → ReadM (Value × α)
  | [], v => change v
  | name :: path, v =>
    match v with
    | .table isInline ms =>
      match Assoc.get? name ms with
      | some inner =>
        (changeAt change path inner).map (fun (inner, a) => (.table isInline (Assoc.set name inner ms), a))
      | none =>
        (changeAt change path (.table false [])).map (fun (inner, a) =>
          (.table isInline (Assoc.set name inner ms), a))
    | .string s =>
      if textContains s name then broken .keyOfText else broken (.notAssignable v.fullKindName)
    | .array _ => broken .keyOfArray
    | v => broken (.noMembers v.fullKindName)

/-- Gives a name in a table a value, unless it has one. -/
def assignName (read : ReadValue) (name : String) (s : Sides) (level : Value) :
    ReadM (Value × Option Pending) := do
  let pending ← pending? name s.value
  let value? ← if pending.isSome then pure none else (read s.isRegular s.value).map some
  match level with
  | .table isInline ms =>
    if (Assoc.get? name ms).isSome then faulty .duplicateKey
    match value? with
    | some v => return (.table isInline (Assoc.set name v ms), none)
    | none => if name = "" then broken .unassigned else return (level, pending)
  | _ => faulty .duplicateKey

/-- Follows the assignment on a line, in a table. -/
def assign (read : ReadValue) (level : Value) (line : List Char) :
    ReadM (Value × Option Pending) := do
  let s ← sides line
  let (path, name) ← keyPath s.key
  changeAt (assignName read name s) path level

/-- Follows assignments in order, up to the first string that goes on. -/
def assignAll (read : ReadValue) (level : Value) : List (List Char) → ReadM Value
  | [] => .ok level
  | line :: rest => do
    let (level, pending) ← assign read level line
    if pending.isSome then return level else assignAll read level rest

/-- Follows the entries of an inline table, in a table. -/
def assignEntries (read : ReadValue) (level : Value) (s : List Char) : ReadM Value := do
  assignAll read level (← entryTexts s)

end SampleTypes.Toml
