/-
The texts between brackets and braces, cut at the commas that separate elements. Cutting goes by
what the first element is: a string, an inline table, an array, or anything else.
-/
import SampleTypes.Text.Blank
import SampleTypes.Toml.StringText

namespace SampleTypes.Toml

open Text (trimmed)

/-- Either kind of quote. -/
def isQuote (c : Char) : Bool :=
  c == '"' || c == '\''

/-- The characters between the first and the last one, without white space at either end. -/
def contents (s : List Char) : List Char :=
  trimmed (inner 1 s)

/-- An array whose first element is a string. -/
def startsWithString (s : List Char) : Bool :=
  (contents s).head?.any isQuote

/-! ## Arrays of strings -/

/-- A string whose last character is the quote it starts with, and not escaped; also no text. -/
def isWholeString (s : List Char) : Bool :=
  match s with
  | [] => true
  | quote :: rest =>
    s.getLast? == some quote && !startsEscape (rest.reverse.drop 1)

/-- A string in three quotes that is not closed yet. -/
def isOpenLong (s : List Char) : Bool :=
  match s with
  | quote :: a :: b :: _ =>
    let fromEnd := s.reverse
    a == quote && b == quote && fromEnd[1]? != some quote && fromEnd[2]? != some quote
  | _ => false

/-- The string that starts a text is not closed at its end. -/
def needsMore (s : List Char) : Bool :=
  let s := trimmed s
  !isWholeString s || isOpenLong s

/-- Puts pieces that a comma inside a string has parted together again, up to a closed string. -/
def closeString (piece : List Char) : List (List Char) → ReadM (List Char × List (List Char))
  | [] => if needsMore piece then broken .pastEnd else .ok (piece, [])
  | next :: rest =>
    if needsMore piece then closeString (piece ++ ',' :: next) rest else .ok (piece, next :: rest)

/-- Puts the pieces of strings together again; the last piece is let pass. -/
def closeStrings : Nat → List (List Char) → ReadM (List (List Char))
  | 0, pieces => .ok pieces
  | _ + 1, [] => .ok []
  | _ + 1, [piece] => .ok [piece]
  | fuel + 1, piece :: next :: rest => do
    let (first, others) ← closeString piece (next :: rest)
    let more ← closeStrings fuel others
    return first :: more

/-! ## Arrays of inline tables -/

/-- What is known of the tables in an array at a place. -/
structure TableScan where
  /-- The characters before the place, the nearest one first. -/
  before : List Char
  /-- The characters of the table, the nearest one first. -/
  table : List Char
  /-- The number of open braces, which never falls below one again. -/
  depth : Nat
  inString : Bool

/-- The state behind a quote, which is passed over when it is escaped in a string. -/
def TableScan.quote (s : TableScan) : TableScan :=
  let isString := s.inString != (s.inString && startsEscape s.before)
  { s with inString := !isString }

/-- The state behind one more character. -/
def TableScan.push (s : TableScan) (c : Char) : TableScan :=
  { s with before := c :: s.before, table := c :: s.table }

/--
The texts of the tables in an array. Between a table and the next opening brace everything is passed
over, and so is a table that is not closed; `gap` counts what was passed over since the last table.
-/
def tableTexts (s : TableScan) : (gap : Option Nat) → List Char → List (List Char)
  | _, [] => []
  | some gap, c :: rest =>
    if gap ≠ 0 ∧ c = '\x7b' then tableTexts { s with before := c :: s.before, table := [c] } none rest
    else tableTexts { s with before := c :: s.before } (some (gap + 1)) rest
  | none, c :: rest =>
    let s := if isQuote c then s.quote else s
    let s := if !s.inString && c == '\x7b' then { s with depth := s.depth + 1 } else s
    if s.inString || c != '\x7d' then tableTexts (s.push c) none rest
    else if 1 < s.depth then tableTexts { s.push c with depth := s.depth - 1 } none rest
    else (c :: s.table).reverse :: tableTexts (s.push c) (some 0) rest

/-- The texts of the tables in an array, the brackets of which are part of the text. -/
def arrayOfTables (s : List Char) : List (List Char) :=
  match s.dropLast with
  | bracket :: first :: rest =>
    tableTexts ⟨[first, bracket], [first], if first = '\x7b' then 1 else 0, false⟩ none rest
  | _ => []

/-! ## Arrays of arrays -/

/-- Cuts at the commas outside of brackets. -/
def cutOutside (depth : Int) : List Char → List (List Char)
  | [] => [[]]
  | c :: rest =>
    if c = '[' then Text.consLine c (cutOutside (depth + 1) rest)
    else if c = ']' then Text.consLine c (cutOutside (depth - 1) rest)
    else if c = ',' ∧ depth = 0 then [] :: cutOutside depth rest
    else Text.consLine c (cutOutside depth rest)

/-! ## Elements -/

/-- The texts of the elements of an array; some may be blank. -/
def elementTexts (s : List Char) : ReadM (List (List Char)) :=
  let body := inner 1 s
  let startsWithArray := '[' ∈ body ∧ (trimmed (body.takeWhile (· != '['))).isEmpty
  if startsWithArray then .ok (cutOutside 0 body)
  else
    let pieces := if (contents s).head? = some '\x7b' then arrayOfTables s else Text.splitChars ',' body
    if startsWithString s then closeStrings pieces.length pieces else .ok pieces

/-! ## Inline tables -/

/-- A text that starts and ends like a value. -/
def looksLikeValue (value : List Char) : ReadM Bool :=
  match value, value.getLast? with
  | first :: _, some last =>
    .ok ((isQuote first && first == last) || first == '-' || Text.isDecimal first ||
      value = "true".toList || value = "false".toList || (first == '[' && last == ']') ||
      (first == '\x7b' && last == '\x7d'))
  | _, _ => broken .pastEnd

/-- An entry of an inline table ends where what follows its equals sign ends like a value. -/
def endsEntry (piece : List Char) : ReadM Bool :=
  if '=' ∈ piece then looksLikeValue (trimmed ((piece.dropWhile (· != '=')).drop 1))
  else faulty .inlineEntry

/-- The texts of the entries: pieces between commas, put together until each ends like a value. -/
def entries (piece : List Char) : List (List Char) → ReadM (List (List Char))
  | [] => do
    if ← endsEntry piece then return [piece] else faulty .inlineValue
  | next :: rest => do
    if ← endsEntry piece then return piece :: (← entries next rest)
    else entries (piece ++ ',' :: next) rest

/-- The texts of the entries of an inline table. -/
def entryTexts (s : List Char) : ReadM (List (List Char)) :=
  match Text.splitChars ',' (inner 1 s) with
  | [] => .ok []
  | [only] => if (trimmed only).isEmpty then .ok [] else entries only []
  | first :: rest => entries first rest

end SampleTypes.Toml
