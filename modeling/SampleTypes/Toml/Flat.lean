/-
A TOML text with every statement on one line: comments are blanked, and so are the line feeds inside
of arrays. The characters keep their places. Line feeds inside of strings stay, but one behind two
quotes becomes a third, so that the quotes of a string stay together.

Keys are checked on the way: what they may hold, that an equals sign follows on the line, and that
quotes are closed.
-/
import SampleTypes.Text.Alphanumeric
import SampleTypes.Text.Blank
import SampleTypes.Toml.Bracketed

namespace SampleTypes.Toml.Flat

/-- Where in a key a place is. -/
inductive KeyPlace where
  | outside
  | inside
  /-- The key, or a name of it, has ended. -/
  | behind
  deriving DecidableEq, Repr

/-- What is known at a place. -/
structure Scan where
  /-- The flat characters before the place, the nearest one first. -/
  done : List Char := []
  /-- The number of arrays that are open. -/
  openArrays : Int := 0
  /-- The quote of the string that is open. -/
  quote : Option Char := none
  /-- The string that is open, or its last part, goes over several lines. -/
  isLong : Bool := false
  inHeader : Bool := false
  inArrayHeader : Bool := false
  inComment : Bool := false
  /-- Nothing but spacing stands before the place on its line. -/
  atStart : Bool := true
  key : KeyPlace := .outside
  /-- The key has points. -/
  isDotted : Bool := false

namespace Scan

/-- The state behind one more character. -/
def push (s : Scan) (c : Char) : Scan :=
  { s with done := c :: s.done }

/--
The characters before a place, the nearest one first. In front of the first character stand those of
the end, as if the text were a ring.
-/
def before (s : Scan) (ahead : List Char) : List Char :=
  s.done ++ ahead.reverse ++ s.done

/-! ## Quotes -/

/-- Opens the string that a quote starts, or closes it. -/
def toggle (s : Scan) (quote : Char) : Scan :=
  { s with quote := if s.quote.isSome then none else some quote }

/-- Opens the string over several lines that a third quote starts, or closes it. -/
def toggleLong (s : Scan) (quote : Char) : Scan :=
  { s with isLong := !s.isLong, quote := if s.isLong then none else some quote }

/-- The number of quotes right before a place, up to two. -/
def quotesBefore (quote : Char) (before : List Char) : Nat :=
  ((before.take 2).takeWhile (· == quote)).length

/-- The state at a single quote. -/
def atSingle (s : Scan) (ahead : List Char) : Scan :=
  if quotesBefore '\'' (s.before ahead) = 2 then s.toggleLong '\'' else s.toggle '\''

/-- The state at a double quote. Backslashes in front are looked at, unless there is one quote. -/
def atDouble (s : Scan) (ahead : List Char) : Scan :=
  let before := s.before ahead
  match quotesBefore '"' before with
  | 2 => if startsEscape (before.drop 2) then s else s.toggleLong '"'
  | 0 => if startsEscape before then s else s.toggle '"'
  | _ => s.toggle '"'

/-- The state at a character, as far as quotes go. -/
def atQuote (s : Scan) (c : Char) (ahead : List Char) : Scan :=
  if c = '\'' ∧ s.quote ≠ some '"' then s.atSingle ahead
  else if c = '"' ∧ s.quote ≠ some '\'' then s.atDouble ahead
  else s

/-! ## Brackets -/

/-- Outside of strings and headers. -/
def isPlain (s : Scan) : Bool :=
  s.quote.isNone && !s.inHeader && !s.inArrayHeader

/-- The state at an opening bracket. -/
def atOpening (s : Scan) (rest : List Char) : Scan :=
  if !s.isPlain then s
  else if !s.atStart then { s with openArrays := s.openArrays + 1 }
  else if rest.head? = some '[' then { s with inArrayHeader := true }
  else { s with inHeader := true }

/-- The state at a closing bracket. -/
def atClosing (s : Scan) : Scan :=
  if s.quote.isSome then s
  else if s.inHeader then { s with inHeader := false }
  else if s.inArrayHeader then
    if s.done.head? = some ']' then { s with inArrayHeader := false } else s
  else { s with openArrays := s.openArrays - 1 }

/-- The state at a character, as far as brackets go. -/
def atBracket (s : Scan) (c : Char) (rest : List Char) : Scan :=
  if c = '[' then s.atOpening rest else if c = ']' then s.atClosing else s

/-! ## Lines -/

/-- Joins a line feed in a string to two quotes before it; a third one gives way to a space. -/
def joinQuotes (s : Scan) : Scan :=
  match s.done with
  | a :: b :: rest =>
    if isQuote a && b == a then
      match rest with
      | c :: rest => { s with done := a :: a :: b :: (if c = a then ' ' else c) :: rest }
      | [] => s.push a
    else s.push '\n'
  | _ => s.push '\n'

/-- The state behind a line feed. -/
def behindLine (s : Scan) : Except Fault Scan :=
  if s.isLong then .ok s.joinQuotes
  else if s.quote.isSome then .error .unbalancedQuotes
  else if s.openArrays ≠ 0 then .ok (s.push ' ')
  else .ok { s.push '\n' with atStart := true }

/-- The state behind a character, which starts a key if it is the first one on a line. -/
def behindFirst (s : Scan) (c : Char) : Except Fault Scan :=
  if !s.atStart || c = ' ' || c = '\t' then .ok (s.push c)
  else if s.inHeader || s.inArrayHeader then .ok { s.push c with atStart := false }
  else if c = '=' then .error .emptyKey
  else .ok { s.push c with atStart := false, key := .inside }

/-! ## Keys -/

/-- A character of a name without quotes. -/
def isNameChar (c : Char) : Bool :=
  Text.isAlphanumeric c || c == '_' || c == '-'

/-- The state behind spacing or a point, where the next name of a key may start. -/
def beforeName (s : Scan) (c : Char) (rest : List Char) : ReadM Scan :=
  match rest with
  | [] => broken .pastEnd
  | next :: _ =>
    if Text.isBlank next || next = '.' then .ok (s.push c)
    else .ok { s.push c with key := .inside }

/-- The state behind the character at which a key ends. -/
def endKey (s : Scan) (c : Char) : ReadM Scan :=
  if c = '=' then .ok { s.push c with key := .outside, isDotted := false }
  else faulty (.keyCharacter c)

/-- The state behind a character of a key. -/
def behindKey (s : Scan) (c : Char) (rest : List Char) : ReadM Scan :=
  if c = '\n' then faulty (.keyWithoutValue false)
  else
    match s.quote, s.key with
    | some quote, _ =>
      if c = quote ∧ !startsEscape s.done then .ok { s.push c with key := .behind, quote := none }
      else .ok (s.push c)
    | none, .behind =>
      if c = '.' then { s with isDotted := true }.beforeName c rest
      else if Text.isBlank c then if s.isDotted then s.beforeName c rest else .ok (s.push c)
      else s.endKey c
    | none, _ =>
      if Text.isBlank c then .ok { s.push c with key := .behind }
      else if c = '.' then .ok { s.push c with isDotted := true }
      else if isNameChar c then .ok (s.push c)
      else if s.isDotted && s.done.head? == some '.' && isQuote c then
        .ok { s.push c with quote := some c }
      else s.endKey c

/-! ## Steps -/

/-- The state behind a character outside of keys. -/
def behindChar (s : Scan) (c : Char) (rest : List Char) : Except Fault Scan :=
  if s.inComment && c != '\n' then .ok (s.push ' ')
  else
    let s := { s with inComment := false }.atQuote c (c :: rest)
    if c = '#' ∧ s.isPlain then .ok { s.push ' ' with inComment := true }
    else if c = '\n' then s.behindLine
    else (s.atBracket c rest).behindFirst c

/-- The state behind a character; `rest` follows it. -/
def step (s : Scan) (c : Char) (rest : List Char) : ReadM Scan :=
  if s.key = .outside then (s.behindChar c rest).mapError .fault else s.behindKey c rest

/-- What is wrong with a text that ends here. -/
def atEnd (s : Scan) : ReadM (List Char) :=
  if s.key ≠ .outside then faulty (.keyWithoutValue true)
  else if s.quote.isSome then faulty .unterminatedString
  else .ok s.done.reverse

end Scan

/-- A failure with the number of characters before it. -/
structure Stop where
  failure : Failure
  offset : Nat

/-- Goes on through a text. -/
def scan (s : Scan) : List Char → Except Stop (List Char)
  | [] => s.atEnd.mapError (⟨·, s.done.length⟩)
  | c :: rest =>
    match s.step c rest with
    | .ok s => scan s rest
    | .error failure => .error ⟨failure, s.done.length⟩

end Flat

/-- The flat form of a text. -/
def flatten (text : List Char) : Except Flat.Stop (List Char) :=
  Flat.scan {} text

end SampleTypes.Toml
