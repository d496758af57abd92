/-
The table that a TOML text writes. The text is made flat and read line by line: a header opens a
table, and an assignment gives a name in the table that was opened last a value. A table may be
opened once only, and a name is given a value once only. Lines that are neither are passed over.

A string over several lines is given to its name in the table that was opened last, even if its key
has points.
-/
import SampleTypes.Text.Reading
import SampleTypes.Toml.Flat
import SampleTypes.Toml.Header
import SampleTypes.Toml.ValueText

namespace SampleTypes.Toml

open Text (trimmed)

/-! ## Errors -/

/-- Why a text writes no table. -/
inductive Error where
  /-- A fault, with its place and the number of characters before it. -/
  | invalid (fault : Fault) (position : Text.Position) (offset : Nat)
  | breakdown (b : Breakdown)
  deriving DecidableEq, Repr

/-- The words for an error. -/
def Error.message : Error → String
  | .invalid fault position offset =>
    fault.message ++ " (line " ++ toString position.line ++ " column " ++
      toString position.column ++ " char " ++ toString offset ++ ")"
  | .breakdown b => b.message

/-- The error for a failure behind so many characters of a text. -/
def Failure.toError (text : List Char) (offset : Nat) : Failure → Error
  | .fault f => .invalid f (.after (text.take offset)) offset
  | .breakdown b => .breakdown b

/-! ## Lines -/

/-- What was read so far. -/
structure Draft where
  root : Value := .table false []
  /-- The place that assignments go to. -/
  place : Place := []
  /-- The names of tables that were made on the way to others. -/
  implicit : List String := []
  pending : Option Pending := none

namespace Draft

/-- The value that assignments go to. -/
def level (d : Draft) : Value :=
  valueAt d.place d.root

/-- The same with another value in its place. -/
def withLevel (d : Draft) (v : Value) : Draft :=
  { d with root := setAt v d.place d.root }

/-- The line closes the string over several lines, or the array, that a text starts. -/
def closes (text line : List Char) : ReadM Bool :=
  if text.head? = some '[' then
    match line.getLast? with
    | some c => .ok (c == ']')
    | none => broken .pastEnd
  else .ok (2 < line.length && (line.reverse.take 3).all (fun c => some c == text.head?))

/-- Opens the table of a header. -/
def openTable (d : Draft) (line : List Char) : ReadM Draft := do
  let (names, isArray) ← readHeader line
  let o ← Opening.enterAll { root := d.root, implicit := d.implicit } isArray names
  return { root := o.root, place := o.place, implicit := o.implicit }

section

variable (halves : Text.Halves)

/-- Goes on with a string over several lines. -/
def continueString (d : Draft) (p : Pending) (line : List Char) : ReadM Draft := do
  let text := p.text ++ line
  if ← closes text line then
    let v ← read halves true text
    let d := { d with pending := none }
    match d.level with
    | .table isInline ms => return d.withLevel (.table isInline (Assoc.set p.key v ms))
    | _ => return d
  else
    let joinsNext := endsInEscape text
    return { d with pending := some ⟨p.key, continued text joinsNext, joinsNext⟩ }

/-- Follows a line outside of strings over several lines; it has no spacing around it. -/
def followLine (d : Draft) (line : List Char) : ReadM Draft := do
  match line with
  | [] => return d
  | '[' :: _ => d.openTable line
  | '\x7b' :: _ =>
    if line.getLast? != some '\x7d' then faulty .brokenInlineTable
    return d.withLevel (← assignEntries (read halves) d.level line)
  | _ =>
    if '=' ∈ line then
      let (v, pending) ← assign (read halves) d.level line
      return { d.withLevel v with pending := pending }
    else return d

/-- Follows a line. The lines of a string keep their spacing from the second one on, unless the one
before joins them to it. -/
def follow (d : Draft) (line : List Char) : ReadM Draft :=
  match d.pending with
  | none => followLine halves d (trimmed line)
  | some p =>
    let line := if p.joinsNext || !('\n' ∈ p.text) then trimmed line else line
    if line.isEmpty && p.joinsNext then .ok d else continueString halves d p line

end

end Draft

/-- Follows lines in order; `offset` characters stand before them. -/
def followAll (halves : Text.Halves) (text : List Char) (offset : Nat) (d : Draft) :
    List (List Char) → Except Error Draft
  | [] => .ok d
  | line :: rest => do
    let d ← (d.follow halves line).mapError (Failure.toError text offset)
    followAll halves text (offset + line.length + 1) d rest

/-- The members of the outermost table. -/
def Draft.members (d : Draft) : Members :=
  match d.root with
  | .table _ ms => ms
  | _ => []

/-- The table that a text writes, or the first error. -/
def parse (halves : Text.Halves) (text : String) : Except Error Members := do
  let cs := text.toList
  let flat ← (flatten cs).mapError (fun stop => stop.failure.toError cs stop.offset)
  let d ← followAll halves cs 0 {} (Text.splitChars '\n' flat)
  return d.members

end SampleTypes.Toml
