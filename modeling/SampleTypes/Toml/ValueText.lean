/-
Reading the text of a value: its first character says what it is. The elements of an array are of
one kind.
-/
import SampleTypes.Toml.Assignment

namespace SampleTypes.Toml

open Text (trimmed)

/-- The kind of an element, of which an array has one only: days and moments are of one kind. -/
def elementKind (v : Value) : String :=
  match v with
  | .moment m => (Value.date m.date).kindName
  | v => v.kindName

/-- Reads element texts, of which blank ones are passed over; all elements are of the kind. -/
def readElements (read : ReadValue) : (kind : Option String) → List (List Char) → ReadM (List Value)
  | _, [] => .ok []
  | kind, text :: rest =>
    let text := trimmed text
    if text.isEmpty then readElements read kind rest
    else do
      let v ← read true text
      if kind.any (· != elementKind v) then faulty .mixedArray
      let more ← readElements read (some (elementKind v)) rest
      return v :: more

/-- Reads a text with other capitals than those of a truth value. -/
def isCapitalBoolean (s : List Char) : Bool :=
  let word := String.ofList (s.map Char.toLower)
  word = "true" || word = "false"

/-- Reads a time, a date or a number. -/
def readPlain : ReadValue := fun isRegular text =>
  match clock? text with
  | some clock => clock.value.mapError .fault
  | none => do
    match ← date? text with
    | some v => return v
    | none => if isRegular then (number text).mapError .fault else faulty .irregularNumber

/-- Reads a value. A value inside of another one has a shorter text; `fuel` bounds the depth. -/
def readValue (halves : Text.Halves) : (fuel : Nat) → ReadValue
  | 0, _, _ => faulty .emptyValue
  | fuel + 1, isRegular, text =>
    if text = "true".toList then .ok (.bool true)
    else if text = "false".toList then .ok (.bool false)
    else if isCapitalBoolean text then faulty .capitalBoolean
    else
      match text with
      | [] => faulty .emptyValue
      | '"' :: _ => (stringValue halves '"' text).map .string
      | '\'' :: _ => (stringValue halves '\'' text).map .string
      | '[' :: _ => do
        let texts ← elementTexts (trimmed text)
        return .array (← readElements (readValue halves fuel) none texts)
      | '\x7b' :: _ => assignEntries (readValue halves fuel) (.table true []) text
      | _ => readPlain isRegular text

/-- Reads the value that a text holds. -/
def read (halves : Text.Halves) : ReadValue := fun isRegular text =>
  readValue halves (text.length + 1) isRegular text

end SampleTypes.Toml
