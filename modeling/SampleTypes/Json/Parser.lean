/-
Reading JSON text. White space is space, tab, line feed and carriage return; `NaN`, `Infinity` and
`-Infinity` are numbers; a repeated key keeps the place of its first occurrence and the value of
its last. Half of a surrogate pair alone is read as the character that stands for it. The first fault
is reported with its line and column.

Every reader takes the text still to be read and returns what is left of it, which is shorter:
`Taken.shorter` carries the proof, and recursion goes by the length of the text.
-/
import SampleTypes.Text.Digit
import SampleTypes.Text.Half
import SampleTypes.Text.Reading
import SampleTypes.Value

namespace SampleTypes.Json

open Text (Halves Taken Position isDecimal isHighHalf isLowHalf natOf takeDecimals hexValue? afterWord?
  length_dropWhile_le)

/-! ## Errors -/

/-- What is wrong with a text. -/
inductive Fault where
  | expectingValue
  | extraData
  | expectingKey
  | expectingColon
  | expectingComma
  | unterminatedString
  | controlCharacter
  | invalidEscape
  | invalidCodeEscape
  | byteOrderMark
  deriving DecidableEq, Repr

/-- The words for a fault. -/
def Fault.message : Fault → String
  | .expectingValue => "Expecting value"
  | .extraData => "Extra data"
  | .expectingKey => "Expecting property name enclosed in double quotes"
  | .expectingColon => "Expecting ':' delimiter"
  | .expectingComma => "Expecting ',' delimiter"
  | .unterminatedString => "Unterminated string starting at"
  | .controlCharacter => "Invalid control character at"
  | .invalidEscape => "Invalid \\escape"
  | .invalidCodeEscape => "Invalid \\uXXXX escape"
  | .byteOrderMark => "Unexpected UTF-8 BOM (decode using utf-8-sig)"

/-- Why a text has no value. -/
inductive Error where
  /-- It is not JSON. -/
  | invalid (fault : Fault) (position : Position)
  /-- It holds a whole number with more digits than are read. -/
  | numberTooLong (digits : Nat)
  deriving DecidableEq, Repr

/-- A reader's way to fail: a fault and the text from it on, or a number that is too long. -/
inductive Stop where
  | fault (fault : Fault) (rest : List Char)
  | numberTooLong (digits : Nat)

/-! ## White space and words -/

/-- The white space of JSON. -/
def isSpace (c : Char) : Bool :=
  c == ' ' || c == '\t' || c == '\n' || c == '\r'

/-- The text without white space in front. -/
def skipSpace (s : List Char) : List Char :=
  s.dropWhile isSpace

theorem length_skipSpace_le (s : List Char) : (skipSpace s).length ≤ s.length :=
  length_dropWhile_le _ _

/-! ## Strings -/

/-- The number that four hexadecimal digits write. -/
def fourHex? : List Char → Option Nat
  | [a, b, c, d] => do
    let a ← hexValue? a
    let b ← hexValue? b
    let c ← hexValue? c
    let d ← hexValue? d
    return ((a * 16 + b) * 16 + c) * 16 + d
  | _ => none

/-- The character that a one-letter escape stands for. -/
def escapeChar? : Char → Option Char
  | '"' => some '"'
  | '\\' => some '\\'
  | '/' => some '/'
  | 'b' => some '\x08'
  | 'f' => some '\x0c'
  | 'n' => some '\n'
  | 'r' => some '\r'
  | 't' => some '\t'
  | _ => none

section

variable (halves : Halves)

/--
Reads a `\u` escape, given the text after the `u`: four hexadecimal digits and something after
them. A second escape that completes a pair is read with it.
-/
def codeEscape (s : List Char) : Except Stop (Taken Char ('u' :: s)) :=
  match fourHex? (s.take 4) with
  | none => .error (.fault .invalidCodeEscape ('u' :: s))
  | some code =>
    let rest := s.drop 4
    let single := (Taken.closing 'u' (halves.charOfCode code) s).dropping 4
    if rest.isEmpty then .error (.fault .invalidCodeEscape ('u' :: s))
    else if isHighHalf code && 6 < rest.length && rest.take 2 = ['\\', 'u'] then
      match fourHex? ((rest.drop 2).take 4) with
      | none => .error (.fault .invalidCodeEscape (rest.drop 1))
      | some second =>
        if isLowHalf second then
          let code := 0x10000 + (code - 0xD800) * 0x400 + (second - 0xDC00)
          .ok ((single.dropping 6).map (fun _ => Char.ofNat code))
        else .ok single
    else .ok single

/--
Reads the characters of a string up to and with the closing quote; `start` is the text from the
opening quote on, which an unclosed string is blamed on.
-/
def stringBody (start : List Char) (s : List Char) : Except Stop (Taken (List Char) s) :=
  match s with
  | [] => .error (.fault .unterminatedString start)
  | '"' :: rest => .ok (.closing '"' [] rest)
  | ['\\'] => .error (.fault .unterminatedString start)
  | '\\' :: 'u' :: rest =>
    match codeEscape halves rest with
    | .error e => .error e
    | .ok t =>
      have := t.shorter
      (stringBody start t.rest).map (fun u => (t.through (u.map (t.value :: ·))).behind '\\')
  | '\\' :: c :: rest =>
    match escapeChar? c with
    | none => .error (.fault .invalidEscape ('\\' :: c :: rest))
    | some d =>
      (stringBody start rest).map (fun u => ((u.map (d :: ·)).behind c).behind '\\')
  | c :: rest =>
    if c.toNat < 0x20 then .error (.fault .controlCharacter (c :: rest))
    else (stringBody start rest).map (fun u => (u.map (c :: ·)).behind c)
  termination_by s.length
  decreasing_by all_goals simp_all <;> omega

/-- Reads a string from its opening quote on. -/
def string (s : List Char) : Except Stop (Taken String ('"' :: s)) :=
  (stringBody halves ('"' :: s) s).map (fun t => (t.map String.ofList).behind '"')

end

/-! ## Numbers -/

/-- The digits after a point, if a point with a digit after it is next. -/
def fraction? : List Char → Option (List Char × List Char)
  | '.' :: rest =>
    let (digits, rest) := takeDecimals rest
    if digits.isEmpty then none else some (digits, rest)
  | _ => none

/-- The sign of an exponent, true for minus. -/
def exponentSign : List Char → Bool × List Char
  | '+' :: rest => (false, rest)
  | '-' :: rest => (true, rest)
  | rest => (false, rest)

/-- The exponent, if an `e` with digits after it is next. -/
def exponent? : List Char → Option (Int × List Char)
  | [] => none
  | c :: rest =>
    if c = 'e' ∨ c = 'E' then
      let (negative, rest) := exponentSign rest
      let (digits, rest) := takeDecimals rest
      if digits.isEmpty then none
      else some (if negative then -(natOf digits : Int) else natOf digits, rest)
    else none

/-- The digits before the point: one zero, or digits of which the first is no zero. -/
def wholeDigits? : List Char → Option (List Char × List Char)
  | '0' :: rest => some (['0'], rest)
  | s =>
    let (digits, rest) := takeDecimals s
    if digits.isEmpty then none else some (digits, rest)

/-- The longest number without its sign at the front of the text. -/
def number? (negative : Bool) (s : List Char) : Option (Except Nat Value × List Char) :=
  match wholeDigits? s with
  | none => none
  | some (whole, rest) =>
    let (places, afterPlaces) := (fraction? rest).getD ([], rest)
    match exponent? afterPlaces, places with
    | none, [] =>
      if Text.maxDigits < whole.length then some (.error whole.length, rest)
      else some (.ok (.int (if negative then -(natOf whole : Int) else natOf whole)), rest)
    | none, places =>
      some (.ok (.float (.ofDecimal negative (natOf (whole ++ places)) (-places.length))),
        afterPlaces)
    | some (e, rest), places =>
      some (.ok (.float (.ofDecimal negative (natOf (whole ++ places)) (e - places.length))), rest)

/-! ## Values -/

/-- The words that stand for values, and their values. -/
def words : List (List Char × Value) :=
  [(['n', 'u', 'l', 'l'], .null), (['t', 'r', 'u', 'e'], .bool true),
    (['f', 'a', 'l', 's', 'e'], .bool false), (['N', 'a', 'N'], .float .nan),
    (['I', 'n', 'f', 'i', 'n', 'i', 't', 'y'], .float (.infinity false)),
    (['-', 'I', 'n', 'f', 'i', 'n', 'i', 't', 'y'], .float (.infinity true))]

/-- The word at the front of the text, and what follows it. -/
def word? (s : List Char) : Option (Value × List Char) :=
  words.findSome? (fun (word, v) => (afterWord? word s).map (v, ·))

/-- A value that is no string, array or object: a word or a number. -/
def plain (s : List Char) : Except Stop (Taken Value s) :=
  match word? s with
  | some (v, rest) =>
    if h : rest.length < s.length then .ok ⟨v, rest, h⟩
    else .error (.fault .expectingValue s)
  | none =>
    let (negative, unsigned) := match s with
      | '-' :: rest => (true, rest)
      | _ => (false, s)
    match number? negative unsigned with
    | none => .error (.fault .expectingValue s)
    | some (.error digits, _) => .error (.numberTooLong digits)
    | some (.ok v, rest) =>
      if h : rest.length < s.length then .ok ⟨v, rest, h⟩
      else .error (.fault .expectingValue s)

/-- The same with the white space after it. -/
def withSpace {α : Type} {s : List Char} (t : Taken α s) : Taken α s :=
  ⟨t.value, skipSpace t.rest, Nat.lt_of_le_of_lt (length_skipSpace_le t.rest) t.shorter⟩

section

variable (halves : Halves)

mutual

/-- Reads a value at the front of the text. -/
def value (s : List Char) : Except Stop (Taken Value s) :=
  match s with
  | '"' :: rest => (string halves rest).map (Taken.map .string)
  | '[' :: rest =>
    have := length_skipSpace_le rest
    (elements (skipSpace rest)).map (fun t =>
      ((t.widen (length_skipSpace_le rest)).map .array).behind '[')
  | '\x7b' :: rest =>
    have := length_skipSpace_le rest
    (members (skipSpace rest)).map (fun t =>
      ((t.widen (length_skipSpace_le rest)).map (fun ms => .object (Value.ofPairs ms))).behind
        '\x7b')
  | s => plain s
  termination_by (s.length, 0)

/-- Reads the elements of an array from the first one, or the closing bracket, on. -/
def elements (s : List Char) : Except Stop (Taken (List Value) s) :=
  match s with
  | ']' :: rest => .ok (.closing ']' [] rest)
  | s => moreElements s
  termination_by (s.length, 2)

/-- Reads at least one element, and the closing bracket. -/
def moreElements (s : List Char) : Except Stop (Taken (List Value) s) :=
  match value s with
  | .error e => .error e
  | .ok v =>
    let v := withSpace v
    match v.next? with
    | some (']', v) => .ok (v.map ([·]))
    | some (',', v) =>
      let v := withSpace v
      have := v.shorter
      (moreElements v.rest).map (fun t => v.through (t.map (v.value :: ·)))
    | _ => .error (.fault .expectingComma v.rest)
  termination_by (s.length, 1)

/-- Reads the members of an object from the first one, or the closing brace, on. -/
def members (s : List Char) : Except Stop (Taken (List (String × Value)) s) :=
  match s with
  | '\x7d' :: rest => .ok (.closing '\x7d' [] rest)
  | s => moreMembers s
  termination_by (s.length, 2)

/-- Reads at least one member, and the closing brace. -/
def moreMembers (s : List Char) : Except Stop (Taken (List (String × Value)) s) :=
  match s with
  | '"' :: rest =>
    match string halves rest with
    | .error e => .error e
    | .ok key =>
      let key := withSpace key
      match key.next? with
      | some (':', key) =>
        let key := withSpace key
        have := key.shorter
        match value key.rest with
        | .error e => .error e
        | .ok v =>
          let member := withSpace (key.through (v.map (key.value, ·)))
          match member.next? with
          | some ('\x7d', member) => .ok (member.map ([·]))
          | some (',', member) =>
            let member := withSpace member
            have := member.shorter
            (moreMembers member.rest).map (fun t => member.through (t.map (member.value :: ·)))
          | _ => .error (.fault .expectingComma member.rest)
      | _ => .error (.fault .expectingColon key.rest)
  | other => .error (.fault .expectingKey other)
  termination_by (s.length, 1)

end

end

/-! ## Documents -/

/-- The error for a stop in `text`. -/
def Stop.toError (text : List Char) : Stop → Error
  | .fault f rest => .invalid f (.before text rest)
  | .numberTooLong digits => .numberTooLong digits

/-- Reads one value with white space around it and nothing else. -/
def document (halves : Halves) (text : List Char) : Except Stop Value :=
  match text with
  | '\uFEFF' :: _ => .error (.fault .byteOrderMark text)
  | _ =>
    match value halves (skipSpace text) with
    | .error e => .error e
    | .ok t =>
      match skipSpace t.rest with
      | [] => .ok t.value
      | extra => .error (.fault .extraData extra)

/-- The value that a text writes, or the first fault in it. -/
def parse (halves : Halves) (text : String) : Except Error Value :=
  (document halves text.toList).mapError (Stop.toError text.toList)

end SampleTypes.Json
