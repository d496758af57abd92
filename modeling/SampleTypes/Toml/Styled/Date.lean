/-
Dates and times: `1979-05-27`, `07:32:00.5` or `07:32`, and both together with a zone or without.
A date has a day of the calendar, and no day has a leap second.
-/
import SampleTypes.Text.Reading
import SampleTypes.Toml.Date

namespace SampleTypes.Toml.Styled

open Text (isDecimal natOf takeDecimals)

/-! ## Reading -/

/-- The number that two digits write. -/
def pair? (c d : Char) : Option Nat :=
  if isDecimal c && isDecimal d then some (natOf [c, d]) else none

/-- What follows a date. -/
def afterDate? (s : List Char) : Option (List Char) := do
  let (digits, rest) := takeDecimals s
  match rest with
  | '-' :: c :: d :: '-' :: e :: f :: rest =>
    if isDay (natOf digits) (← pair? c d) (← pair? e f) then some rest else none
  | _ => none

/-- What follows the places behind the seconds, of which there is one at least behind a point. -/
def afterPlaces? : List Char → Option (List Char)
  | '.' :: rest =>
    let (places, rest) := takeDecimals rest
    if places.isEmpty then none else some rest
  | rest => some rest

/-- What follows the minutes of a time: seconds, which can be left out. -/
def afterSeconds? : List Char → Option (List Char)
  | ':' :: c :: d :: rest => do
    if (← pair? c d) < 60 then afterPlaces? rest else none
  | rest => some rest

/-- What follows a time. -/
def afterTime? : List Char → Option (List Char)
  | c :: d :: ':' :: e :: f :: rest => do
    if (← pair? c d) < 24 && (← pair? e f) < 60 then afterSeconds? rest else none
  | _ => none

/-- The text is a zone, or empty; a bar can stand for the sign. -/
def isZone : List Char → Bool
  | [] => true
  | [c] => c == 'Z' || c == 'z'
  | [sign, c, d, ':', e, f] =>
    sign ∈ ['+', '-', '|'] && (pair? c d).any (· < 24) && (pair? e f).any (· < 60)
  | _ => false

/-- The text is a date. -/
def isDate (s : List Char) : Bool :=
  afterDate? s == some []

/-- The text is a time. -/
def isTime (s : List Char) : Bool :=
  afterTime? s == some []

/-- The text is a date and a time. -/
def isMoment (s : List Char) : Bool :=
  match afterDate? s with
  | some (c :: rest) => c ∈ ['T', 't', ' '] && (afterTime? rest).any isZone
  | _ => false

end SampleTypes.Toml.Styled
