/-
Reading dates and times. A time of day is told by its front, and what follows it is passed over. The
parts of a day and of a moment stand at fixed places, whatever is between them, and each is read as
any whole number is; behind the seconds there can be places of a second and a zone.
-/
import SampleTypes.Toml.Number

namespace SampleTypes.Toml

open Text (isDecimal natOf takeDecimals)

/-! ## Times of day -/

/-- The numbers of a time of day as they are written. -/
structure Clock where
  hour : Nat
  minute : Nat
  second : Nat
  microsecond : Nat
  deriving DecidableEq, Repr

/-- The microseconds behind the seconds: three to six digits behind a point, as they are. -/
def clockPlaces : List Char → Nat
  | '.' :: rest =>
    let places := (takeDecimals rest).1.take 6
    if places.length < 3 then 0 else natOf places
  | _ => 0

/-- The time of day at the front of a text. -/
def clock? : List Char → Option Clock
  | a :: b :: ':' :: c :: d :: ':' :: e :: f :: rest =>
    if [a, b, c, d, e, f].all isDecimal then
      some ⟨natOf [a, b], natOf [c, d], natOf [e, f], clockPlaces rest⟩
    else none
  | _ => none

/-- The time of a clock; the first number that is too great is a fault. -/
def Clock.value (k : Clock) : Except Fault Value :=
  match Time.of? k.hour k.minute k.second k.microsecond with
  | some t => .ok (.time t)
  | none =>
    .error
      (if 23 < k.hour then .outOfRange "hour" 23
      else if 59 < k.minute then .outOfRange "minute" 59
      else .outOfRange "second" 59)

/-! ## Parts of dates -/

/-- The whole number in base ten that a text writes. -/
def wholeNumber? (s : List Char) : Option Int :=
  let (negative, rest) := takeSign (plainText s)
  let digits := rest.filter (· != '_')
  if underscoresInside rest && digits.length ≤ Text.maxDigits then
    (inBase? 10 digits).map (fun n => if negative then -(n : Int) else n)
  else none

/-- The number in so many characters of a text. -/
def part? (first count : Nat) (s : List Char) : Option Nat :=
  (wholeNumber? ((s.drop first).take count)).bind Int.toNat?

/-! ## Behind the seconds -/

/-- What follows the seconds of a moment. -/
structure Ending where
  microsecond : Int := 0
  zone : Option Zone := none

/-- The zone that a text writes. -/
def zone? (s : List Char) : Option Zone := do
  let s := if s = ['Z'] then "+00:00".toList else s
  let hours ← wholeNumber? ((s.drop 1).take 2)
  let minutes ← wholeNumber? ((s.drop 4).take 2)
  return ⟨s.head? = some '-', hours, minutes⟩

/-- The places of a second, and the text of the zone behind them. -/
def splitPlaces (s : List Char) : List Char × Option (List Char) :=
  if s.getLast?.any (fun c => c == 'Z' || c == 'z') then (s.dropLast, some ['Z'])
  else if '+' ∈ s then (s.takeWhile (· != '+'), some (s.dropWhile (· != '+')))
  else if '-' ∈ s then (s.takeWhile (· != '-'), some (s.dropWhile (· != '-')))
  else (s, none)

/-- A number over a power of ten, in floating point and then without its places. -/
def scaledDown (n : Int) (power : Nat) : ReadM Int :=
  match Binary64.ofDecimal (n < 0) n.natAbs 0, Binary64.ofDecimal false 1 (-power) with
  | .finite negative x, .finite _ y =>
    match x.times negative y with
    | .finite negative z => .ok (if negative then -(z.whole : Int) else z.whole)
    | _ => broken .hugePlaces
  | _, _ => broken .hugePlaces

/-- The microseconds that the places of a second write; exact up to six places. -/
def microseconds (places : List Char) : ReadM (Option Int) :=
  match wholeNumber? places with
  | none => .ok none
  | some n =>
    if places.length ≤ 6 then .ok (some (n * Binary64.tenPow (6 - places.length)))
    else (scaledDown n (places.length - 6)).map some

/-- What a text behind the seconds says; nothing if any of it cannot be read. -/
def ending : List Char → ReadM Ending
  | [] => .ok {}
  | '.' :: rest =>
    let (places, zone) := splitPlaces rest
    match zone.map zone? with
    | some none => .ok {}
    | zone => do
      match ← microseconds places with
      | none => return {}
      | some n => return { microsecond := n, zone := zone.join }
  | rest => .ok { zone := zone? rest }

/-! ## Dates -/

/-- The day in the first ten characters. -/
def day? (s : List Char) : Option Date := do
  Date.of? (← part? 0 4 s) (← part? 5 2 s) (← part? 8 2 s)

/-- The moment in the first nineteen characters and what follows them. -/
def moment? (e : Ending) (s : List Char) : Option Moment := do
  let date ← day? s
  let time ← Time.of? (← part? 11 2 s) (← part? 14 2 s) (← part? 17 2 s) (← e.microsecond.toNat?)
  return ⟨date, time, e.zone⟩

/-- The day or the moment that a text writes, if it writes one. -/
def date? (s : List Char) : ReadM (Option Value) := do
  let e ← ending (s.drop 19)
  if !('-' ∈ s.drop 1) then return none
  else if s.length = 10 then return (day? s).map .date
  else return (moment? e s).map .moment

end SampleTypes.Toml
