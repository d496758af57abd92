/-
Dates and times: days of the calendar, times of day without leap seconds, and moments, which are
both together with a zone or without. None is made of numbers that the calendar does not have.
-/
import SampleTypes.Text.Lines

namespace SampleTypes.Toml

/-! ## The calendar -/

/-- The year has a day more. -/
def isLeapYear (year : Nat) : Bool :=
  year % 4 == 0 && (year % 100 != 0 || year % 400 == 0)

/-- The number of days in a month. -/
def daysIn (year month : Nat) : Nat :=
  if month = 2 then (if isLeapYear year then 29 else 28)
  else if month ∈ [4, 6, 9, 11] then 30
  else 31

/-- There is such a day. -/
def isDay (year month day : Nat) : Bool :=
  1 ≤ year && year ≤ 9999 && 1 ≤ month && month ≤ 12 && 1 ≤ day && day ≤ daysIn year month

/-- There is such a time of day. -/
def isTimeOfDay (hour minute second microsecond : Nat) : Bool :=
  hour < 24 && minute < 60 && second < 60 && microsecond < 1000000

/-- A day. -/
structure Date where
  year : Nat
  month : Nat
  day : Nat
  isDay : isDay year month day = true
  deriving DecidableEq, Repr

/-- A time of day. -/
structure Time where
  hour : Nat
  minute : Nat
  second : Nat
  microsecond : Nat
  isTime : isTimeOfDay hour minute second microsecond = true
  deriving DecidableEq, Repr

/-- The distance of a zone from the zone of reference. Its numbers can be any. -/
structure Zone where
  isBehind : Bool
  hours : Int
  minutes : Int
  deriving DecidableEq, Repr

/-- A time on a day. -/
structure Moment where
  date : Date
  time : Time
  zone : Option Zone
  deriving DecidableEq, Repr

/-- The day of three numbers, if there is one. -/
def Date.of? (year month day : Nat) : Option Date :=
  if h : Toml.isDay year month day = true then some ⟨year, month, day, h⟩ else none

/-- The time of four numbers, if there is one. -/
def Time.of? (hour minute second microsecond : Nat) : Option Time :=
  if h : isTimeOfDay hour minute second microsecond = true then
    some ⟨hour, minute, second, microsecond, h⟩
  else none

/-! ## In messages -/

/-- Numbers with a comma and a space between neighbours. -/
def numbersDisplay (ns : List Nat) : String :=
  Text.join ", " (ns.map toString)

/-- The numbers of a time: microseconds are left out if there are none, and then seconds. -/
def Time.numbers (t : Time) : List Nat :=
  if t.microsecond ≠ 0 then [t.hour, t.minute, t.second, t.microsecond]
  else if t.second ≠ 0 then [t.hour, t.minute, t.second]
  else [t.hour, t.minute]

/-- The numbers of a day. -/
def Date.numbers (d : Date) : List Nat :=
  [d.year, d.month, d.day]

/-- The display form of a day. -/
def Date.display (d : Date) : String :=
  "datetime.date(" ++ numbersDisplay d.numbers ++ ")"

/-- The display form of a time. -/
def Time.display (t : Time) : String :=
  "datetime.time(" ++ numbersDisplay t.numbers ++ ")"

/-- The display form of any zone. The address at its end is another one in every run: `0x` stands
for it. -/
def zoneDisplay : String := "<toml.tz.TomlTz object at 0x>"

/-- The display form of a moment. -/
def Moment.display (m : Moment) : String :=
  "datetime.datetime(" ++ numbersDisplay (m.date.numbers ++ m.time.numbers) ++
    (if m.zone.isSome then ", tzinfo=" ++ zoneDisplay else "") ++ ")"

/-! ## In TOML -/

/-- A number in so many digits. -/
def digits (width n : Nat) : List Char :=
  let ds := Nat.toDigits 10 n
  List.replicate (width - ds.length) '0' ++ ds

/-- The text of a day. -/
def Date.text (d : Date) : List Char :=
  digits 4 d.year ++ '-' :: digits 2 d.month ++ '-' :: digits 2 d.day

/-- The text of a time; microseconds are left out if there are none. -/
def Time.text (t : Time) : List Char :=
  digits 2 t.hour ++ ':' :: digits 2 t.minute ++ ':' :: digits 2 t.second ++
    (if t.microsecond = 0 then [] else '.' :: digits 6 t.microsecond)

/-- The minutes that a zone is ahead of the zone of reference. -/
def Zone.ahead (z : Zone) : Int :=
  (if z.isBehind then -1 else 1) * (z.hours * 60 + z.minutes)

/-- The minutes of a day. -/
def minutesOfDay : Nat := 1440

/-- The text of a zone, which has to be less than a day away. -/
def Zone.text? (z : Zone) : Option (List Char) :=
  let away := z.ahead.natAbs
  if away = 0 then some ['Z']
  else if away < minutesOfDay then
    some ((if z.ahead < 0 then '-' else '+') :: digits 2 (away / 60) ++ ':' :: digits 2 (away % 60))
  else none

/-- The text of a moment. -/
def Moment.text? (m : Moment) : Option (List Char) :=
  let plain := m.date.text ++ 'T' :: m.time.text
  match m.zone with
  | none => some plain
  | some z => z.text?.map (plain ++ ·)

end SampleTypes.Toml
