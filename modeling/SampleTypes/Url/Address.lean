/-
Internet addresses as they may stand between the brackets of a network location: version six, or a
form of a later version announced by `v`.
-/
import SampleTypes.Text.Lines
import SampleTypes.Text.Reading

namespace SampleTypes.Url

/-- An ASCII hexadecimal digit. -/
def isHexadecimal (c : Char) : Bool :=
  (Text.hexValue? c).isSome

/-- A number of a version four address: up to 255, without a zero in front. -/
def isOctet (s : String) : Bool :=
  let cs := s.toList
  cs.all Text.isDecimal && 1 ≤ cs.length && cs.length ≤ 3 && (cs == ['0'] || cs.head? != some '0') &&
    Text.natOf cs ≤ 255

/-- A version four address: four numbers with points between them. -/
def isAddress4 (s : String) : Bool :=
  let octets := Text.split '.' s
  octets.length == 4 && octets.all isOctet

/-- A group of a version six address. -/
def isHextet (s : String) : Bool :=
  s.toList.all isHexadecimal && 1 ≤ s.length && s.length ≤ 4

/-- The positions of empty groups that are neither the first nor the last one. -/
def innerGaps (groups : List String) : List Nat :=
  (List.range groups.length).filter (fun i =>
    1 ≤ i && i + 1 < groups.length && groups[i]? == some "")

/--
The groups of a version six address: eight, or fewer with one gap between them; a gap at an end
is written with two colons.
-/
def areGroups (groups : List String) : Bool :=
  match innerGaps groups with
  | [] => groups.length == 8 && groups.all isHextet
  | [gap] =>
    let high := groups.take gap
    let low := groups.drop (gap + 1)
    let high := if high.head? == some "" then high.drop 1 else high
    let openLow := low.getLast? == some ""
    let low := if openLow then low.dropLast else low
    (groups.head? != some "" || high.isEmpty) && (!openLow || low.isEmpty) &&
      high.length + low.length ≤ 7 && high.all isHextet && low.all isHextet
  | _ => false

/-- Groups with a version four address at the end counted as two groups; none if it is not one. -/
def expandLast (groups : List String) : Option (List String) :=
  match groups.getLast? with
  | some last =>
    if '.' ∈ last.toList then
      if isAddress4 last then some (groups.dropLast ++ ["0", "0"]) else none
    else some groups
  | none => none

/-- A version six address, perhaps with a zone after a percent sign. -/
def isAddress6 (s : String) : Bool :=
  let address := s.toList.takeWhile (· != '%')
  let zone := (s.toList.drop address.length).drop 1
  let zoned := address.length < s.length
  let groups := Text.split ':' (String.ofList address)
  (!zoned || (!zone.isEmpty && !('%' ∈ zone))) && 3 ≤ groups.length &&
    (match expandLast groups with
    | some groups => groups.length ≤ 9 && areGroups groups
    | none => false)

/-- An address of a later version: `v`, hexadecimal digits, a point, and more. -/
def isFutureAddress (s : String) : Bool :=
  match s.toList with
  | 'v' :: rest =>
    let version := rest.takeWhile isHexadecimal
    !version.isEmpty &&
      (match rest.drop version.length with
      | '.' :: _ :: _ => true
      | _ => false)
  | _ => false

end SampleTypes.Url
