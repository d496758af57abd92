/-
The text of a binary64 number: the fewest decimal digits that read back as the same number, and of
those the nearest to it, a tie going to the even last digit.

All comparisons are exact. `unit` is a common denominator of every value compared: multiplied by
it, powers of two and of ten in the range of binary64 are whole numbers.
-/
import SampleTypes.Binary64

namespace SampleTypes.Binary64

/-! ## Digits -/

/-- A decimal `digits * 10 ^ exponent`. -/
structure Decimal where
  digits : Nat
  exponent : Int
  deriving DecidableEq, Repr

/-- The common denominator of all values compared here. -/
def unit : Nat := twoPow 1076 * tenPow 400

/-- A decimal in multiples of one `unit`-th. -/
def Decimal.scaled (d : Decimal) : Nat :=
  d.digits * tenPow (d.exponent + 400).toNat * twoPow 1076

/-- A quarter of the distance to the next larger number, in multiples of one `unit`-th. -/
def Magnitude.quarter (x : Magnitude) : Nat :=
  twoPow (x.exponent + 1074).toNat * tenPow 400

/-- A number in multiples of one `unit`-th. -/
def Magnitude.scaled (x : Magnitude) : Nat :=
  4 * x.significand * x.quarter

/-- The least value that rounds to `x`: halfway to the next smaller number. -/
def Magnitude.lowerBound (x : Magnitude) : Nat :=
  if x.significand = twoPow 52 ∧ -1074 < x.exponent then (4 * x.significand - 1) * x.quarter
  else (4 * x.significand - 2) * x.quarter

/-- The greatest value that rounds to `x`: halfway to the next larger number. -/
def Magnitude.upperBound (x : Magnitude) : Nat :=
  (4 * x.significand + 2) * x.quarter

/-- The decimals that read back as `x`: those between the bounds, which belong to even `x` only. -/
def Magnitude.admits (x : Magnitude) (d : Decimal) : Bool :=
  if x.significand % 2 = 0 then x.lowerBound ≤ d.scaled && d.scaled ≤ x.upperBound
  else x.lowerBound < d.scaled && d.scaled < x.upperBound

/-- The number of digits before the decimal point; negative for zeros after it. -/
def Magnitude.pointPlace (x : Magnitude) : Int :=
  ((Nat.toDigits 10 (x.scaled / twoPow 1076)).length : Int) - 400

/--
The decimals with an exponent next to `x`: the one at or below it and the one above, the nearer
one first.
-/
def Magnitude.neighbours (x : Magnitude) (exponent : Int) : List Decimal :=
  let step := Decimal.scaled ⟨1, exponent⟩
  let below := x.scaled / step
  let twice := 2 * (x.scaled % step)
  if twice < step ∨ (twice = step ∧ below % 2 = 0) then [⟨below, exponent⟩, ⟨below + 1, exponent⟩]
  else [⟨below + 1, exponent⟩, ⟨below, exponent⟩]

/-- A decimal without zeros at the end of its digits; `fuel` bounds how many are dropped. -/
def Decimal.dropZeros : Nat → Decimal → Decimal
  | 0, d => d
  | fuel + 1, d =>
    if d.digits % 10 = 0 then Decimal.dropZeros fuel ⟨d.digits / 10, d.exponent + 1⟩ else d

/-- The fewest digits that read back as `x`, looked for from one digit on. Seventeen always do. -/
def Magnitude.shortest (x : Magnitude) : Decimal :=
  let place := x.pointPlace
  match (List.range 17).findSome? (fun n : Nat => (x.neighbours (place - n - 1)).find? x.admits) with
  | some d => d.dropZeros 20
  | none => ⟨0, 0⟩

/-! ## Text -/

/-- Digits with a point after the first `place` of them; a zero fills an empty side. -/
def pointed (digits : List Char) (place : Int) : List Char :=
  if place ≤ 0 then '0' :: '.' :: List.replicate (-place).toNat '0' ++ digits
  else if digits.length ≤ place.toNat then
    digits ++ List.replicate (place.toNat - digits.length) '0' ++ ['.', '0']
  else digits.take place.toNat ++ '.' :: digits.drop place.toNat

/-- An exponent with its sign and two digits at least. -/
def exponentText (e : Int) : List Char :=
  let digits := Nat.toDigits 10 e.natAbs
  (if e < 0 then '-' else '+') :: (if digits.length < 2 then '0' :: digits else digits)

/-- One digit, a point if more follow, the rest, and the exponent. -/
def scientific (digits : List Char) (e : Int) : List Char :=
  (match digits with
  | [] => ['0']
  | [d] => [d]
  | d :: rest => d :: '.' :: rest) ++ 'e' :: exponentText e

/-- Positional for decimal exponents from -4 to 15, else scientific. -/
def Decimal.text (d : Decimal) : List Char :=
  let digits := Nat.toDigits 10 d.digits
  let place := (digits.length : Int) + d.exponent
  if -4 < place ∧ place ≤ 16 then pointed digits place else scientific digits (place - 1)

/-- The text of a magnitude; zero has no digits to look for. -/
def Magnitude.text (x : Magnitude) : List Char :=
  if x.significand = 0 then ['0', '.', '0'] else x.shortest.text

/-- How a number is written: the words for the special values, and a sign for negative numbers. -/
def text (nanText infinityText : String) : Binary64 → String
  | .nan => nanText
  | .infinity negative => (if negative then "-" else "") ++ infinityText
  | .finite negative x => (if negative then "-" else "") ++ String.ofList x.text

end SampleTypes.Binary64
