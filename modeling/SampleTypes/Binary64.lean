/-
Binary64 numbers as exact data: a significand times a power of two in its one canonical form, or an
infinity, or the value that is no number. `Binary64.ofDecimal` rounds a decimal to the nearest such
number in exact arithmetic; a tie goes to the even significand.
-/
namespace SampleTypes

/-- A power of two. -/
def Binary64.twoPow (n : Nat) : Nat :=
  Nat.pow 2 n

/-- A power of ten. -/
def Binary64.tenPow (n : Nat) : Nat :=
  Nat.pow 10 n

/--
The canonical form of a magnitude: 53 significant bits, fewer only at the least exponent.
-/
def Binary64.IsCanonical (significand : Nat) (exponent : Int) : Prop :=
  significand < twoPow 53 ∧ -1074 ≤ exponent ∧ exponent ≤ 971 ∧
    (twoPow 52 ≤ significand ∨ exponent = -1074)

instance (significand : Nat) (exponent : Int) :
    Decidable (Binary64.IsCanonical significand exponent) := by
  unfold Binary64.IsCanonical
  infer_instance

/-- A finite number without its sign: `significand * 2 ^ exponent`. -/
structure Binary64.Magnitude where
  significand : Nat
  exponent : Int
  canonical : Binary64.IsCanonical significand exponent
  deriving DecidableEq

/-- A binary64 number; there are two zeros, and one value that is no number. -/
inductive Binary64 where
  | nan
  | infinity (negative : Bool)
  | finite (negative : Bool) (magnitude : Binary64.Magnitude)
  deriving DecidableEq

namespace Binary64

/-! ## Rounding -/

/-- The quotient rounded to the nearest integer, a tie to the even one. -/
def divRound (numerator denominator : Nat) : Nat :=
  let quotient := numerator / denominator
  let twice := 2 * (numerator % denominator)
  if twice < denominator then quotient
  else if denominator < twice then quotient + 1
  else quotient + quotient % 2

/-- The power of two at or below a positive quotient. -/
def floorLog2 (numerator denominator : Nat) : Int :=
  let guess : Int := (numerator.log2 : Int) - denominator.log2
  let below : Bool :=
    if 0 ≤ guess then numerator < denominator * twoPow guess.toNat
    else numerator * twoPow (-guess).toNat < denominator
  if below then guess - 1 else guess

/-- The number nearest to a quotient: infinite where the canonical form ends. -/
def ofQuotient (negative : Bool) (numerator denominator : Nat) : Binary64 :=
  let exponent := max (floorLog2 numerator denominator - 52) (-1074)
  let significand :=
    if 0 ≤ exponent then divRound numerator (denominator * twoPow exponent.toNat)
    else divRound (numerator * twoPow (-exponent).toNat) denominator
  let (significand, exponent) :=
    if significand = twoPow 53 then (twoPow 52, exponent + 1) else (significand, exponent)
  if h : IsCanonical significand exponent then .finite negative ⟨significand, exponent, h⟩
  else .infinity negative

/-- The zero of a sign. -/
def zero (negative : Bool) : Binary64 :=
  .finite negative ⟨0, -1074, by decide⟩

/--
The number nearest to `digits * 10 ^ exponent`. Far outside the range of finite numbers the size
of the exponent decides without the power being formed.
-/
def ofDecimal (negative : Bool) (digits : Nat) (exponent : Int) : Binary64 :=
  if digits = 0 then zero negative
  else if 400 < exponent then .infinity negative
  else if exponent + digits.log2 < -400 then zero negative
  else if 0 ≤ exponent then ofQuotient negative (digits * tenPow exponent.toNat) 1
  else ofQuotient negative digits (tenPow (-exponent).toNat)

/-! ## Products -/

/-- The number nearest to a product of magnitudes. -/
def Magnitude.times (negative : Bool) (x y : Magnitude) : Binary64 :=
  let significand := x.significand * y.significand
  let exponent := x.exponent + y.exponent
  if significand = 0 then zero negative
  else if 0 ≤ exponent then ofQuotient negative (significand * twoPow exponent.toNat) 1
  else ofQuotient negative significand (twoPow (-exponent).toNat)

/-- The whole part of a magnitude. -/
def Magnitude.whole (x : Magnitude) : Nat :=
  if 0 ≤ x.exponent then x.significand * twoPow x.exponent.toNat
  else x.significand / twoPow (-x.exponent).toNat

end Binary64

end SampleTypes
