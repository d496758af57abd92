/-
The decimals that read back as a number. Those of two numbers do not meet (`eq_of_admits`): where
the bounds of neighbours touch, one of the significands is odd and its bounds do not belong to it.
And the search for the fewest digits finds some: among seventeen digits one of the neighbours of a
number always reads back as it (`exists_admits_seventeen`), so the shortest decimal of a number does
(`admits_shortest`).
-/
import Mathlib.Tactic.Linarith
import Mathlib.Tactic.Ring
import SampleTypes.Binary64.Shortest

namespace SampleTypes.Binary64

namespace Magnitude

variable {x y : Magnitude} {d e : Decimal}

/-! ## Bounds -/

theorem tenPow_pos (n : Nat) : 0 < tenPow n :=
  Nat.pow_pos (by decide)

theorem twoPow_pos (n : Nat) : 0 < twoPow n :=
  Nat.pow_pos (by decide)

theorem quarter_pos (x : Magnitude) : 0 < x.quarter :=
  Nat.mul_pos (twoPow_pos _) (tenPow_pos _)

theorem significand_lt (x : Magnitude) : x.significand < 2 ^ 53 :=
  x.canonical.1

/-- What reads back lies between the bounds, and for an odd significand on neither of them. -/
theorem admits_iff : x.admits d = true ↔
    x.lowerBound ≤ d.scaled ∧ d.scaled ≤ x.upperBound ∧
      (x.significand % 2 = 1 → x.lowerBound ≠ d.scaled ∧ d.scaled ≠ x.upperBound) := by
  rw [admits]
  split <;> simp only [Bool.and_eq_true, decide_eq_true_eq] <;> omega

/-- Only the size of a decimal counts. -/
theorem admits_congr (h : d.scaled = e.scaled) : x.admits d = x.admits e := by
  rw [admits, admits, h]

theorem bounds_of_significand_lt (he : x.exponent = y.exponent)
    (hs : x.significand < y.significand) :
    x.upperBound ≤ y.lowerBound ∧
      (x.upperBound = y.lowerBound → x.significand % 2 = 1 ∨ y.significand % 2 = 1) := by
  have hq : x.quarter = y.quarter := by rw [quarter, quarter, he]
  have hpos := y.quarter_pos
  rw [upperBound, lowerBound, hq]
  split
  · refine ⟨Nat.mul_le_mul_right _ (by omega), fun h => ?_⟩
    have := Nat.eq_of_mul_eq_mul_right hpos h
    omega
  · refine ⟨Nat.mul_le_mul_right _ (by omega), fun h => ?_⟩
    have := Nat.eq_of_mul_eq_mul_right hpos h
    omega

/-- Above the least exponent a number has all of its bits. -/
theorem lowerBound_of_exponent_lt (he : x.exponent < y.exponent) :
    ∃ count, 2 ^ 54 - 1 ≤ count ∧ y.lowerBound = count * y.quarter := by
  have hxe : -1074 ≤ x.exponent := x.canonical.2.1
  have hs : twoPow 52 ≤ y.significand := y.canonical.2.2.2.resolve_right (by omega)
  have h52 : twoPow 52 = 2 ^ 52 := rfl
  rw [lowerBound]
  split
  · exact ⟨_, by omega, rfl⟩
  · next hy =>
    have hne : y.significand ≠ twoPow 52 := fun h => hy ⟨h, by omega⟩
    exact ⟨_, by omega, rfl⟩

theorem two_quarter_le_of_exponent_lt (he : x.exponent < y.exponent) :
    2 * x.quarter ≤ y.quarter := by
  have hxe : -1074 ≤ x.exponent := x.canonical.2.1
  have hle : (x.exponent + 1074).toNat + 1 ≤ (y.exponent + 1074).toNat := by omega
  have hpow : 2 * twoPow (x.exponent + 1074).toNat ≤ twoPow (y.exponent + 1074).toNat :=
    calc 2 * twoPow (x.exponent + 1074).toNat
        = twoPow ((x.exponent + 1074).toNat + 1) := (Nat.pow_succ').symm
      _ ≤ twoPow (y.exponent + 1074).toNat := Nat.pow_le_pow_right (by decide) hle
  rw [quarter, quarter, ← Nat.mul_assoc]
  exact Nat.mul_le_mul_right _ hpow

/-- The bounds of the greatest number of an exponent and of the least one of the next meet; the
greatest has an odd significand. -/
theorem bounds_of_exponent_lt (he : x.exponent < y.exponent) :
    x.upperBound ≤ y.lowerBound ∧
      (x.upperBound = y.lowerBound → x.significand % 2 = 1 ∨ y.significand % 2 = 1) := by
  obtain ⟨count, hcount, hlower⟩ := lowerBound_of_exponent_lt he
  have hx := x.significand_lt
  have hq : 2 * count * x.quarter ≤ y.lowerBound :=
    calc 2 * count * x.quarter = count * (2 * x.quarter) := by ring
      _ ≤ count * y.quarter := Nat.mul_le_mul_left _ (two_quarter_le_of_exponent_lt he)
      _ = y.lowerBound := hlower.symm
  have hu : x.upperBound ≤ 2 * count * x.quarter := Nat.mul_le_mul_right _ (by omega)
  refine ⟨hu.trans hq, fun h => .inl ?_⟩
  have heq : (4 * x.significand + 2) * x.quarter = 2 * count * x.quarter :=
    Nat.le_antisymm hu (hq.trans h.ge)
  have := Nat.eq_of_mul_eq_mul_right x.quarter_pos heq
  omega

/-! ## One number for a decimal -/

theorem not_admits_of_bounds (h : x.upperBound ≤ y.lowerBound ∧
    (x.upperBound = y.lowerBound → x.significand % 2 = 1 ∨ y.significand % 2 = 1))
    (hx : x.admits d = true) : ¬ y.admits d = true := by
  intro hy
  obtain ⟨-, hxu, hxodd⟩ := admits_iff.1 hx
  obtain ⟨hyl, -, hyodd⟩ := admits_iff.1 hy
  obtain ⟨hle, htouch⟩ := h
  rcases htouch (by omega) with hodd | hodd
  · exact (hxodd hodd).2 (by omega)
  · exact (hyodd hodd).1 (by omega)

/-- **A decimal reads back as one number only.** -/
theorem eq_of_admits (hx : x.admits d = true) (hy : y.admits d = true) : x = y := by
  rcases lt_trichotomy x.exponent y.exponent with he | he | he
  · exact absurd hy (not_admits_of_bounds (bounds_of_exponent_lt he) hx)
  · rcases lt_trichotomy x.significand y.significand with hs | hs | hs
    · exact absurd hy (not_admits_of_bounds (bounds_of_significand_lt he hs) hx)
    · obtain ⟨s, e, _⟩ := x
      obtain ⟨t, f, _⟩ := y
      subst he hs
      rfl
    · exact absurd hx (not_admits_of_bounds (bounds_of_significand_lt he.symm hs) hy)
  · exact absurd hx (not_admits_of_bounds (bounds_of_exponent_lt he) hy)

/-! ## Enough digits -/

theorem scaled_eq_mul (digits : Nat) (exponent : Int) :
    Decimal.scaled ⟨digits, exponent⟩ = digits * Decimal.scaled ⟨1, exponent⟩ := by
  simp only [Decimal.scaled]
  ring

theorem step_pos (exponent : Int) : 0 < Decimal.scaled ⟨1, exponent⟩ :=
  Nat.mul_pos (Nat.mul_pos Nat.one_pos (tenPow_pos _)) (twoPow_pos _)

/-- One of the two neighbours is no farther away than half a step between them. -/
theorem exists_near_neighbour (x : Magnitude) (exponent : Int) :
    ∃ d ∈ x.neighbours exponent,
      2 * x.scaled ≤ 2 * d.scaled + Decimal.scaled ⟨1, exponent⟩ ∧
        2 * d.scaled ≤ 2 * x.scaled + Decimal.scaled ⟨1, exponent⟩ := by
  have hmem : ∀ count, count = x.scaled / Decimal.scaled ⟨1, exponent⟩ ∨
      count = x.scaled / Decimal.scaled ⟨1, exponent⟩ + 1 →
        (⟨count, exponent⟩ : Decimal) ∈ x.neighbours exponent := by
    rintro count (rfl | rfl) <;> simp only [neighbours] <;> split <;> simp
  have hdiv := Nat.div_add_mod x.scaled (Decimal.scaled ⟨1, exponent⟩)
  have hmod := Nat.mod_lt x.scaled (step_pos exponent)
  rw [Nat.mul_comm] at hdiv
  by_cases hhalf : 2 * (x.scaled % Decimal.scaled ⟨1, exponent⟩) ≤ Decimal.scaled ⟨1, exponent⟩
  · refine ⟨_, hmem _ (.inl rfl), ?_, ?_⟩ <;> rw [scaled_eq_mul (_ / _)] <;> omega
  · refine ⟨_, hmem _ (.inr rfl), ?_, ?_⟩ <;>
      rw [scaled_eq_mul (_ + 1), Nat.add_one_mul (x.scaled / _)] <;> omega

/-- A decimal reads back as what it is so near to, in steps that are fine enough. -/
theorem admits_of_near {step : Nat} (hs : x.significand ≠ 0) (hstep : 10 ^ 16 * step ≤ x.scaled)
    (hlow : 2 * x.scaled ≤ 2 * d.scaled + step) (hhigh : 2 * d.scaled ≤ 2 * x.scaled + step) :
    x.admits d = true := by
  have hx : x.scaled = 4 * (x.significand * x.quarter) := Nat.mul_assoc _ _ _
  have hq := x.quarter_pos
  have hupper : x.upperBound = 4 * (x.significand * x.quarter) + 2 * x.quarter := by
    rw [upperBound]
    ring
  have hone : 1 * x.quarter ≤ x.significand * x.quarter :=
    Nat.mul_le_mul_right _ (Nat.one_le_iff_ne_zero.2 hs)
  have hbound : x.significand * x.quarter ≤ (2 ^ 53 - 1) * x.quarter :=
    Nat.mul_le_mul_right _ (Nat.le_pred_of_lt x.significand_lt)
  have hlower : x.lowerBound < d.scaled := by
    rw [lowerBound]
    split
    · next h =>
      have h52 : x.significand * x.quarter = 2 ^ 52 * x.quarter := by rw [h.1]; rfl
      rw [Nat.sub_mul, Nat.mul_assoc]
      omega
    · rw [Nat.sub_mul, Nat.mul_assoc]
      omega
  exact admits_iff.2 ⟨hlower.le, by omega, fun _ => ⟨hlower.ne, by omega⟩⟩

/-- Where the point of a number other than zero stands: `n - 400` places before its last digit, if
its size in units of `10 ^ (-400)` has `n` digits. -/
theorem exists_pointPlace (hs : x.significand ≠ 0) :
    ∃ n : Nat, 17 ≤ n ∧ x.pointPlace = (n : Int) - 400 ∧
      tenPow (n - 1) * twoPow 1076 ≤ x.scaled := by
  have hdigits : ∀ k, 0 < k → (k < (Nat.toDigits 10 (x.scaled / twoPow 1076)).length ↔
      tenPow k * twoPow 1076 ≤ x.scaled) := by
    intro k hk
    rw [← Nat.not_le, Nat.length_toDigits_le_iff (by decide) hk, Nat.not_lt]
    exact Nat.le_div_iff_mul_le (twoPow_pos _)
  have hmany : 16 < (Nat.toDigits 10 (x.scaled / twoPow 1076)).length := by
    refine (hdigits 16 (by decide)).2 ?_
    calc tenPow 16 * twoPow 1076 ≤ 4 * tenPow 400 := by decide +kernel
      _ ≤ 4 * (x.significand * x.quarter) := by
        refine Nat.mul_le_mul_left _ ?_
        calc tenPow 400 = 1 * (1 * tenPow 400) := by rw [Nat.one_mul, Nat.one_mul]
          _ ≤ x.significand * x.quarter := Nat.mul_le_mul (Nat.one_le_iff_ne_zero.2 hs)
              (Nat.mul_le_mul_right _ (twoPow_pos _))
      _ = x.scaled := (Nat.mul_assoc _ _ _).symm
  exact ⟨_, hmany, rfl, (hdigits _ (by omega)).1 (by omega)⟩

/-- **Seventeen digits always do.** -/
theorem exists_admits_seventeen (hs : x.significand ≠ 0) :
    ∃ d ∈ x.neighbours (x.pointPlace - 17), x.admits d = true := by
  obtain ⟨n, hn, hplace, hle⟩ := exists_pointPlace hs
  obtain ⟨d, hd, hlow, hhigh⟩ := x.exists_near_neighbour (x.pointPlace - 17)
  refine ⟨d, hd, admits_of_near hs ?_ hlow hhigh⟩
  have hplaces : (x.pointPlace - 17 + 400).toNat = n - 17 := by omega
  calc 10 ^ 16 * Decimal.scaled ⟨1, x.pointPlace - 17⟩
      = 10 ^ 16 * (1 * tenPow (n - 17) * twoPow 1076) := by rw [Decimal.scaled, hplaces]
    _ = 10 ^ (n - 17 + 16) * twoPow 1076 := by rw [Nat.pow_add, tenPow, Nat.pow_eq]; ring
    _ = tenPow (n - 1) * twoPow 1076 := by rw [show n - 17 + 16 = n - 1 by omega]; rfl
    _ ≤ x.scaled := hle

/-! ## The fewest digits -/

theorem Decimal.scaled_dropZeros (fuel : Nat) (d : Decimal) (h : -400 ≤ d.exponent) :
    (d.dropZeros fuel).scaled = d.scaled := by
  induction fuel generalizing d with
  | zero => rfl
  | succ fuel ih =>
    rw [Decimal.dropZeros]
    split
    · next hzero =>
      have hexp : (d.exponent + 1 + 400).toNat = (d.exponent + 400).toNat + 1 := by omega
      have hdigits : d.digits = d.digits / 10 * 10 := by omega
      rw [ih ⟨d.digits / 10, d.exponent + 1⟩ (by simp only; omega), Decimal.scaled,
        Decimal.scaled, hexp, tenPow, Nat.pow_eq, Nat.pow_succ, tenPow, Nat.pow_eq]
      conv_rhs => rw [hdigits]
      ring
    · rfl

theorem exponent_of_mem_neighbours {exponent : Int} (h : d ∈ x.neighbours exponent) :
    d.exponent = exponent := by
  simp only [neighbours] at h
  split at h <;> simp only [List.mem_cons, List.not_mem_nil, or_false] at h <;>
    rcases h with rfl | rfl <;> rfl

theorem Decimal.exponent_le_dropZeros (fuel : Nat) (d : Decimal) :
    d.exponent ≤ (d.dropZeros fuel).exponent := by
  induction fuel generalizing d with
  | zero => exact le_refl _
  | succ fuel ih =>
    rw [Decimal.dropZeros]
    split
    · exact (Int.le_of_lt (Int.lt_succ d.exponent)).trans (ih ⟨d.digits / 10, d.exponent + 1⟩)
    · exact le_refl _

/-- What the search finds reads back as the number; its last zeros are dropped. -/
theorem exists_shortest_eq (hs : x.significand ≠ 0) :
    ∃ found, x.admits found = true ∧ -400 ≤ found.exponent ∧ x.shortest = found.dropZeros 20 := by
  obtain ⟨n, hn, hplace, -⟩ := exists_pointPlace hs
  obtain ⟨d, hd, hadmits⟩ := exists_admits_seventeen hs
  -- Unfolded as a function: applied to `x`, the search would be run by the kernel.
  generalize hbody : @shortest = body
  delta shortest at hbody
  subst hbody
  dsimp only
  split
  · next found hfound =>
    obtain ⟨m, hm, hfind⟩ := List.exists_of_findSome?_eq_some hfound
    have hm : m < 17 := List.mem_range.1 hm
    have hexp := exponent_of_mem_neighbours (List.mem_of_find?_eq_some hfind)
    exact ⟨found, List.find?_some hfind, by omega, rfl⟩
  · next hnone =>
    -- The last number of digits that is tried has a decimal.
    have hlast := List.findSome?_eq_none_iff.1 hnone 16 (by decide)
    have hplaces : x.pointPlace - (16 : Nat) - 1 = x.pointPlace - 17 := by omega
    rw [hplaces] at hlast
    exact absurd hadmits (List.find?_eq_none.1 hlast d hd)

/-- **The shortest decimal of a number reads back as it.** -/
theorem admits_shortest (hs : x.significand ≠ 0) : x.admits x.shortest = true := by
  obtain ⟨found, hfound, hexp, heq⟩ := exists_shortest_eq hs
  rw [heq, admits_congr (Decimal.scaled_dropZeros 20 found hexp), hfound]

theorem exponent_shortest (hs : x.significand ≠ 0) : -400 ≤ x.shortest.exponent := by
  obtain ⟨found, -, hexp, heq⟩ := exists_shortest_eq hs
  rw [heq]
  exact hexp.trans (Decimal.exponent_le_dropZeros 20 found)

end Magnitude

end SampleTypes.Binary64
