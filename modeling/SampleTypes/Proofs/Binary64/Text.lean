/-
The text of a number tells the number. What `Decimal.text` lays out, with or without an exponent, is
read back by `Decimal.ofText` as a decimal of the same size (`scaled_ofText`), and a decimal reads
back as one number only; so numbers of one text are equal (`text_injective`).
-/
import SampleTypes.Json.Parser
import SampleTypes.Proofs.Binary64.Shortest

namespace SampleTypes

namespace Text

/-! ## Digits -/

theorem isDecimal_of_mem_toDigits {n : Nat} {c : Char} (h : c ∈ Nat.toDigits 10 n) :
    isDecimal c = true := by
  have hc := Nat.isDigit_of_mem_toDigits (by decide) (by decide) h
  simpa [isDecimal, Char.isDigit, Char.le_def] using hc

theorem natOf_eq (ds : List Char) : natOf ds = Nat.ofDigitChars 10 ds 0 := by
  rw [natOf, Nat.ofDigitChars_eq_foldl]
  simp only [Nat.mul_comm]

@[simp] theorem natOf_toDigits (n : Nat) : natOf (Nat.toDigits 10 n) = n := by
  rw [natOf_eq, Nat.ofDigitChars_ten_toDigits]

/-- Zeros in front do not count. -/
theorem natOf_zeros_append (count : Nat) (ds : List Char) :
    natOf (List.replicate count '0' ++ ds) = natOf ds := by
  rw [natOf_eq, natOf_eq, Nat.ofDigitChars_append, Nat.ofDigitChars_replicate_zero, Nat.mul_zero]

theorem natOf_append_zeros (ds : List Char) (count : Nat) :
    natOf (ds ++ List.replicate count '0') = natOf ds * 10 ^ count := by
  rw [natOf_eq, natOf_eq, Nat.ofDigitChars_append, Nat.ofDigitChars_replicate_zero, Nat.mul_comm]

/-- Digits are split off up to the first character that is none. -/
theorem takeDecimals_append {ds rest : List Char} (hds : ∀ c ∈ ds, isDecimal c = true)
    (hrest : ∀ c ∈ rest.head?, isDecimal c = false) :
    takeDecimals (ds ++ rest) = (ds, rest) := by
  rw [takeDecimals, List.takeWhile_append_of_pos hds, List.dropWhile_append_of_pos hds]
  cases rest with
  | nil => simp
  | cons c rest => simp [hrest c rfl]

theorem takeDecimals_self {ds : List Char} (hds : ∀ c ∈ ds, isDecimal c = true) :
    takeDecimals ds = (ds, []) := by
  have hend : ∀ c ∈ ([] : List Char).head?, isDecimal c = false := by rintro _ ⟨⟩
  have htake := takeDecimals_append hds hend
  rwa [List.append_nil] at htake

end Text

namespace Binary64

open Text (isDecimal natOf takeDecimals)

/-! ## Reading a decimal -/

/-- The exponent at the front of a text, zero if there is none. -/
def exponentOf (s : List Char) : Int :=
  ((Json.exponent? s).map Prod.fst).getD 0

/-- The decimal that a text writes: digits, a point with more digits or none, and an exponent. -/
def Decimal.ofText (s : List Char) : Decimal :=
  let (whole, rest) := takeDecimals s
  let (places, rest) := (Json.fraction? rest).getD ([], rest)
  ⟨natOf (whole ++ places), exponentOf rest - places.length⟩

theorem Decimal.ofText_pointed (whole places rest : List Char)
    (hwhole : ∀ c ∈ whole, isDecimal c = true) (hplaces : ∀ c ∈ places, isDecimal c = true)
    (hne : places ≠ []) (hrest : ∀ c ∈ rest.head?, isDecimal c = false) :
    Decimal.ofText (whole ++ '.' :: (places ++ rest)) =
      ⟨natOf (whole ++ places), exponentOf rest - places.length⟩ := by
  have hpoint : ∀ c ∈ ('.' :: (places ++ rest)).head?, isDecimal c = false := by
    rintro c ⟨⟩
    decide
  rw [ofText, Text.takeDecimals_append hwhole hpoint]
  simp only [Json.fraction?, Text.takeDecimals_append hplaces hrest, List.isEmpty_iff, if_neg hne,
    Option.getD_some]

theorem Decimal.ofText_whole (whole rest : List Char) (hwhole : ∀ c ∈ whole, isDecimal c = true)
    (hrest : ∀ c ∈ rest.head?, isDecimal c = false ∧ c ≠ '.') :
    Decimal.ofText (whole ++ rest) = ⟨natOf whole, exponentOf rest⟩ := by
  have hnone : Json.fraction? rest = none := by
    cases rest with
    | nil => rfl
    | cons c rest =>
      have hc := (hrest c rfl).2
      simp [Json.fraction?, hc]
  rw [ofText, Text.takeDecimals_append hwhole fun c hc => (hrest c hc).1]
  simp only [hnone, Option.getD_none, List.append_nil, List.length_nil, Nat.cast_zero,
    Int.sub_zero]

theorem toDigits_ne_nil (n : Nat) : Nat.toDigits 10 n ≠ [] := by
  have := Nat.length_toDigits_pos (b := 10) (n := n)
  rintro h
  simp [h] at this

/-- An exponent is a sign and digits of its size. -/
theorem exists_exponentText_eq (e : Int) :
    ∃ digits, exponentText e = (if e < 0 then '-' else '+') :: digits ∧ digits ≠ [] ∧
      (∀ c ∈ digits, isDecimal c = true) ∧ natOf digits = e.natAbs := by
  have hdigits : ∀ c ∈ Nat.toDigits 10 e.natAbs, isDecimal c = true :=
    fun _ h => Text.isDecimal_of_mem_toDigits h
  refine ⟨_, rfl, ?_⟩
  split
  · refine ⟨List.cons_ne_nil _ _, List.forall_mem_cons.2 ⟨by decide, hdigits⟩, ?_⟩
    have hzero := Text.natOf_zeros_append 1 (Nat.toDigits 10 e.natAbs)
    rwa [Text.natOf_toDigits] at hzero
  · exact ⟨toDigits_ne_nil _, hdigits, Text.natOf_toDigits _⟩

theorem exponentOf_exponentText (e : Int) : exponentOf ('e' :: exponentText e) = e := by
  obtain ⟨digits, htext, hne, hdigits, hsize⟩ := exists_exponentText_eq e
  have htake := Text.takeDecimals_self hdigits
  have hempty : digits.isEmpty = false := by simpa using hne
  rw [exponentOf, htext, Json.exponent?, if_pos (.inl rfl)]
  by_cases he : e < 0
  · simp only [if_pos he, Json.exponentSign, htake, hempty, hsize]
    simp only [Bool.false_eq_true, if_false, if_true, Option.map_some, Option.getD_some]
    omega
  · simp only [if_neg he, Json.exponentSign, htake, hempty, hsize]
    simp only [Bool.false_eq_true, if_false, Option.map_some, Option.getD_some]
    omega

/-! ## Layouts -/

/-- Zeros moved into the digits do not change the size. -/
theorem Decimal.scaled_mul_pow (digits k : Nat) {e : Int} (h : -400 ≤ e - k) :
    Decimal.scaled ⟨digits * 10 ^ k, e - k⟩ = Decimal.scaled ⟨digits, e⟩ := by
  have hexp : (e + 400).toNat = k + (e - k + 400).toNat := by omega
  simp only [Decimal.scaled, tenPow, Nat.pow_eq]
  rw [hexp, Nat.pow_add, Nat.mul_assoc digits]

section Layouts

variable {digits : List Char} (hne : digits ≠ []) (hdigits : ∀ c ∈ digits, isDecimal c = true)

include hdigits

theorem Decimal.ofText_pointed_large {place : Nat} (h : digits.length ≤ place)
    (hpos : ¬ (place : Int) ≤ 0) :
    ofText (pointed digits place) =
      ⟨natOf digits * 10 ^ (place - digits.length + 1), -1⟩ := by
  have hwhole : ∀ c ∈ digits ++ List.replicate (place - digits.length) '0',
      isDecimal c = true := by
    intro c hc
    rcases List.mem_append.1 hc with hc | hc
    · exact hdigits c hc
    · rw [List.eq_of_mem_replicate hc]
      decide
  have hread := ofText_pointed _ ['0'] [] hwhole (List.all_eq_true.1 rfl) (by simp) (by simp)
  have hzeros : digits ++ List.replicate (place - digits.length) '0' ++ ['0'] =
      digits ++ List.replicate (place - digits.length + 1) '0' := by
    rw [List.append_assoc, List.replicate_succ']
  rw [hzeros, Text.natOf_append_zeros] at hread
  rw [pointed, if_neg hpos, Int.toNat_natCast, if_pos h]
  exact hread

theorem Decimal.ofText_pointed_inside {place : Nat} (h : place < digits.length)
    (hpos : ¬ (place : Int) ≤ 0) :
    ofText (pointed digits place) = ⟨natOf digits, (place : Int) - digits.length⟩ := by
  have hread := ofText_pointed (digits.take place) (digits.drop place) []
    (fun c hc => hdigits c (List.mem_of_mem_take hc))
    (fun c hc => hdigits c (List.mem_of_mem_drop hc)) (by simpa using h) (by simp)
  rw [List.take_append_drop, List.append_nil] at hread
  rw [pointed, if_neg hpos, Int.toNat_natCast, if_neg (Nat.not_le.2 h)]
  refine hread.trans ?_
  simp only [exponentOf, Json.exponent?, Option.map_none, Option.getD_none, List.length_drop,
    mk.injEq, true_and]
  omega

include hne

theorem Decimal.ofText_pointed_small {place : Int} (h : place ≤ 0) :
    ofText (pointed digits place) = ⟨natOf digits, place - digits.length⟩ := by
  have hplaces : ∀ c ∈ List.replicate (-place).toNat '0' ++ digits, isDecimal c = true := by
    intro c hc
    rcases List.mem_append.1 hc with hc | hc
    · rw [List.eq_of_mem_replicate hc]
      decide
    · exact hdigits c hc
  have hread := ofText_pointed ['0'] _ [] (List.all_eq_true.1 rfl) hplaces (by simp [hne])
    (by simp)
  have hzeros : ['0'] ++ (List.replicate (-place).toNat '0' ++ digits) =
      List.replicate ((-place).toNat + 1) '0' ++ digits := rfl
  rw [pointed, if_pos h]
  rw [hzeros, Text.natOf_zeros_append, List.append_nil] at hread
  refine hread.trans ?_
  simp only [exponentOf, Json.exponent?, Option.map_none, Option.getD_none, List.length_append,
    List.length_replicate, mk.injEq, true_and]
  omega

/-- With a point, a decimal is laid out with no more than zeros added. -/
theorem Decimal.scaled_ofText_pointed {place : Int} (h : -400 ≤ place - digits.length) :
    (ofText (pointed digits place)).scaled =
      Decimal.scaled ⟨natOf digits, place - digits.length⟩ := by
  by_cases hpos : place ≤ 0
  · rw [ofText_pointed_small hne hdigits hpos]
  · obtain ⟨n, rfl⟩ := Int.eq_ofNat_of_zero_le (Int.le_of_lt (Int.not_le.1 hpos))
    by_cases hlen : digits.length ≤ n
    · have hshift := scaled_mul_pow (natOf digits) (n - digits.length + 1)
        (e := (n : Int) - digits.length) (by omega)
      have hexp : (n : Int) - digits.length - (n - digits.length + 1 : Nat) = -1 := by omega
      rw [hexp] at hshift
      rw [ofText_pointed_large hdigits hlen hpos, hshift]
    · rw [ofText_pointed_inside hdigits (Nat.not_le.1 hlen) hpos]

theorem Decimal.ofText_scientific (e : Int) :
    ofText (scientific digits e) = ⟨natOf digits, e + 1 - digits.length⟩ := by
  have hmark : isDecimal 'e' = false ∧ 'e' ≠ '.' := by decide
  match digits, hne, hdigits with
  | [c], _, hdigits =>
    have hread := ofText_whole [c] ('e' :: exponentText e) hdigits
      (by rintro _ ⟨⟩; exact hmark)
    rw [exponentOf_exponentText] at hread
    refine hread.trans ?_
    simp
  | c :: c' :: rest, _, hdigits =>
    have hrest := List.forall_mem_cons.1 hdigits
    have hread := ofText_pointed [c] (c' :: rest) ('e' :: exponentText e)
      (by simpa using hrest.1) hrest.2 (List.cons_ne_nil _ _)
      (by rintro _ ⟨⟩; exact hmark.1)
    rw [exponentOf_exponentText] at hread
    refine hread.trans ?_
    simp only [List.length_cons, List.singleton_append, mk.injEq, true_and]
    omega

end Layouts

/-- **The text of a decimal has its size.** -/
theorem Decimal.scaled_ofText (d : Decimal) (h : -400 ≤ d.exponent) :
    (ofText d.text).scaled = d.scaled := by
  have hne := toDigits_ne_nil d.digits
  have hdigits : ∀ c ∈ Nat.toDigits 10 d.digits, isDecimal c = true :=
    fun _ h => Text.isDecimal_of_mem_toDigits h
  have hd : Decimal.scaled ⟨natOf (Nat.toDigits 10 d.digits),
      (Nat.toDigits 10 d.digits).length + d.exponent - (Nat.toDigits 10 d.digits).length⟩ =
        d.scaled := by
    rw [Text.natOf_toDigits, Int.add_comm, Int.add_sub_cancel]
  rw [text]
  split
  · rw [scaled_ofText_pointed hne hdigits (by omega), hd]
  · rw [ofText_scientific hne hdigits, Int.sub_add_cancel, hd]

/-! ## The text of a number -/

namespace Magnitude

variable {x y : Magnitude}

theorem lowerBound_pos (hs : x.significand ≠ 0) : 0 < x.lowerBound := by
  rw [lowerBound]
  split <;> exact Nat.mul_pos (by omega) x.quarter_pos

theorem eq_zero_of_significand (hs : x.significand = 0) : x = ⟨0, -1074, by decide⟩ := by
  obtain ⟨s, e, hc⟩ := x
  subst hs
  obtain rfl : e = -1074 := hc.2.2.2.resolve_left (by decide)
  rfl

/-- What the text of a number writes has the size of its shortest decimal. -/
theorem scaled_ofText_text (hs : x.significand ≠ 0) :
    (Decimal.ofText x.text).scaled = x.shortest.scaled := by
  rw [text, if_neg hs, Decimal.scaled_ofText _ (exponent_shortest hs)]

theorem text_zero_ne (hx : x.significand = 0) (hy : y.significand ≠ 0) : x.text ≠ y.text := by
  intro h
  have hsize := scaled_ofText_text hy
  have hzero : (Decimal.ofText ['0', '.', '0']).scaled = 0 := by
    have hread : Decimal.ofText ['0', '.', '0'] = ⟨0, -1⟩ := by decide
    rw [hread, Decimal.scaled, Nat.zero_mul, Nat.zero_mul]
  rw [← h, text, if_pos hx, hzero] at hsize
  have hle := (admits_iff.1 (admits_shortest hy)).1
  rw [← hsize] at hle
  exact Nat.not_lt.2 hle (lowerBound_pos hy)

/-- **The text of a magnitude tells it.** -/
theorem text_injective (h : x.text = y.text) : x = y := by
  by_cases hx : x.significand = 0
  · by_cases hy : y.significand = 0
    · rw [eq_zero_of_significand hx, eq_zero_of_significand hy]
    · exact absurd h (text_zero_ne hx hy)
  · by_cases hy : y.significand = 0
    · exact absurd h.symm (text_zero_ne hy hx)
    · have hsize : x.shortest.scaled = y.shortest.scaled := by
        rw [← scaled_ofText_text hx, ← scaled_ofText_text hy, h]
      refine eq_of_admits (admits_shortest hx) ?_
      rw [admits_congr hsize]
      exact admits_shortest hy

end Magnitude

/-! ## The characters of a number -/

/-- A character of a finite number. -/
def isNumberChar (c : Char) : Bool :=
  isDecimal c || c == '.' || c == 'e' || c == '+' || c == '-'

theorem isNumberChar_of_isDecimal {c : Char} (h : isDecimal c = true) : isNumberChar c = true := by
  simp [isNumberChar, h]

/-- A text of number characters that starts with a digit and is no whole number's. -/
structure IsNumberText (s : List Char) : Prop where
  chars : ∀ c ∈ s, isNumberChar c = true
  head : ∃ c ∈ s.head?, isDecimal c = true
  mark : '.' ∈ s ∨ 'e' ∈ s

section Characters

variable {digits : List Char} (hne : digits ≠ []) (hdigits : ∀ c ∈ digits, isDecimal c = true)

include hdigits

theorem isNumberChar_of_mem_pointed {place : Int} {c : Char} (h : c ∈ pointed digits place) :
    isNumberChar c = true := by
  have hmem : c = '0' ∨ c = '.' ∨ c ∈ digits := by
    rw [pointed] at h
    split at h
    · simp only [List.mem_cons, List.mem_append, List.mem_replicate, List.cons_append] at h
      tauto
    · split at h
      · simp only [List.mem_append, List.mem_replicate, List.mem_cons, List.not_mem_nil] at h
        tauto
      · simp only [List.mem_append, List.mem_cons] at h
        rcases h with h | h | h
        · exact .inr (.inr (List.mem_of_mem_take h))
        · exact .inr (.inl h)
        · exact .inr (.inr (List.mem_of_mem_drop h))
  rcases hmem with rfl | rfl | hc
  · decide
  · decide
  · exact isNumberChar_of_isDecimal (hdigits c hc)

theorem isNumberChar_of_mem_scientific {e : Int} {c : Char} (h : c ∈ scientific digits e) :
    isNumberChar c = true := by
  obtain ⟨places, htext, -, hplaces, -⟩ := exists_exponentText_eq e
  rcases List.mem_append.1 h with h | h
  · split at h
    · exact List.mem_singleton.1 h ▸ by decide
    · exact isNumberChar_of_isDecimal (hdigits c h)
    · rcases List.mem_cons.1 h with rfl | h
      · exact isNumberChar_of_isDecimal (hdigits c List.mem_cons_self)
      · rcases List.mem_cons.1 h with rfl | h
        · decide
        · exact isNumberChar_of_isDecimal (hdigits c (List.mem_cons_of_mem _ h))
  · rw [htext] at h
    rcases List.mem_cons.1 h with rfl | h
    · decide
    · rcases List.mem_cons.1 h with rfl | h
      · split <;> decide
      · exact isNumberChar_of_isDecimal (hplaces c h)

include hne

theorem isNumberText_pointed (place : Int) : IsNumberText (pointed digits place) where
  chars _ h := isNumberChar_of_mem_pointed hdigits h
  head := by
    obtain ⟨d, rest, rfl⟩ := List.exists_cons_of_ne_nil hne
    have hd := hdigits d List.mem_cons_self
    rw [pointed]
    split
    · exact ⟨'0', rfl, by decide⟩
    · split
      · exact ⟨d, rfl, hd⟩
      · next hpos _ =>
        obtain ⟨n, hn⟩ : ∃ n, place.toNat = n + 1 := ⟨place.toNat - 1, by omega⟩
        rw [hn]
        exact ⟨d, rfl, hd⟩
  mark := by
    left
    rw [pointed]
    split
    · simp
    · split <;> simp

theorem isNumberText_scientific (e : Int) : IsNumberText (scientific digits e) where
  chars _ h := isNumberChar_of_mem_scientific hdigits h
  head := by
    match digits, hne, hdigits with
    | [d], _, h => exact ⟨d, rfl, h d List.mem_cons_self⟩
    | d :: _ :: _, _, h => exact ⟨d, rfl, h d List.mem_cons_self⟩
  mark := .inr (by simp [scientific])

end Characters

theorem Decimal.isNumberText_text (d : Decimal) : IsNumberText d.text := by
  have hne := toDigits_ne_nil d.digits
  have hdigits : ∀ c ∈ Nat.toDigits 10 d.digits, isDecimal c = true :=
    fun _ h => Text.isDecimal_of_mem_toDigits h
  rw [text]
  split
  · exact isNumberText_pointed hne hdigits _
  · exact isNumberText_scientific hne hdigits _

theorem Magnitude.isNumberText_text (x : Magnitude) : IsNumberText x.text := by
  rw [text]
  split
  · exact ⟨List.all_eq_true.1 rfl, ⟨'0', rfl, rfl⟩, .inl (by simp)⟩
  · exact x.shortest.isNumberText_text

/-! ## Signs and special values -/

/-- The characters of a number in JSON text. -/
def chars (x : Binary64) : List Char :=
  (x.text "NaN" "Infinity").toList

theorem chars_finite (negative : Bool) (x : Magnitude) :
    (finite negative x).chars = (if negative then ['-'] else []) ++ x.text := by
  cases negative <;> simp [chars, text]

theorem isNumberChar_of_mem_chars_finite {negative : Bool} {x : Magnitude} {c : Char}
    (h : c ∈ (finite negative x).chars) : isNumberChar c = true := by
  rw [chars_finite, List.mem_append] at h
  rcases h with h | h
  · cases negative with
    | false => cases h
    | true => exact List.mem_singleton.1 h ▸ by decide
  · exact x.isNumberText_text.chars c h

/-- The sign is told by the first character. -/
theorem chars_finite_injective {negative negative' : Bool} {x y : Magnitude}
    (h : (finite negative x).chars = (finite negative' y).chars) :
    negative = negative' ∧ x = y := by
  have hsign : ∀ z : Magnitude, z.text.head? ≠ some '-' := by
    intro z hz
    obtain ⟨c, hc, hdecimal⟩ := z.isNumberText_text.head
    rw [hz] at hc
    cases hc
    exact absurd hdecimal (by decide)
  rw [chars_finite, chars_finite] at h
  cases negative with
  | false =>
    cases negative' with
    | false => exact ⟨rfl, Magnitude.text_injective h⟩
    | true => exact absurd (congrArg List.head? h) (hsign x)
  | true =>
    cases negative' with
    | false => exact absurd (congrArg List.head? h.symm) (hsign y)
    | true => exact ⟨rfl, Magnitude.text_injective (List.cons.inj h).2⟩

/-- **The text of a number tells it**, special values and the signs of zeros included. -/
theorem chars_injective {a b : Binary64} (h : a.chars = b.chars) : a = b := by
  -- A special value has a letter that no finite number has.
  have hfinite : ∀ (negative : Bool) (x : Magnitude), 'N' ∉ (finite negative x).chars ∧
      'I' ∉ (finite negative x).chars := fun negative x =>
    ⟨fun hc => absurd (isNumberChar_of_mem_chars_finite hc) (by decide),
      fun hc => absurd (isNumberChar_of_mem_chars_finite hc) (by decide)⟩
  have hnan : 'N' ∈ nan.chars := by decide
  have hinfinity : ∀ negative, 'I' ∈ (infinity negative).chars := by decide
  cases a with
  | nan =>
    cases b with
    | nan => rfl
    | infinity negative => exact absurd h (by revert negative; decide)
    | finite negative y => exact absurd (h ▸ hnan) (hfinite negative y).1
  | infinity negative =>
    cases b with
    | nan => exact absurd h (by revert negative; decide)
    | infinity negative' => revert negative negative'; decide
    | finite negative' y => exact absurd (h ▸ hinfinity negative) (hfinite negative' y).2
  | finite negative x =>
    cases b with
    | nan => exact absurd (h.symm ▸ hnan) (hfinite negative x).1
    | infinity negative' => exact absurd (h.symm ▸ hinfinity negative') (hfinite negative x).2
    | finite negative' y =>
      obtain ⟨rfl, rfl⟩ := chars_finite_injective h
      rfl

end Binary64

end SampleTypes
