/-
Digits of every script. A digit in the wide sense is its own capital and that of no other character, so
a text of digits is the same in capital form, and nothing else becomes one (`upper_of_digits`,
`all_isDigit_upper`). Digits write a number exactly if all of them are decimal
(`decimalNumber?_isSome_iff`).
-/
import Mathlib.Data.List.Basic
import SampleTypes.Text.Digit
import SampleTypes.Proofs.Text.Uppercase

namespace SampleTypes.Text

/-! ## Digits in capital form -/

/-- The code points of digits in the wide sense. -/
def digitCodes : List Nat :=
  decimalZeros.flatMap (fun first => (List.range 10).map (first + ·)) ++
    otherDigits.flatMap fun (first, last) => (List.range (last - first + 1)).map (first + ·)

theorem bits_neighbours (first count : Nat) :
    bits ((List.range count).map (first + ·)) = evenBits 1 count <<< first := by
  simpa only [Nat.one_mul] using bits_map_range first 1 count

/-- The code points of ASCII from the letters on. -/
def letterCodes : List Nat :=
  (List.range (127 - 65 + 1)).map (65 + ·)

theorem digitCodes_disjoint :
    bits digitCodes &&& bits (letterCodes ++ (smallCodes ++ capitalCodes)) = 0 := by
  rw [bits_append, bits_append, letterCodes, bits_neighbours, bits_smallCodes, bits_capitalCodes,
    digitCodes, bits_append, bits_flatMap fun first _ => bits_neighbours first 10,
    bits_flatMap fun run _ => bits_neighbours run.1 (run.2 - run.1 + 1)]
  decide +kernel

theorem mem_range_map_add {first last n : Nat} (hlow : first ≤ n) (hhigh : n ≤ last) :
    n ∈ (List.range (last - first + 1)).map (first + ·) :=
  List.mem_map.2 ⟨n - first, List.mem_range.2 (by omega), by omega⟩

theorem mem_digitCodes {c : Char} (h : isDigit c = true) : c.toNat ∈ digitCodes := by
  rw [isDigit, Bool.or_eq_true] at h
  rcases h with h | h
  · rw [decimalValue?, Option.isSome_map, List.find?_isSome] at h
    obtain ⟨first, hfirst, hc⟩ := h
    rw [Bool.and_eq_true, decide_eq_true_eq, decide_eq_true_eq] at hc
    have hmem : c.toNat ∈ (List.range (first + 9 - first + 1)).map (first + ·) :=
      mem_range_map_add hc.1 hc.2
    rw [Nat.add_sub_cancel_left] at hmem
    exact List.mem_append_left _ (List.mem_flatMap.2 ⟨first, hfirst, hmem⟩)
  · obtain ⟨⟨first, last⟩, hrun, hc⟩ := List.any_eq_true.1 h
    rw [Bool.and_eq_true, decide_eq_true_eq, decide_eq_true_eq] at hc
    exact List.mem_append_right _ (List.mem_flatMap.2 ⟨_, hrun, mem_range_map_add hc.1 hc.2⟩)

/-- A digit is its own capital, and the capital of no other character. -/
theorem mem_upperChar_iff_of_isDigit {x c : Char} (hx : isDigit x = true) :
    x ∈ upperChar c ↔ x = c := by
  have hno := not_mem_of_bits digitCodes_disjoint (mem_digitCodes hx)
  rw [List.mem_append, List.mem_append, not_or, not_or] at hno
  obtain ⟨hletter, hsmall, hcapital⟩ := hno
  rcases Nat.lt_or_ge x.toNat 65 with hlow | hbehind
  · exact mem_upperChar_iff hlow
  · have hhigh : 128 ≤ x.toNat := by
      by_contra hascii
      exact hletter (mem_range_map_add hbehind (by omega))
    exact mem_upperChar_iff_of_not_mem hhigh hsmall hcapital

theorem upper_of_digits {s : String} (h : ∀ c ∈ s.toList, isDigit c = true) : upper s = s := by
  have hown : ∀ c ∈ s.toList, upperChar c = [c] := fun c hc =>
    upperChar_of_mem_upperChar ((mem_upperChar_iff_of_isDigit (h c hc)).2 rfl)
  rw [upper, List.flatMap_congr hown, List.flatMap_singleton', String.ofList_toList]

theorem all_isDigit_upper {s : String} :
    (∀ x ∈ (upper s).toList, isDigit x = true) ↔ ∀ c ∈ s.toList, isDigit c = true := by
  refine ⟨fun h c hc => ?_, fun h => by rwa [upper_of_digits h]⟩
  obtain ⟨x, hx⟩ := List.exists_mem_of_ne_nil _ (upperChar_ne_nil c)
  have hdigit : isDigit x = true := by
    refine h x ?_
    rw [upper, String.toList_ofList]
    exact List.mem_flatMap.2 ⟨c, hc, hx⟩
  rwa [(mem_upperChar_iff_of_isDigit hdigit).1 hx] at hdigit

theorem upper_eq_empty_iff {s : String} : upper s = "" ↔ s = "" := by
  rw [← String.toList_eq_nil_iff, ← String.toList_eq_nil_iff, upper, String.toList_ofList,
    List.flatMap_eq_nil_iff]
  constructor
  · intro h
    exact List.eq_nil_iff_forall_not_mem.2 fun c hc => upperChar_ne_nil c (h c hc)
  · intro h
    simp [h]

/-! ## Numbers -/

theorem decimalNumber?_isSome_iff {s : String} :
    (decimalNumber? s).isSome ↔ ∀ c ∈ s.toList, (decimalValue? c).isSome := by
  rw [decimalNumber?]
  generalize 0 = total
  induction s.toList generalizing total with
  | nil => simp
  | cons c rest ih =>
    rw [List.foldlM_cons, List.forall_mem_cons]
    cases hc : decimalValue? c with
    | none => simp
    | some d => simpa using ih (total * 10 + d)

end SampleTypes.Text
