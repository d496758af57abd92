/-
Capitals of single characters. The code points that have another capital, and those that are one, are
disjoint, so a capital is its own capital (`upperChar_of_mem_upperChar`). A character of ASCII that is
no letter is its own capital and that of no other one (`mem_upperChar_iff_of_not_letter`), so capitals
never bring in separators or control characters; and no capital is empty (`upperChar_ne_nil`).
-/
import SampleTypes.Text.Half
import SampleTypes.Text.Uppercase

namespace SampleTypes.Text

/-! ## Sets of code points -/

/-- A set of code points as the bits of one number, so that large ones are compared at once. -/
def bits : List Nat → Nat
  | [] => 0
  | n :: rest => 1 <<< n ||| bits rest

theorem testBit_bits {codes : List Nat} {n : Nat} : (bits codes).testBit n = decide (n ∈ codes) := by
  induction codes with
  | nil => simp [bits]
  | cons m rest ih =>
    rw [bits, Nat.testBit_or, ih, Nat.one_shiftLeft, Nat.testBit_two_pow]
    simp [eq_comm]

theorem bits_append (codes others : List Nat) :
    bits (codes ++ others) = bits codes ||| bits others := by
  induction codes with
  | nil => simp [bits]
  | cons n rest ih => rw [List.cons_append, bits, bits, ih, Nat.or_assoc]

theorem bits_flatMap {α : Type} {f : α → List Nat} {g : α → Nat} {as : List α}
    (h : ∀ a ∈ as, bits (f a) = g a) :
    bits (as.flatMap f) = as.foldr (fun a b => g a ||| b) 0 := by
  induction as with
  | nil => rfl
  | cons a as ih =>
    rw [List.flatMap_cons, bits_append, h a List.mem_cons_self,
      ih fun b hb => h b (List.mem_cons_of_mem a hb), List.foldr_cons]

/-- So many bits at one distance from each other, from zero on. -/
def evenBits (step : Nat) : Nat → Nat
  | 0 => 0
  | count + 1 => 1 ||| evenBits step count <<< step

/-- The bits of code points at one distance from each other, told without a list of them. -/
theorem bits_map_range (first step count : Nat) :
    bits ((List.range count).map (first + step * ·)) = evenBits step count <<< first := by
  induction count generalizing first with
  | zero => simp [bits, evenBits]
  | succ count ih =>
    have hrest : ((List.range count).map Nat.succ).map (first + step * ·) =
        (List.range count).map (first + step + step * ·) := by
      rw [List.map_map]
      apply List.map_congr_left
      intro i _
      show first + step * (i + 1) = first + step + step * i
      rw [Nat.mul_succ]
      omega
    rw [List.range_succ_eq_map, List.map_cons, hrest, bits, ih, evenBits, Nat.shiftLeft_or_distrib,
      ← Nat.shiftLeft_add, Nat.add_comm step first, Nat.mul_zero, Nat.add_zero]

theorem not_mem_of_bits {codes others : List Nat} (h : bits codes &&& bits others = 0) {n : Nat}
    (hn : n ∈ codes) : n ∉ others := by
  intro hother
  have hbit : (bits codes &&& bits others).testBit n = true := by
    rw [Nat.testBit_and, testBit_bits, testBit_bits, decide_eq_true hn, decide_eq_true hother]
    rfl
  rw [h, Nat.zero_testBit] at hbit
  cases hbit

/-! ## The tables -/

/-- The code points that get their capitals from a run. -/
def covered (run : Nat × Nat × Nat × Int) : List Nat :=
  (List.range ((run.2.1 - run.1) / run.2.2.1 + 1)).map (run.1 + run.2.2.1 * ·)

/-- The code points behind ASCII that are not their own capitals. -/
def smallCodes : List Nat :=
  capitalRuns.flatMap covered ++ longCapitals.map Prod.fst

/-- The code points that their capitals are made of. -/
def capitalCodes : List Nat :=
  capitalRuns.flatMap (fun run => (covered run).map fun n : Nat => (n + run.2.2.2).toNat) ++
    longCapitals.flatMap Prod.snd

/-- The code points of a run, moved by a distance. -/
def runBits (distance : Int) (run : Nat × Nat × Nat × Int) : Nat :=
  evenBits run.2.2.1 ((run.2.1 - run.1) / run.2.2.1 + 1) <<< (run.1 + distance).toNat

theorem bits_covered (run : Nat × Nat × Nat × Int) : bits (covered run) = runBits 0 run := by
  rw [covered, bits_map_range, runBits, Int.add_zero, Int.toNat_natCast]

theorem bits_moved {run : Nat × Nat × Nat × Int} (h : 0 ≤ run.1 + run.2.2.2) :
    bits ((covered run).map fun n : Nat => (n + run.2.2.2).toNat) = runBits run.2.2.2 run := by
  rw [runBits, ← bits_map_range, covered, List.map_map]
  congr 1
  apply List.map_congr_left
  intro i _
  show ((run.1 + run.2.2.1 * i : Nat) + run.2.2.2).toNat =
    (run.1 + run.2.2.2).toNat + run.2.2.1 * i
  omega

/-- What the tables hold: runs between their ends, and capitals that are letters of ASCII or code
points of characters behind it. -/
theorem capital_tables :
    (∀ run ∈ capitalRuns, run.1 ≤ run.2.1 ∧
      (65 ≤ run.1 + run.2.2.2 ∧ run.2.1 + run.2.2.2 ≤ 90 ∨ 128 ≤ run.1 + run.2.2.2) ∧
      (run.2.1 + run.2.2.2 < 0xD800 ∨
        0xDFFF < run.1 + run.2.2.2 ∧ run.2.1 + run.2.2.2 < 0x110000)) ∧
    ∀ entry ∈ longCapitals, entry.2 ≠ [] ∧ ∀ n ∈ entry.2,
      (65 ≤ n ∧ n ≤ 90 ∨ 128 ≤ n) ∧ (n < 0xD800 ∨ 0xDFFF < n ∧ n < 0x110000) := by
  decide +kernel

theorem bits_smallCodes : bits smallCodes =
    capitalRuns.foldr (fun run b => runBits 0 run ||| b) 0 |||
      bits (longCapitals.map Prod.fst) := by
  rw [smallCodes, bits_append, bits_flatMap fun run _ => bits_covered run]

theorem bits_capitalCodes : bits capitalCodes =
    capitalRuns.foldr (fun run b => runBits run.2.2.2 run ||| b) 0 |||
      bits (longCapitals.flatMap Prod.snd) := by
  have hmoved : ∀ run ∈ capitalRuns,
      bits ((covered run).map fun n : Nat => (n + run.2.2.2).toNat) = runBits run.2.2.2 run := by
    intro run hrun
    have hbounds := capital_tables.1 run hrun
    exact bits_moved (by omega)
  rw [capitalCodes, bits_append, bits_flatMap hmoved]

theorem capitalCodes_disjoint : bits capitalCodes &&& bits smallCodes = 0 := by
  rw [bits_capitalCodes, bits_smallCodes]
  decide +kernel

theorem le_of_mem_covered {run : Nat × Nat × Nat × Int} (hrun : run.1 ≤ run.2.1) {n : Nat}
    (hn : n ∈ covered run) : run.1 ≤ n ∧ n ≤ run.2.1 := by
  obtain ⟨i, hi, rfl⟩ := List.mem_map.1 hn
  have hcount : i ≤ (run.2.1 - run.1) / run.2.2.1 := Nat.le_of_lt_succ (List.mem_range.1 hi)
  have hlast : run.2.2.1 * i ≤ run.2.1 - run.1 :=
    Nat.le_trans (Nat.mul_le_mul_left _ hcount) (Nat.mul_div_le _ _)
  omega

theorem capitalCodes_bounds : ∀ n ∈ capitalCodes,
    (65 ≤ n ∧ n ≤ 90 ∨ 128 ≤ n) ∧ (n < 0xD800 ∨ 0xDFFF < n ∧ n < 0x110000) := by
  intro n hn
  rcases List.mem_append.1 hn with hshort | hlong
  · obtain ⟨run, hrun, hn⟩ := List.mem_flatMap.1 hshort
    obtain ⟨m, hm, rfl⟩ := List.mem_map.1 hn
    obtain ⟨horder, hbounds⟩ := capital_tables.1 run hrun
    have hends := le_of_mem_covered horder hm
    omega
  · obtain ⟨entry, hentry, hn⟩ := List.mem_flatMap.1 hlong
    exact (capital_tables.2 entry hentry).2 n hn

theorem mem_covered {first last step n : Nat} {shift : Int} (hlow : first ≤ n) (hhigh : n ≤ last)
    (hstep : (n - first) % step = 0) : n ∈ covered (first, last, step, shift) := by
  have hquotient : (n - first) / step ≤ (last - first) / step := Nat.div_le_div_right (by omega)
  have hn : step * ((n - first) / step) = n - first :=
    Nat.mul_div_cancel' (Nat.dvd_of_mod_eq_zero hstep)
  refine List.mem_map.2 ⟨(n - first) / step, List.mem_range.2 (Nat.lt_succ_of_le hquotient), ?_⟩
  show first + step * ((n - first) / step) = n
  omega

theorem shortCapital_cases (n : Nat) :
    shortCapital n = n ∨ n ∈ smallCodes ∧ shortCapital n ∈ capitalCodes := by
  rw [shortCapital]
  split
  · next first last step shift hfind =>
    have hrun := List.mem_of_find?_eq_some hfind
    have hcovers := List.find?_some hfind
    simp only [Bool.and_eq_true, decide_eq_true_eq, beq_iff_eq] at hcovers
    have hn : n ∈ covered (first, last, step, shift) :=
      mem_covered hcovers.1.1 hcovers.1.2 hcovers.2
    exact .inr ⟨List.mem_append_left _ (List.mem_flatMap.2 ⟨_, hrun, hn⟩),
      List.mem_append_left _ (List.mem_flatMap.2 ⟨_, hrun, List.mem_map.2 ⟨n, hn, rfl⟩⟩)⟩
  · exact .inl rfl

/-- Behind ASCII, a character is its own capital, or its capital is made of such code points. -/
theorem upperChar_cases {c : Char} (hc : 128 ≤ c.toNat) :
    upperChar c = [c] ∨ c.toNat ∈ smallCodes ∧
      ∃ codes ≠ [], upperChar c = codes.map Char.ofNat ∧ ∀ n ∈ codes, n ∈ capitalCodes := by
  rw [upperChar, if_neg (by omega)]
  split
  · next code codes hfind =>
    have hentry := List.mem_of_find?_eq_some hfind
    have hcode : code = c.toNat := by simpa using List.find?_some hfind
    exact .inr ⟨List.mem_append_right _ (List.mem_map.2 ⟨_, hentry, hcode⟩), codes,
      (capital_tables.2 _ hentry).1, rfl,
      fun n hn => List.mem_append_right _ (List.mem_flatMap.2 ⟨_, hentry, hn⟩)⟩
  · rcases shortCapital_cases c.toNat with hown | ⟨hsmall, hcapital⟩
    · rw [hown, Char.ofNat_toNat]
      exact .inl rfl
    · exact .inr ⟨hsmall, [shortCapital c.toNat], List.cons_ne_nil _ _, rfl,
        List.forall_mem_singleton.2 hcapital⟩

theorem upperChar_of_not_mem {c : Char} (hc : 128 ≤ c.toNat) (h : c.toNat ∉ smallCodes) :
    upperChar c = [c] :=
  (upperChar_cases hc).resolve_right fun hsmall => h hsmall.1

/-! ## Capitals of characters -/

/-- A letter of ASCII. -/
def isLetterCode (n : Nat) : Bool :=
  (65 ≤ n && n ≤ 90) || (97 ≤ n && n ≤ 122)

theorem toUpper_ascii : ∀ n < 128,
    (isLetterCode n = true ∧ 65 ≤ (Char.ofNat n).toUpper.toNat ∧ (Char.ofNat n).toUpper.toNat ≤ 90 ∨
      (Char.ofNat n).toUpper = Char.ofNat n) ∧
    (n ≤ 90 → (Char.ofNat n).toUpper = Char.ofNat n) := by
  decide +kernel

/-- No character is lost. -/
theorem upperChar_ne_nil (c : Char) : upperChar c ≠ [] := by
  by_cases hc : c.toNat < 128
  · rw [upperChar, if_pos hc]
    exact List.cons_ne_nil _ _
  · rcases upperChar_cases (Nat.le_of_not_lt hc) with hown | ⟨-, codes, hne, hcodes, -⟩
    · rw [hown]
      exact List.cons_ne_nil _ _
    · rw [hcodes]
      exact fun h => hne (List.map_eq_nil_iff.1 h)

theorem upperChar_of_toNat_le {c : Char} (h : c.toNat ≤ 90) : upperChar c = [c] := by
  have hupper := (toUpper_ascii c.toNat (by omega)).2 h
  rw [Char.ofNat_toNat] at hupper
  rw [upperChar, if_pos (by omega), hupper]

/-- What stands in the capital of a character behind ASCII. -/
theorem mem_upperChar_cases {x c : Char} (hc : 128 ≤ c.toNat) (h : x ∈ upperChar c) :
    x = c ∧ upperChar c = [c] ∨
      x.toNat ∈ capitalCodes ∧ (65 ≤ x.toNat ∧ x.toNat ≤ 90 ∨ 128 ≤ x.toNat) := by
  rcases upperChar_cases hc with hown | ⟨-, codes, -, hcodes, hcapitals⟩
  · rw [hown] at h
    exact .inl ⟨List.mem_singleton.1 h, hown⟩
  · rw [hcodes] at h
    obtain ⟨n, hn, rfl⟩ := List.mem_map.1 h
    obtain ⟨hbounds, hvalid⟩ := capitalCodes_bounds n (hcapitals n hn)
    rw [toNat_ofNat_of_valid hvalid]
    exact .inr ⟨hcapitals n hn, hbounds⟩

/-- **A capital is its own capital.** -/
theorem upperChar_of_mem_upperChar {x c : Char} (h : x ∈ upperChar c) : upperChar x = [x] := by
  by_cases hc : c.toNat < 128
  · obtain ⟨hupper, -⟩ := toUpper_ascii c.toNat hc
    rw [Char.ofNat_toNat] at hupper
    have hcapital := h
    rw [upperChar, if_pos hc, List.mem_singleton] at hcapital
    rcases hupper with ⟨-, -, hbound⟩ | hown
    · exact upperChar_of_toNat_le (hcapital ▸ hbound)
    · obtain rfl : x = c := hcapital.trans hown
      rw [upperChar, if_pos hc, hown]
  · rcases mem_upperChar_cases (Nat.le_of_not_lt hc) h with ⟨rfl, hown⟩ | ⟨hcapital, hbounds⟩
    · exact hown
    · rcases hbounds with ⟨-, hbound⟩ | hbehind
      · exact upperChar_of_toNat_le hbound
      · exact upperChar_of_not_mem hbehind (not_mem_of_bits capitalCodes_disjoint hcapital)

/-- A character of ASCII that is no letter is its own capital, and the capital of no other. -/
theorem mem_upperChar_iff_of_not_letter {x c : Char} (hx : x.toNat < 128)
    (hletter : isLetterCode x.toNat = false) : x ∈ upperChar c ↔ x = c := by
  have hcode : ¬ (65 ≤ x.toNat ∧ x.toNat ≤ 90) := by
    simp [isLetterCode] at hletter
    omega
  by_cases hc : c.toNat < 128
  · obtain ⟨hupper, -⟩ := toUpper_ascii c.toNat hc
    rw [Char.ofNat_toNat] at hupper
    rw [upperChar, if_pos hc, List.mem_singleton]
    rcases hupper with ⟨hc', hlow, hhigh⟩ | hown
    · constructor
      · rintro rfl
        exact absurd ⟨hlow, hhigh⟩ hcode
      · rintro rfl
        rw [hletter] at hc'
        cases hc'
    · rw [hown]
  · refine ⟨fun h => ?_, ?_⟩
    · rcases mem_upperChar_cases (Nat.le_of_not_lt hc) h with ⟨rfl, -⟩ | ⟨-, hbounds⟩
      · rfl
      · omega
    · rintro rfl
      omega

/-- Behind ASCII, so is what has no capital and is none. -/
theorem mem_upperChar_iff_of_not_mem {x c : Char} (hx : 128 ≤ x.toNat) (hsmall : x.toNat ∉ smallCodes)
    (hcapital : x.toNat ∉ capitalCodes) : x ∈ upperChar c ↔ x = c := by
  constructor
  · intro h
    by_cases hc : c.toNat < 128
    · obtain ⟨hupper, -⟩ := toUpper_ascii c.toNat hc
      rw [Char.ofNat_toNat] at hupper
      rw [upperChar, if_pos hc, List.mem_singleton] at h
      rcases hupper with ⟨-, -, hbound⟩ | hown
      · rw [← h] at hbound
        omega
      · exact h.trans hown
    · exact (mem_upperChar_cases (Nat.le_of_not_lt hc) h).elim And.left fun hx => absurd hx.1 hcapital
  · rintro rfl
    rw [upperChar_of_not_mem hx hsmall]
    exact List.mem_singleton_self x

/-- So is what stands before the letters. -/
theorem mem_upperChar_iff {x c : Char} (hx : x.toNat < 65) : x ∈ upperChar c ↔ x = c :=
  mem_upperChar_iff_of_not_letter (by omega) (by simp [isLetterCode]; omega)

end SampleTypes.Text
