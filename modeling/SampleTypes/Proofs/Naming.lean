/-
The characters of names. Making a type name from a key changes letters only, and drops underscores;
naming one of many drops at most the last letter. Read character by character (`pascalChars`), a name
has the pieces of what it is made from (`splitChars_pascalChars`). A name is made from the parts between
underscores one by one, and made again it stays as it is (`pascalCase_of_parts`).
-/
import SampleTypes.Naming
import SampleTypes.Proofs.Text.Avoids
import SampleTypes.Proofs.Text.Uppercase

namespace SampleTypes

open Text

variable {x : Char}

theorem mem_capitalized (hx : x.toNat < 65) {cs : List Char} : x ∈ capitalized cs ↔ x ∈ cs := by
  cases cs with
  | nil => rfl
  | cons c rest => rw [capitalized, List.mem_append, mem_upperChar_iff hx, List.mem_cons]

theorem avoids_pascalCase (hx : x.toNat < 65) {s : String} :
    Avoids x (pascalCase s) ↔ Avoids x s := by
  have hne : x ≠ '_' := by
    rintro rfl
    exact absurd hx (by decide)
  have hmem : x ∈ (splitChars '_' s.toList).flatMap capitalized ↔ x ∈ s.toList := by
    simp only [List.mem_flatMap, mem_capitalized hx]
    rw [← List.mem_flatten, mem_flatten_splitChars, and_iff_left hne]
  rw [pascalCase, avoids_ofList, hmem, Avoids]

theorem avoids_singular {s : String} (h : Avoids x s) : Avoids x (singular s) := by
  rw [singular]
  split
  · rw [avoids_ofList]
    exact fun hx => h (List.dropLast_subset _ hx)
  · exact h

/-! ## Character by character -/

/-- The characters of a name made from some characters, when the next one that is no underscore is put
in capital form or is not. -/
def pascalChars (opens : Bool) : List Char → List Char
  | [] => []
  | c :: rest =>
    if c = '_' then pascalChars true rest
    else (if opens then upperChar c else [c]) ++ pascalChars false rest

theorem pascalChars_cons {opens : Bool} {c : Char} {rest : List Char} (hc : c ≠ '_') :
    pascalChars opens (c :: rest) =
      (if opens then upperChar c else [c]) ++ pascalChars false rest :=
  if_neg hc

theorem splitChars_capitalized (cs : List Char) :
    ∃ piece pieces, splitChars '_' cs = piece :: pieces ∧
      (piece :: pieces).flatMap capitalized = pascalChars true cs ∧
      piece ++ pieces.flatMap capitalized = pascalChars false cs := by
  induction cs with
  | nil => exact ⟨[], [], rfl, rfl, rfl⟩
  | cons c rest ih =>
    obtain ⟨piece, pieces, hcut, hopen, hplain⟩ := ih
    by_cases hc : c = '_'
    · refine ⟨[], piece :: pieces, ?_, ?_, ?_⟩
      · rw [splitChars, if_pos hc, hcut]
      · simpa [pascalChars, hc, capitalized] using hopen
      · simpa [pascalChars, hc] using hopen
    · refine ⟨c :: piece, pieces, ?_, ?_, ?_⟩
      · rw [splitChars, if_neg hc, hcut]
      · simp [pascalChars, hc, capitalized, ← hplain]
      · simp [pascalChars, hc, ← hplain]

theorem toList_pascalCase (s : String) : (pascalCase s).toList = pascalChars true s.toList := by
  obtain ⟨piece, pieces, hcut, hopen, -⟩ := splitChars_capitalized s.toList
  rw [pascalCase, String.toList_ofList, hcut, hopen]

theorem pascalChars_eq_nil_iff {opens : Bool} {cs : List Char} :
    pascalChars opens cs = [] ↔ ∀ c ∈ cs, c = '_' := by
  induction cs generalizing opens with
  | nil => simp [pascalChars]
  | cons c rest ih =>
    by_cases hc : c = '_'
    · simp [pascalChars, hc, ih]
    · cases opens <;> simp [pascalChars, hc, upperChar_ne_nil]

/-- Only from underscores no name is made. -/
theorem pascalCase_eq_empty_iff {s : String} : pascalCase s = "" ↔ ∀ c ∈ s.toList, c = '_' := by
  rw [← String.toList_eq_nil_iff, toList_pascalCase, pascalChars_eq_nil_iff]

/-! ## From the parts of a key -/

theorem pascalChars_append (opens : Bool) (as bs : List Char) :
    pascalChars opens (as ++ '_' :: bs) = pascalChars opens as ++ pascalChars true bs := by
  induction as generalizing opens with
  | nil => rfl
  | cons a rest ih =>
    by_cases ha : a = '_'
    · simp [pascalChars, ha, ih]
    · simp [pascalChars, ha, ih]

theorem pascalCase_append_underscore (a b : String) :
    pascalCase (a ++ "_" ++ b) = pascalCase a ++ pascalCase b := by
  have hchars : (a ++ "_" ++ b).toList = a.toList ++ '_' :: b.toList := by simp
  rw [← String.toList_inj, String.toList_append, toList_pascalCase, toList_pascalCase,
    toList_pascalCase, hchars, pascalChars_append]

theorem underscore_not_mem_pascalChars (opens : Bool) (cs : List Char) :
    '_' ∉ pascalChars opens cs := by
  induction cs generalizing opens with
  | nil => exact List.not_mem_nil
  | cons c rest ih =>
    by_cases hc : c = '_'
    · rw [pascalChars, if_pos hc]
      exact ih true
    · have hfront : '_' ∉ if opens then upperChar c else [c] := by
        have hcapital : '_' ∈ upperChar c ↔ '_' = c :=
          mem_upperChar_iff_of_not_letter (by decide) (by decide)
        cases opens <;> simp [hcapital, Ne.symm hc]
      rw [pascalChars_cons hc, List.mem_append, not_or]
      exact ⟨hfront, ih false⟩

theorem avoids_underscore_pascalCase (s : String) : Avoids '_' (pascalCase s) := by
  rw [Avoids, toList_pascalCase]
  exact underscore_not_mem_pascalChars true s.toList

/-- Without underscores, only the first character is put in capital form. -/
theorem pascalChars_of_not_mem {cs : List Char} (h : '_' ∉ cs) (opens : Bool) :
    pascalChars opens cs = if opens then capitalized cs else cs := by
  induction cs generalizing opens with
  | nil => cases opens <;> rfl
  | cons c rest ih =>
    rw [List.mem_cons, not_or] at h
    rw [pascalChars_cons (Ne.symm h.1), ih h.2]
    cases opens <;> rfl

/-- A name starts with a capital, as far as its first character has one. -/
theorem upperChar_of_head?_pascalChars {cs : List Char} {c : Char}
    (h : (pascalChars true cs).head? = some c) : upperChar c = [c] := by
  induction cs with
  | nil => cases h
  | cons d rest ih =>
    by_cases hd : d = '_'
    · rw [pascalChars, if_pos hd] at h
      exact ih h
    · rw [pascalChars_cons hd, if_pos rfl, List.head?_append_of_ne_nil _ (upperChar_ne_nil d)] at h
      exact upperChar_of_mem_upperChar (List.mem_of_mem_head? h)

theorem pascalCase_pascalCase (s : String) : pascalCase (pascalCase s) = pascalCase s := by
  rw [← String.toList_inj, toList_pascalCase, toList_pascalCase,
    pascalChars_of_not_mem (underscore_not_mem_pascalChars true s.toList), if_pos rfl]
  cases h : pascalChars true s.toList with
  | nil => rfl
  | cons c rest =>
    have hhead : (pascalChars true s.toList).head? = some c := by rw [h, List.head?_cons]
    rw [capitalized, upperChar_of_head?_pascalChars hhead]
    rfl

/-- **A name is made of the parts between underscores, one by one.** The name made from two parts with
an underscore between them is that of the first with that of the second behind it. No underscore is
left in a name, a name is empty exactly if it is made from underscores only, and the name made from a
name is that name. -/
theorem pascalCase_of_parts :
    (∀ a b, pascalCase (a ++ "_" ++ b) = pascalCase a ++ pascalCase b) ∧
    ∀ a, Avoids '_' (pascalCase a) ∧
      (pascalCase a = "" ↔ ∀ c ∈ a.toList, c = '_') ∧
      pascalCase (pascalCase a) = pascalCase a :=
  ⟨pascalCase_append_underscore, fun a =>
    ⟨avoids_underscore_pascalCase a, pascalCase_eq_empty_iff, pascalCase_pascalCase a⟩⟩

/-! ## Other separators -/

/-- A separator before the letters cuts the name where it cuts what the name is made from; only the
first piece is opened with a capital. -/
theorem splitChars_pascalChars {sep : Char} (hsep : sep.toNat < 65) (opens : Bool) (cs : List Char) :
    ∃ piece pieces, splitChars sep cs = piece :: pieces ∧
      splitChars sep (pascalChars opens cs) =
        pascalChars opens piece :: pieces.map (pascalChars false) := by
  induction cs generalizing opens with
  | nil => exact ⟨[], [], rfl, rfl⟩
  | cons c rest ih =>
    by_cases hc : c = '_'
    · have hne : c ≠ sep := by
        rintro rfl
        rw [hc] at hsep
        exact absurd hsep (by decide)
      obtain ⟨piece, pieces, hcut, hname⟩ := ih true
      refine ⟨c :: piece, pieces, ?_, ?_⟩
      · rw [splitChars, if_neg hne, hcut]
      · rw [pascalChars, if_pos hc, hname, pascalChars, if_pos hc]
    · obtain ⟨piece, pieces, hcut, hname⟩ := ih false
      by_cases hs : c = sep
      · -- a separator is its own capital
        have hupper : (if opens then upperChar c else [c]) = [c] := by
          rw [← hs] at hsep
          cases opens with
          | false => rfl
          | true => exact upperChar_of_toNat_le (by omega)
        refine ⟨[], piece :: pieces, ?_, ?_⟩
        · rw [splitChars, if_pos hs, hcut]
        · rw [pascalChars_cons hc, hupper, List.singleton_append, splitChars, if_pos hs, hname]
          rfl
      · have hout : sep ∉ if opens then upperChar c else [c] := by
          cases opens <;> simp [mem_upperChar_iff hsep, Ne.symm hs]
        refine ⟨c :: piece, pieces, ?_, ?_⟩
        · rw [splitChars, if_neg hs, hcut]
        · rw [pascalChars_cons hc, splitChars_append_of_not_mem hout, hname, List.modifyHead_cons,
            pascalChars_cons hc]

end SampleTypes
