/-
Which characters a text holds, told by the parts that it is made of: a text avoids a character if all
its parts do. Lines put together are as many lines as there were texts, and are cut into these again,
exactly if no text holds a line feed (`count_unlines_eq_length_iff`, `split_unlines_iff`). Reading line
breaks as one kind changes a text only if it holds a carriage return (`unifyBreaks_eq_self_iff`).
-/
import Mathlib.Data.List.Basic
import SampleTypes.Text.Lines
import SampleTypes.Text.Blank

namespace SampleTypes.Text

/-- No character of the text is `x`. -/
def Avoids (x : Char) (s : String) : Prop :=
  x ∉ s.toList

instance (x : Char) (s : String) : Decidable (Avoids x s) :=
  inferInstanceAs (Decidable (x ∉ s.toList))

variable {x : Char}

@[simp] theorem avoids_append {s t : String} : Avoids x (s ++ t) ↔ Avoids x s ∧ Avoids x t := by
  simp [Avoids]

@[simp] theorem avoids_ofList {cs : List Char} : Avoids x (String.ofList cs) ↔ x ∉ cs := by
  simp [Avoids]

theorem mem_flatten_splitChars {sep : Char} {cs : List Char} :
    x ∈ (splitChars sep cs).flatten ↔ x ∈ cs ∧ x ≠ sep := by
  induction cs with
  | nil => simp [splitChars]
  | cons c rest ih =>
    rw [splitChars]
    split
    · next hc =>
      subst hc
      rw [List.flatten_cons, List.nil_append, ih, List.mem_cons]
      exact ⟨fun h => ⟨.inr h.1, h.2⟩, fun h => ⟨h.1.resolve_left h.2, h.2⟩⟩
    · next hc =>
      split
      · next h => exact absurd h (splitChars_ne_nil sep rest)
      · next piece pieces h =>
        rw [h] at ih
        rw [List.flatten_cons, List.cons_append, List.mem_cons, ← List.flatten_cons, ih, List.mem_cons]
        constructor
        · rintro (rfl | ⟨hx, hne⟩)
          · exact ⟨.inl rfl, hc⟩
          · exact ⟨.inr hx, hne⟩
        · rintro ⟨rfl | hx, hne⟩
          · exact .inl rfl
          · exact .inr ⟨hx, hne⟩

theorem avoids_of_mem_split {sep : Char} {s piece : String} (h : piece ∈ split sep s) :
    Avoids sep piece := by
  obtain ⟨cs, hcs, rfl⟩ := List.mem_map.1 h
  rw [avoids_ofList]
  intro hx
  exact (mem_flatten_splitChars.1 (List.mem_flatten.2 ⟨cs, hcs, hx⟩)).2 rfl

theorem Avoids.of_mem_split {sep : Char} {s piece : String} (hs : Avoids x s)
    (h : piece ∈ split sep s) : Avoids x piece := by
  obtain ⟨cs, hcs, rfl⟩ := List.mem_map.1 h
  rw [avoids_ofList]
  intro hx
  exact hs (mem_flatten_splitChars.1 (List.mem_flatten.2 ⟨cs, hcs, hx⟩)).1

theorem avoids_join {sep : String} (hsep : Avoids x sep) {ss : List String} :
    Avoids x (join sep ss) ↔ ∀ s ∈ ss, Avoids x s := by
  fun_induction join sep ss with
  | case1 => simp [Avoids]
  | case2 s => simp
  | case3 s t rest ih => simp [ih, hsep]

theorem avoids_unlines (hx : x ≠ '\n') {ss : List String} :
    Avoids x (unlines ss) ↔ ∀ s ∈ ss, Avoids x s := by
  have hbreak : Avoids x "\n" := by simpa [Avoids] using hx
  induction ss with
  | nil => simp [unlines, Avoids]
  | cons s rest ih => simp [unlines, ih, hbreak]

theorem avoids_padEnd (hx : x ≠ ' ') {width : Nat} {s : String} :
    Avoids x (padEnd width s) ↔ Avoids x s := by
  simp [padEnd, List.mem_replicate, hx]

theorem avoids_replaceEach {f : Char → List Char} {s : String} :
    Avoids x (replaceEach f s) ↔ ∀ c ∈ s.toList, x ∉ f c := by
  simp [replaceEach]

theorem Avoids.trimEnd {s : String} (h : Avoids x s) : Avoids x (trimEnd s) := by
  rw [Text.trimEnd, avoids_ofList, dropEndWhile, List.mem_reverse]
  intro hx
  exact h (List.mem_reverse.1 ((List.dropWhile_sublist _).subset hx))

/-! ## Cutting -/

theorem splitChars_of_not_mem {sep : Char} {cs : List Char} (h : sep ∉ cs) :
    splitChars sep cs = [cs] := by
  induction cs with
  | nil => rfl
  | cons c rest ih =>
    rw [List.mem_cons, not_or] at h
    rw [splitChars, if_neg (Ne.symm h.1), ih h.2]

theorem splitChars_append_cons (sep : Char) (cs rest : List Char) :
    splitChars sep (cs ++ sep :: rest) = splitChars sep cs ++ splitChars sep rest := by
  induction cs with
  | nil => exact if_pos rfl
  | cons c cs ih =>
    rw [List.cons_append, splitChars, splitChars, ih]
    split
    · rfl
    · cases h : splitChars sep cs with
      | nil => exact absurd h (splitChars_ne_nil sep cs)
      | cons piece pieces => rfl

theorem splitChars_append_sep {sep : Char} {cs : List Char} (h : sep ∉ cs) (rest : List Char) :
    splitChars sep (cs ++ sep :: rest) = cs :: splitChars sep rest := by
  rw [splitChars_append_cons, splitChars_of_not_mem h, List.singleton_append]

/-- What is put together with separators has the pieces of its parts. -/
theorem splitChars_join {sep : Char} {text : String} (htext : text.toList = [sep])
    {ss : List String} (hne : ss ≠ []) :
    splitChars sep (join text ss).toList = ss.flatMap fun s => splitChars sep s.toList := by
  fun_induction join text ss with
  | case1 => exact absurd rfl hne
  | case2 s => rw [List.flatMap_singleton]
  | case3 s t rest ih =>
    rw [String.toList_append, String.toList_append, htext, List.append_assoc, List.singleton_append,
      splitChars_append_cons, ih (List.cons_ne_nil t rest)]
    rfl

/-- What is put together with separators is cut there again. -/
theorem split_join {sep : Char} {text : String} (htext : text.toList = [sep]) {ss : List String}
    (hne : ss ≠ []) (hss : ∀ s ∈ ss, Avoids sep s) : split sep (join text ss) = ss := by
  have hpieces : (ss.flatMap fun s => splitChars sep s.toList) = ss.map String.toList := by
    rw [List.map_eq_flatMap]
    exact List.flatMap_congr fun s hs => splitChars_of_not_mem (hss s hs)
  rw [split, splitChars_join htext hne, hpieces, List.map_map]
  exact (List.map_congr_left fun s _ => String.ofList_toList).trans (List.map_id ss)

theorem split_of_avoids {sep : Char} {s : String} (h : Avoids sep s) : split sep s = [s] := by
  rw [split, splitChars_of_not_mem h, List.map_singleton, String.ofList_toList]

/-- Every text has a last piece. -/
theorem exists_split_eq_append (sep : Char) (s : String) :
    ∃ above last, split sep s = above ++ [last] := by
  have hne : split sep s ≠ [] := fun h => splitChars_ne_nil sep s.toList (List.map_eq_nil_iff.1 h)
  exact ⟨_, _, (List.dropLast_append_getLast hne).symm⟩

/-- What is cut at a separator is put together there again. -/
theorem join_split {sep : Char} {text : String} (htext : text.toList = [sep]) (s : String) :
    join text (split sep s) = s := by
  have hchars (cs : List Char) : (join text ((splitChars sep cs).map String.ofList)).toList = cs := by
    induction cs with
    | nil => simp [splitChars, join]
    | cons c rest ih =>
      rw [splitChars]
      split
      · next hc =>
        have hne : (splitChars sep rest).map String.ofList ≠ [] := by simp [splitChars_ne_nil]
        rw [List.map_cons, join_cons, if_neg hne]
        simp [htext, ih, hc]
      · cases hcut : splitChars sep rest with
        | nil => exact absurd hcut (splitChars_ne_nil sep rest)
        | cons piece pieces =>
          rw [hcut, List.map_cons, join_cons] at ih
          simpa [join_cons] using ih
  exact String.toList_injective (hchars s.toList)

/-- What is put in front of a text goes to its first piece. -/
theorem splitChars_append_of_not_mem {sep : Char} {cs : List Char} (h : sep ∉ cs) (ds : List Char) :
    splitChars sep (cs ++ ds) = (splitChars sep ds).modifyHead (cs ++ ·) := by
  induction cs with
  | nil => cases hds : splitChars sep ds <;> simp [hds]
  | cons c cs ih =>
    rw [List.mem_cons, not_or] at h
    rw [List.cons_append, splitChars, if_neg (Ne.symm h.1), ih h.2]
    cases hds : splitChars sep ds with
    | nil => exact absurd hds (splitChars_ne_nil sep ds)
    | cons piece pieces => rfl

/-- What is put behind a text goes to its last piece. -/
theorem splitChars_append {sep : Char} {ds : List Char} (h : sep ∉ ds) (cs : List Char) :
    ∃ pieces last, splitChars sep cs = pieces ++ [last] ∧
      splitChars sep (cs ++ ds) = pieces ++ [last ++ ds] := by
  induction cs with
  | nil => exact ⟨[], [], rfl, by rw [List.nil_append, splitChars_of_not_mem h]; rfl⟩
  | cons c rest ih =>
    obtain ⟨pieces, last, hcut, hmore⟩ := ih
    rw [List.cons_append, splitChars, splitChars, hcut, hmore]
    split
    · exact ⟨[] :: pieces, last, rfl, rfl⟩
    · cases pieces with
      | nil => exact ⟨[], c :: last, rfl, rfl⟩
      | cons piece pieces => exact ⟨(c :: piece) :: pieces, last, rfl, rfl⟩

/-! ## Lines put together -/

theorem count_unlines_cons (s : String) (rest : List String) :
    (unlines (s :: rest)).toList.count '\n' =
      s.toList.count '\n' + 1 + (unlines rest).toList.count '\n' := by
  have hfeed : "\n".toList.count '\n' = 1 := by decide
  rw [unlines, String.toList_append, String.toList_append, List.count_append, List.count_append,
    hfeed]

theorem length_le_count_unlines (ss : List String) :
    ss.length ≤ (unlines ss).toList.count '\n' := by
  induction ss with
  | nil => exact Nat.zero_le _
  | cons s rest ih =>
    rw [count_unlines_cons, List.length_cons]
    omega

/-- As many lines as there were texts, exactly if no text holds a line feed. -/
theorem count_unlines_eq_length_iff {ss : List String} :
    (unlines ss).toList.count '\n' = ss.length ↔ ∀ s ∈ ss, Avoids '\n' s := by
  induction ss with
  | nil => simp [unlines]
  | cons s rest ih =>
    have hrest := length_le_count_unlines rest
    rw [count_unlines_cons, List.length_cons, List.forall_mem_cons, ← ih, Avoids,
      ← List.count_eq_zero]
    omega

theorem getLast?_unlines {ss : List String} (h : ss ≠ []) :
    (unlines ss).toList.getLast? = some '\n' := by
  induction ss with
  | nil => exact absurd rfl h
  | cons s rest ih =>
    rw [unlines, String.toList_append, List.getLast?_append]
    cases rest with
    | nil => simp [unlines]
    | cons t rest => rw [ih (List.cons_ne_nil t rest), Option.some_or]

/-- Lines put together are cut at their ends again, exactly if there are no other ends to cut at;
nothing is behind the last one. -/
theorem split_unlines_iff {ss : List String} :
    split '\n' (unlines ss) = ss ++ [""] ↔ ∀ s ∈ ss, Avoids '\n' s := by
  refine ⟨fun h s hs => avoids_of_mem_split (h ▸ List.mem_append_left _ hs), fun h => ?_⟩
  induction ss with
  | nil => rfl
  | cons s rest ih =>
    rw [List.forall_mem_cons] at h
    have hrest := ih h.2
    rw [split] at hrest ⊢
    rw [unlines, String.toList_append, String.toList_append, List.append_assoc,
      show "\n".toList = ['\n'] from rfl, List.singleton_append, splitChars_append_sep h.1,
      List.map_cons, hrest, String.ofList_toList, List.cons_append]

/-! ## Line breaks -/

theorem not_mem_unifyBreaks (cs : List Char) : '\r' ∉ unifyBreaks cs := by
  fun_induction unifyBreaks cs with
  | case1 => simp
  | case2 rest ih | case3 rest _ ih => simp [ih]
  | case4 c rest _ hc ih =>
    rw [List.mem_cons, not_or]
    exact ⟨Ne.symm hc, ih⟩

theorem unifyBreaks_eq_self_iff {cs : List Char} : unifyBreaks cs = cs ↔ '\r' ∉ cs := by
  refine ⟨fun h => h ▸ not_mem_unifyBreaks cs, fun h => ?_⟩
  fun_induction unifyBreaks cs with
  | case1 => rfl
  | case2 rest ih | case3 rest _ ih => simp at h
  | case4 c rest _ hc ih => rw [ih fun hr => h (List.mem_cons_of_mem c hr)]

end SampleTypes.Text
