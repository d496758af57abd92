/-
Lines with their ends. Every line that a text is cut into is one line, and all but the last end with a
break. Texts that are one line each, put together, are cut into these again exactly if all but the last
end with a break (`linesWithEnds_flatten`, `length_linesWithEnds_flatten_iff`): one that does not runs
into the next.
-/
import SampleTypes.Text.Lines

namespace SampleTypes

/-! ## All but the last -/

/-- Every element but the last. -/
def AllButLast {α : Type} (p : α → Prop) (xs : List α) : Prop :=
  ∀ x ∈ xs.dropLast, p x

section

variable {α β : Type} {p : α → Prop} {xs ys : List α}

theorem AllButLast.nil : AllButLast p [] :=
  List.forall_mem_nil p

theorem AllButLast.singleton (x : α) : AllButLast p [x] :=
  List.forall_mem_nil p

theorem AllButLast.of_forall (h : ∀ x ∈ xs, p x) : AllButLast p xs :=
  fun x hx => h x (List.dropLast_subset xs hx)

/-- An element is not the last exactly where something stands behind it. -/
theorem AllButLast.of_forall_cut
    (h : ∀ before x after, xs = before ++ x :: after → after ≠ [] → p x) : AllButLast p xs := by
  intro x hx
  obtain ⟨before, after, hdrop⟩ := List.append_of_mem hx
  have hne : xs ≠ [] := by
    rintro rfl
    cases hx
  refine h before x (after ++ [xs.getLast hne]) ?_ (by simp)
  rw [← List.cons_append, ← List.append_assoc, ← hdrop, List.dropLast_concat_getLast]

theorem allButLast_append (h : ys ≠ []) :
    AllButLast p (xs ++ ys) ↔ (∀ x ∈ xs, p x) ∧ AllButLast p ys := by
  rw [AllButLast, List.dropLast_append_of_ne_nil h, List.forall_mem_append, AllButLast]

theorem allButLast_cons {x : α} (h : ys ≠ []) :
    AllButLast p (x :: ys) ↔ p x ∧ AllButLast p ys := by
  rw [← List.singleton_append, allButLast_append h, List.forall_mem_singleton]

theorem AllButLast.right (h : AllButLast p (xs ++ ys)) : AllButLast p ys := by
  by_cases hys : ys = []
  · subst hys
    exact .nil
  · exact ((allButLast_append hys).1 h).2

theorem AllButLast.tail {x : α} (h : AllButLast p (x :: xs)) : AllButLast p xs := by
  rw [← List.singleton_append] at h
  exact h.right

theorem AllButLast.left (h : AllButLast p (xs ++ ys)) : AllButLast p xs := by
  by_cases hys : ys = []
  · rwa [hys, List.append_nil] at h
  · exact .of_forall ((allButLast_append hys).1 h).1

theorem AllButLast.append_of_forall (hxs : ∀ x ∈ xs, p x) (hys : AllButLast p ys) :
    AllButLast p (xs ++ ys) := by
  by_cases hnil : ys = []
  · rw [hnil, List.append_nil]
    exact .of_forall hxs
  · exact (allButLast_append hnil).2 ⟨hxs, hys⟩

theorem AllButLast.take (h : AllButLast p xs) (n : Nat) : AllButLast p (xs.take n) := by
  rw [← List.take_append_drop n xs] at h
  exact h.left

theorem AllButLast.of_mem_flatMap {f : β → List α} {zs : List β} (h : AllButLast p (zs.flatMap f))
    {z : β} (hz : z ∈ zs) : AllButLast p (f z) := by
  obtain ⟨before, after, rfl⟩ := List.append_of_mem hz
  rw [List.flatMap_append, List.flatMap_cons] at h
  exact h.right.left

theorem allButLast_congr {q : α → Prop} (h : ∀ x, p x ↔ q x) : AllButLast p xs ↔ AllButLast q xs :=
  forall₂_congr fun x _ => h x

theorem allButLast_map {f : β → α} {zs : List β} :
    AllButLast p (zs.map f) ↔ AllButLast (fun z => p (f z)) zs := by
  rw [AllButLast, ← List.map_dropLast, List.forall_mem_map, AllButLast]

end

namespace Text

/-! ## Lines -/

/-- The text ends with a line break. -/
def EndsLine (cs : List Char) : Prop :=
  ∃ c, cs.getLast? = some c ∧ isLineBreak c = true

instance (cs : List Char) : Decidable (EndsLine cs) :=
  decidable_of_iff (cs.getLast?.any isLineBreak = true) (by simp [EndsLine, Option.any_eq_true])

/-- The text is one line, with or without the break that ends it. -/
def IsLine (cs : List Char) : Prop :=
  linesWithEnds cs = [cs]

theorem not_endsLine_nil : ¬ EndsLine [] := by
  simp [EndsLine]

theorem endsLine_singleton {c : Char} : EndsLine [c] ↔ isLineBreak c = true := by
  simp [EndsLine]

theorem endsLine_cons_cons {c d : Char} {rest : List Char} :
    EndsLine (c :: d :: rest) ↔ EndsLine (d :: rest) := by
  simp [EndsLine, List.getLast?_cons_cons]

theorem endsLine_append_singleton {c : Char} (cs : List Char) :
    EndsLine (cs ++ [c]) ↔ isLineBreak c = true := by
  simp [EndsLine]

/-- A mark in front of a text does not end a line. -/
theorem endsLine_cons {c : Char} (hc : isLineBreak c = false) {cs : List Char} :
    EndsLine (c :: cs) ↔ EndsLine cs := by
  cases cs with
  | nil => simp [endsLine_singleton, not_endsLine_nil, hc]
  | cons d rest => exact endsLine_cons_cons

theorem linesWithEnds_cons {c : Char} {rest : List Char} (h : c = '\r' → rest.head? ≠ some '\n') :
    linesWithEnds (c :: rest) =
      if isLineBreak c then [c] :: linesWithEnds rest else consLine c (linesWithEnds rest) := by
  rw [linesWithEnds.eq_3]
  rintro tail rfl rfl
  exact h rfl rfl

theorem linesWithEnds_cons_of_not_break {c : Char} (hc : isLineBreak c = false) (rest : List Char) :
    linesWithEnds (c :: rest) = consLine c (linesWithEnds rest) := by
  have hreturn : c ≠ '\r' := by
    rintro rfl
    exact absurd hc (by decide)
  rw [linesWithEnds_cons fun h => absurd h hreturn, hc]
  rfl

theorem linesWithEnds_singleton (c : Char) : linesWithEnds [c] = [[c]] := by
  rw [linesWithEnds_cons (by simp)]
  split <;> rfl

theorem linesWithEnds_eq_nil_iff {cs : List Char} : linesWithEnds cs = [] ↔ cs = [] := by
  refine ⟨fun h => ?_, fun h => h ▸ rfl⟩
  rw [← flatten_linesWithEnds cs, h]
  rfl

theorem IsLine.ne_nil {cs : List Char} (h : IsLine cs) : cs ≠ [] := by
  rintro rfl
  cases h

/-- A mark in front of a line makes one line with it. -/
theorem IsLine.cons {c : Char} (hc : isLineBreak c = false) {cs : List Char} (h : IsLine cs) :
    IsLine (c :: cs) := by
  rw [IsLine, linesWithEnds_cons_of_not_break hc, h]
  rfl

theorem isLine_append_singleton {cs : List Char} (hcs : ∀ c ∈ cs, isLineBreak c = false) (c : Char) :
    IsLine (cs ++ [c]) := by
  induction cs with
  | nil => exact linesWithEnds_singleton c
  | cons d rest ih =>
    rw [List.forall_mem_cons] at hcs
    exact (ih hcs.2).cons hcs.1

theorem isLine_of_mem (cs : List Char) : ∀ line ∈ linesWithEnds cs, IsLine line := by
  fun_induction linesWithEnds cs with
  | case1 => exact List.forall_mem_nil _
  | case2 rest ih => exact List.forall_mem_cons.2 ⟨rfl, ih⟩
  | case3 c rest _ _ ih => exact List.forall_mem_cons.2 ⟨linesWithEnds_singleton c, ih⟩
  | case4 c rest _ hc ih =>
    have hc : isLineBreak c = false := by simpa using hc
    cases hlines : linesWithEnds rest with
    | nil => exact List.forall_mem_singleton.2 (linesWithEnds_singleton c)
    | cons first others =>
      rw [hlines, List.forall_mem_cons] at ih
      exact List.forall_mem_cons.2 ⟨ih.1.cons hc, ih.2⟩

/-- Only the last line of a text may be without a break at its end. -/
theorem allButLast_linesWithEnds (cs : List Char) : AllButLast EndsLine (linesWithEnds cs) := by
  have hcons {line : List Char} {lines : List (List Char)} (hline : EndsLine line)
      (h : AllButLast EndsLine lines) : AllButLast EndsLine (line :: lines) :=
    .append_of_forall (List.forall_mem_singleton.2 hline) h
  fun_induction linesWithEnds cs with
  | case1 => exact .nil
  | case2 rest ih => exact hcons (by decide) ih
  | case3 c rest _ hc ih => exact hcons (endsLine_singleton.2 hc) ih
  | case4 c rest _ hc ih =>
    have hc : isLineBreak c = false := by simpa using hc
    cases hlines : linesWithEnds rest with
    | nil => exact .singleton _
    | cons first others =>
      rw [hlines] at ih
      show AllButLast EndsLine ((c :: first) :: others)
      by_cases hothers : others = []
      · rw [hothers]
        exact .singleton _
      · rw [allButLast_cons hothers] at ih ⊢
        exact ⟨(endsLine_cons hc).2 ih.1, ih.2⟩

/-! ## Lines put together -/

theorem consLine_append (c : Char) {lines : List (List Char)} (h : lines ≠ [])
    (more : List (List Char)) : consLine c (lines ++ more) = consLine c lines ++ more := by
  cases lines with
  | nil => exact absurd rfl h
  | cons line lines => rfl

/-- Behind a line break the next line starts, unless the break goes on with a line feed. -/
theorem linesWithEnds_append {cs ds : List Char} (hcs : EndsLine cs) (hds : ds.head? ≠ some '\n') :
    linesWithEnds (cs ++ ds) = linesWithEnds cs ++ linesWithEnds ds := by
  fun_induction linesWithEnds cs with
  | case1 => exact absurd hcs not_endsLine_nil
  | case2 rest ih =>
    show ['\r', '\n'] :: linesWithEnds (rest ++ ds) = _
    cases rest with
    | nil => rfl
    | cons c rest => rw [ih (endsLine_cons_cons.1 (endsLine_cons_cons.1 hcs)), List.cons_append]
  | case3 c rest hnot hc ih =>
    have hfeed : c = '\r' → (rest ++ ds).head? ≠ some '\n' := by
      rintro rfl
      cases rest with
      | nil => exact hds
      | cons d rest => exact fun hd => hnot rest rfl (by rw [Option.some.inj hd])
    rw [List.cons_append, linesWithEnds_cons hfeed, if_pos hc, List.cons_append]
    cases rest with
    | nil => rfl
    | cons d rest => rw [ih (endsLine_cons_cons.1 hcs)]
  | case4 c rest _ hc ih =>
    have hc : isLineBreak c = false := by simpa using hc
    have hrest : EndsLine rest := (endsLine_cons hc).1 hcs
    have hne : linesWithEnds rest ≠ [] := by
      rw [Ne, linesWithEnds_eq_nil_iff]
      rintro rfl
      exact not_endsLine_nil hrest
    rw [List.cons_append, linesWithEnds_cons_of_not_break hc, ih hrest, consLine_append c hne]

theorem length_consLine (c : Char) (lines : List (List Char)) :
    (consLine c lines).length = max 1 lines.length := by
  cases lines with
  | nil => rfl
  | cons line lines => exact (Nat.max_eq_right (Nat.succ_le_succ (Nat.zero_le _))).symm

/-- A line that is more than a break starts with no break, and what follows is a line. -/
theorem IsLine.of_cons {c d : Char} {rest : List Char} (h : IsLine (c :: d :: rest))
    (hmore : c :: d :: rest ≠ ['\r', '\n']) : isLineBreak c = false ∧ IsLine (d :: rest) := by
  have hne : linesWithEnds (d :: rest) ≠ [] := by simp [linesWithEnds_eq_nil_iff]
  rw [IsLine] at h
  by_cases hreturn : c = '\r' ∧ d = '\n'
  · obtain ⟨rfl, rfl⟩ := hreturn
    have hlines : linesWithEnds ('\r' :: '\n' :: rest) = ['\r', '\n'] :: linesWithEnds rest := rfl
    rw [hlines] at h
    obtain rfl : rest = [] := linesWithEnds_eq_nil_iff.1 (List.cons.inj h).2
    exact absurd rfl hmore
  · have hfeed : c = '\r' → (d :: rest).head? ≠ some '\n' :=
      fun hc hd => hreturn ⟨hc, Option.some.inj hd⟩
    rw [linesWithEnds_cons hfeed] at h
    split at h
    · exact absurd (List.cons.inj h).2 hne
    · next hc =>
      cases hlines : linesWithEnds (d :: rest) with
      | nil => exact absurd hlines hne
      | cons first others =>
        rw [hlines] at h
        obtain ⟨hfirst, rfl⟩ := List.cons.inj h
        exact ⟨by simpa using hc, by rw [IsLine, hlines, (List.cons.inj hfirst).2]⟩

/-- There is no break inside a line. -/
theorem IsLine.unbroken {cs : List Char} {c d : Char} (h : IsLine (cs ++ [c, d])) :
    ∀ x ∈ cs, isLineBreak x = false := by
  induction cs with
  | nil => exact List.forall_mem_nil _
  | cons x rest ih =>
    obtain ⟨y, ys, hcons⟩ := List.exists_cons_of_ne_nil (l := rest ++ [c, d]) (by simp)
    have hlength : (rest ++ [c, d]).length = (y :: ys).length := congrArg List.length hcons
    have hmore : x :: y :: ys ≠ ['\r', '\n'] := fun heq => by
      have htwo : (x :: y :: ys).length = 2 := congrArg List.length heq
      simp only [List.length_append, List.length_cons, List.length_nil] at hlength htwo
      omega
    rw [List.cons_append, hcons] at h
    obtain ⟨hx, hrest⟩ := h.of_cons hmore
    exact List.forall_mem_cons.2 ⟨hx, ih (hcons ▸ hrest)⟩

/-- What is put in front of the first line of a text adds no line. -/
theorem length_linesWithEnds_append {cs : List Char} (hline : IsLine cs) (hcs : ¬ EndsLine cs)
    (ds : List Char) : (linesWithEnds (cs ++ ds)).length = max 1 (linesWithEnds ds).length := by
  induction cs with
  | nil => exact absurd rfl hline.ne_nil
  | cons c rest ih =>
    cases rest with
    | nil =>
      rw [endsLine_singleton, Bool.not_eq_true] at hcs
      rw [List.singleton_append, linesWithEnds_cons_of_not_break hcs, length_consLine]
    | cons d rest =>
      obtain ⟨hc, hrest⟩ := hline.of_cons fun h => hcs (by rw [h]; decide)
      rw [List.cons_append, linesWithEnds_cons_of_not_break hc, length_consLine,
        ih hrest fun h => hcs (endsLine_cons_cons.2 h), ← Nat.max_assoc, Nat.max_self]

/-- Lines none of which starts with a line feed, which could belong to the break before it. -/
def AreLines (lines : List (List Char)) : Prop :=
  ∀ line ∈ lines, IsLine line ∧ line.head? ≠ some '\n'

theorem head?_flatten {lines : List (List Char)} (h : AreLines lines) :
    lines.flatten.head? ≠ some '\n' := by
  cases lines with
  | nil => simp
  | cons line lines =>
    obtain ⟨hline, hhead⟩ := h line List.mem_cons_self
    obtain ⟨c, rest, rfl⟩ := List.exists_cons_of_ne_nil hline.ne_nil
    exact hhead

theorem linesWithEnds_flatten {lines : List (List Char)} (h : AreLines lines)
    (hends : AllButLast EndsLine lines) : linesWithEnds lines.flatten = lines := by
  induction lines with
  | nil => rfl
  | cons line rest ih =>
    have hrest : AreLines rest := fun l hl => h l (List.mem_cons_of_mem line hl)
    rw [List.flatten_cons]
    by_cases hnil : rest = []
    · rw [hnil, List.flatten_nil, List.append_nil]
      exact (h line List.mem_cons_self).1
    · rw [allButLast_cons hnil] at hends
      rw [linesWithEnds_append hends.1 (head?_flatten hrest), (h line List.mem_cons_self).1,
        ih hrest hends.2, List.singleton_append]

theorem length_linesWithEnds_flatten_le {lines : List (List Char)} (h : AreLines lines) :
    (linesWithEnds lines.flatten).length ≤ lines.length := by
  induction lines with
  | nil => exact Nat.le_refl _
  | cons line rest ih =>
    have hrest : AreLines rest := fun l hl => h l (List.mem_cons_of_mem line hl)
    obtain ⟨hline, -⟩ := h line List.mem_cons_self
    have hle := ih hrest
    rw [List.flatten_cons, List.length_cons]
    by_cases hends : EndsLine line
    · rw [linesWithEnds_append hends (head?_flatten hrest), hline, List.length_append]
      simp only [List.length_cons, List.length_nil]
      omega
    · rw [length_linesWithEnds_append hline hends]
      omega

/-- Lines put together are as many lines, exactly if all but the last end with a break. -/
theorem length_linesWithEnds_flatten_iff {lines : List (List Char)} (h : AreLines lines) :
    (linesWithEnds lines.flatten).length = lines.length ↔ AllButLast EndsLine lines := by
  refine ⟨fun hlength => ?_, fun hends => by rw [linesWithEnds_flatten h hends]⟩
  induction lines with
  | nil => exact .nil
  | cons line rest ih =>
    have hrest : AreLines rest := fun l hl => h l (List.mem_cons_of_mem line hl)
    obtain ⟨hline, -⟩ := h line List.mem_cons_self
    have hle := length_linesWithEnds_flatten_le hrest
    rw [List.flatten_cons, List.length_cons] at hlength
    by_cases hends : EndsLine line
    · rw [linesWithEnds_append hends (head?_flatten hrest), hline, List.length_append] at hlength
      simp only [List.length_cons, List.length_nil] at hlength
      exact .append_of_forall (List.forall_mem_singleton.2 hends) (ih hrest (by omega))
    · rw [length_linesWithEnds_append hline hends] at hlength
      have hnil : rest.length = 0 := by omega
      rw [List.length_eq_zero_iff.1 hnil]
      exact .singleton _

end Text

end SampleTypes
