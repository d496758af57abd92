/-
Which texts are taken for names. The grammar is told apart from the check: a type name is one capital
letter and characters that a name goes on with, and a module prefix is empty or made of type names with
dots between them. The check accepts all of that, and besides it lets one line feed pass at the end of
every type name (`isModulePrefix_iff_grammar`, `isModulePrefix_line_feed`).
-/
import SampleTypes.Proofs.ModuleName

namespace SampleTypes

open Text

/-! ## The grammar -/

namespace Grammar

/-- What a name goes on with: a letter, a digit, an underscore or an apostrophe. -/
def Continues (c : Char) : Prop :=
  ('A' ≤ c ∧ c ≤ 'Z') ∨ ('a' ≤ c ∧ c ≤ 'z') ∨ ('0' ≤ c ∧ c ≤ '9') ∨ c = '_' ∨ c = '\''

/-- A type name: a capital letter, and any number of characters that a name goes on with. -/
inductive TypeName : String → Prop
  | mk {c : Char} {rest : List Char} (hc : 'A' ≤ c ∧ c ≤ 'Z') (hrest : ∀ x ∈ rest, Continues x) :
      TypeName (String.ofList (c :: rest))

/-- At least one text of a kind, with dots between neighbours. -/
inductive Dotted (Segment : String → Prop) : String → Prop
  | one {s : String} (h : Segment s) : Dotted Segment s
  | dot {s t : String} (h : Segment s) (ht : Dotted Segment t) : Dotted Segment (s ++ "." ++ t)

/-- A text of a kind, with or without a line feed behind it. -/
def Loose (Segment : String → Prop) (s : String) : Prop :=
  ∃ t, Segment t ∧ (s = t ∨ s = t ++ "\n")

instance (c : Char) : Decidable (Continues c) :=
  inferInstanceAs (Decidable (_ ∨ _))

theorem continues_iff {c : Char} : Continues c ↔ isNameChar c = true := by
  simp only [Continues, isNameChar, isNameStart, Bool.or_eq_true, Bool.and_eq_true,
    decide_eq_true_eq, beq_iff_eq, or_assoc]

theorem typeName_iff {s : String} : TypeName s ↔ isSegment s.toList = true := by
  constructor
  · rintro ⟨hc, hrest⟩
    simpa [isSegment, isNameStart, hc, ← continues_iff] using hrest
  · intro h
    cases hs : s.toList with
    | nil => simp [hs, isSegment] at h
    | cons c rest =>
      rw [hs, isSegment, Bool.and_eq_true, List.all_eq_true] at h
      have hname : TypeName (String.ofList (c :: rest)) :=
        .mk (by simpa [isNameStart] using h.1) fun x hx => continues_iff.2 (h.2 x hx)
      rwa [← hs, String.ofList_toList] at hname

instance (s : String) : Decidable (TypeName s) :=
  decidable_of_iff (isSegment s.toList = true) typeName_iff.symm

/-- Texts without dots stand between dots exactly if they are what a text is cut into there. -/
theorem dotted_iff {Segment : String → Prop} (hdot : ∀ s, Segment s → Avoids '.' s) {s : String} :
    Dotted Segment s ↔ ∀ piece ∈ split '.' s, Segment piece := by
  constructor
  · intro h
    induction h with
    | one h =>
      rw [split_of_avoids (hdot _ h)]
      exact List.forall_mem_singleton.2 h
    | @dot s t h _ ih =>
      have hcut : split '.' (s ++ "." ++ t) = s :: split '.' t := by
        have hchars : (s ++ "." ++ t).toList = s.toList ++ '.' :: t.toList := by simp
        rw [split, hchars, splitChars_append_sep (hdot s h), List.map_cons, String.ofList_toList]
        rfl
      rw [hcut]
      exact List.forall_mem_cons.2 ⟨h, ih⟩
  · intro h
    have hne : split '.' s ≠ [] := by simp [split, splitChars_ne_nil]
    rw [← join_split (show ".".toList = ['.'] from rfl) s]
    generalize split '.' s = pieces at h hne
    -- on the pieces, since putting them together follows them
    induction pieces with
    | nil => exact absurd rfl hne
    | cons piece rest ih =>
      rw [List.forall_mem_cons] at h
      cases rest with
      | nil => exact .one h.1
      | cons next rest => exact .dot h.1 (ih h.2 (List.cons_ne_nil next rest))

end Grammar

/-! ## The check -/

theorem feed_not_mem_of_isSegment {cs : List Char} (h : isSegment cs = true) : '\n' ∉ cs := by
  cases cs with
  | nil => exact List.not_mem_nil
  | cons c rest =>
    rw [isSegment, Bool.and_eq_true, List.all_eq_true] at h
    rw [List.mem_cons, not_or]
    refine ⟨?_, fun hmem => absurd (h.2 _ hmem) (by decide)⟩
    rintro rfl
    exact absurd h.1 (by decide)

/-- The check of a type name passes over one line feed at the end. -/
theorem isTypeNameChars_iff {cs : List Char} :
    isTypeNameChars cs = true ↔
      ∃ word, isSegment word = true ∧ (cs = word ∨ cs = word ++ ['\n']) := by
  constructor
  · intro h
    cases cs with
    | nil => cases h
    | cons c rest =>
      rw [isTypeNameChars, Bool.and_eq_true] at h
      obtain ⟨hstart, hall⟩ := h
      by_cases hlast : rest.getLast? = some '\n'
      · obtain ⟨front, rfl⟩ := List.getLast?_eq_some_iff.1 hlast
        rw [if_pos hlast, List.dropLast_concat] at hall
        exact ⟨c :: front, by simp [isSegment, hstart, hall], .inr rfl⟩
      · rw [if_neg hlast] at hall
        exact ⟨c :: rest, by simp [isSegment, hstart, hall], .inl rfl⟩
  · rintro ⟨word, hword, hcs⟩
    have hfeed := feed_not_mem_of_isSegment hword
    cases word with
    | nil => cases hword
    | cons c rest =>
      rw [isSegment, Bool.and_eq_true] at hword
      rcases hcs with rfl | rfl
      · have hlast : rest.getLast? ≠ some '\n' := fun h =>
          hfeed (List.mem_cons_of_mem c (List.mem_of_getLast? h))
        simp [isTypeNameChars, hword, hlast]
      · simp [isTypeNameChars, hword]

open Grammar

theorem isTypeName_iff {s : String} : isTypeName s = true ↔ Loose TypeName s := by
  rw [isTypeName, isTypeNameChars_iff, Loose]
  constructor
  · rintro ⟨word, hword, hs⟩
    refine ⟨String.ofList word, typeName_iff.2 (by rwa [String.toList_ofList]), ?_⟩
    simpa [← String.toList_inj] using hs
  · rintro ⟨t, ht, hs⟩
    refine ⟨t.toList, typeName_iff.1 ht, ?_⟩
    simpa [← String.toList_inj] using hs

theorem avoids_dot_of_loose {s : String} (h : Loose TypeName s) : Avoids '.' s := by
  obtain ⟨t, @⟨c, rest, hc, hrest⟩, hs⟩ := h
  have hword : Avoids '.' (String.ofList (c :: rest)) := avoids_ofList.2 fun hmem => by
    rcases List.mem_cons.1 hmem with rfl | hmem
    · exact absurd hc (by decide)
    · exact absurd (continues_iff.1 (hrest _ hmem)) (by decide)
  rcases hs with rfl | rfl
  · exact hword
  · exact avoids_append.2 ⟨hword, by decide⟩

theorem isModulePrefix_iff {s : String} :
    isModulePrefix s = true ↔ s = "" ∨ Dotted (Loose TypeName) s := by
  rw [isModulePrefix, Bool.or_eq_true, beq_iff_eq, List.all_eq_true,
    dotted_iff fun _ => avoids_dot_of_loose, split, List.forall_mem_map]
  refine or_congr_right (forall₂_congr fun piece _ => ?_)
  rw [← isTypeName_iff, isTypeName, String.toList_ofList]

theorem typeName_iff_avoids {s : String} :
    TypeName s ↔ isTypeName s = true ∧ Avoids '\n' s := by
  constructor
  · intro h
    exact ⟨isTypeName_iff.2 ⟨s, h, .inl rfl⟩, feed_not_mem_of_isSegment (typeName_iff.1 h)⟩
  · rintro ⟨h, hfeed⟩
    exact typeName_iff.2 ((ModuleName.isSegment_iff_of_isTypeNameChars h).2 hfeed)

theorem avoids_iff_forall_split {x sep : Char} (hx : x ≠ sep) {s : String} :
    Avoids x s ↔ ∀ piece ∈ split sep s, Avoids x piece := by
  refine ⟨fun h piece hpiece => h.of_mem_split hpiece, fun h hmem => ?_⟩
  obtain ⟨piece, hpiece, hin⟩ := List.mem_flatten.1 (mem_flatten_splitChars.2 ⟨hmem, hx⟩)
  exact avoids_ofList.1 (h _ (List.mem_map_of_mem hpiece)) hin

theorem dotted_iff_avoids {s : String} :
    s = "" ∨ Dotted TypeName s ↔ isModulePrefix s = true ∧ Avoids '\n' s := by
  have hloose (t : String) (h : TypeName t) : Loose TypeName t := ⟨t, h, .inl rfl⟩
  have hpieces : Dotted TypeName s ↔ Dotted (Loose TypeName) s ∧ Avoids '\n' s := by
    rw [dotted_iff fun t ht => avoids_dot_of_loose (hloose t ht),
      dotted_iff fun _ => avoids_dot_of_loose, avoids_iff_forall_split (show '\n' ≠ '.' by decide),
      ← forall₂_and]
    refine forall₂_congr fun piece _ => ?_
    rw [typeName_iff_avoids, isTypeName_iff]
  rw [isModulePrefix_iff, hpieces]
  constructor
  · rintro (rfl | h)
    · exact ⟨.inl rfl, by decide⟩
    · exact ⟨.inr h.1, h.2⟩
  · rintro ⟨rfl | h, hfeed⟩
    · exact .inl rfl
    · exact .inr ⟨h, hfeed⟩

/-- **What is accepted as a name, and what the grammar says.** A text is accepted as a type name exactly
if it is one in the grammar, with or without a line feed behind it, and as a module prefix exactly if it
is empty or made of such texts with dots between them. So the grammar is what is accepted among the
texts without a line feed. -/
theorem isModulePrefix_iff_grammar (s : String) :
    (isTypeName s = true ↔ Loose TypeName s) ∧
    (isModulePrefix s = true ↔ s = "" ∨ Dotted (Loose TypeName) s) ∧
    (TypeName s ↔ isTypeName s = true ∧ Avoids '\n' s) ∧
    (s = "" ∨ Dotted TypeName s ↔ isModulePrefix s = true ∧ Avoids '\n' s) :=
  ⟨isTypeName_iff, isModulePrefix_iff, typeName_iff_avoids, dotted_iff_avoids⟩

/-- A line feed behind a name, and one behind a segment of a prefix. -/
theorem isModulePrefix_line_feed :
    (isTypeName "Docs\n" = true ∧ ¬ TypeName "Docs\n") ∧
    (isModulePrefix "Docs\n" = true ∧ ¬ ("Docs\n" = "" ∨ Dotted TypeName "Docs\n")) := by
  refine ⟨⟨by decide, by decide⟩, by decide, fun h => ?_⟩
  exact absurd (dotted_iff_avoids.1 h).2 (by decide)

end SampleTypes
