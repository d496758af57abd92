/-
How a script is put together. Every part of it has lines, and of two parts next to each other one stays;
so behind a part that is not the last, lines of the old side follow where lines are removed, and lines of
the new side where lines are added. That is why only the last part can hold a line without a break at its
end (`allButLast_script`).
-/
import Mathlib.Data.List.Chain
import SampleTypes.Patch.Hunk
import SampleTypes.Proofs.Text.Lines

namespace SampleTypes.Patch

open Text

namespace Segment

/-- Lines that stay. -/
def Stays : Segment → Prop
  | same _ => True
  | change _ _ => False

/-- There is a line in the part, on one side or the other. -/
def HasLines : Segment → Prop
  | same lines => lines ≠ []
  | change removed added => removed ≠ [] ∨ added ≠ []

/-- The lines that are removed. -/
def removed : Segment → List String
  | same _ => []
  | change removed _ => removed

/-- The lines that are added. -/
def added : Segment → List String
  | same _ => []
  | change _ added => added

theorem HasLines.sides_ne_nil {s : Segment} (h : s.HasLines) : s.old ≠ [] ∨ s.new ≠ [] := by
  cases s with
  | same lines => exact .inl h
  | change removed added => exact h

theorem HasLines.of_stays {s : Segment} (h : s.HasLines) (hs : s.Stays) : s.old ≠ [] ∧ s.new ≠ [] := by
  cases s with
  | same lines => exact ⟨h, h⟩
  | change removed added => cases hs

end Segment

/-! ## Parts of a script -/

/-- Of two parts next to each other one stays. -/
abbrev Alternates (segments : List Segment) : Prop :=
  segments.IsChain (fun s t => s.Stays ∨ t.Stays)

theorem hasLines_changeOf {removed added : List String} :
    ∀ s ∈ changeOf removed added, s.HasLines := by
  unfold changeOf
  split
  · exact List.forall_mem_nil _
  · next h =>
    rw [List.forall_mem_singleton]
    by_cases hremoved : removed = []
    · exact .inr fun hadded => h (by simp [hremoved, hadded])
    · exact .inl hremoved

theorem alternates_changeOf (removed added : List String) : Alternates (changeOf removed added) := by
  unfold changeOf
  split
  · exact .nil
  · exact .singleton _

theorem hasLines_align (isFrequent : String → Bool) (old new : List String) :
    ∀ s ∈ align isFrequent old new, s.HasLines := by
  fun_induction align isFrequent old new with
  | case1 old new _ => exact hasLines_changeOf
  | case2 old new c _ _ _ ihBefore ihAfter =>
    rw [List.forall_mem_append, List.forall_mem_append, List.forall_mem_singleton]
    exact ⟨⟨ihBefore, c.part_ne_nil⟩, ihAfter⟩

theorem alternates_align (isFrequent : String → Bool) (old new : List String) :
    Alternates (align isFrequent old new) := by
  fun_induction align isFrequent old new with
  | case1 old new _ => exact alternates_changeOf old new
  | case2 old new c _ _ _ ihBefore ihAfter =>
    -- the part in common stands between all that comes before and all that comes after
    have hafter : Alternates (.same c.part :: align isFrequent c.oldAfter c.newAfter) :=
      ihAfter.cons fun _ _ => .inl trivial
    rw [List.append_assoc, List.singleton_append]
    exact ihBefore.append hafter fun _ _ t ht => by
      obtain rfl := Option.some.inj ht
      exact .inr trivial

theorem hasLines_joinSame {segments : List Segment} (h : ∀ s ∈ segments, s.HasLines) :
    ∀ s ∈ joinSame segments, s.HasLines := by
  fun_induction joinSame segments with
  | case1 => exact List.forall_mem_nil _
  | case2 removed added rest ih =>
    rw [List.forall_mem_cons] at h ⊢
    exact ⟨h.1, ih h.2⟩
  | case3 lines rest more rest' hrest ih =>
    rw [List.forall_mem_cons] at h
    have hjoined := ih h.2
    rw [hrest, List.forall_mem_cons] at hjoined
    refine List.forall_mem_cons.2 ⟨?_, hjoined.2⟩
    have hlines : lines ≠ [] := h.1
    simp [Segment.HasLines, hlines]
  | case4 lines rest _ ih =>
    rw [List.forall_mem_cons] at h
    exact List.forall_mem_cons.2 ⟨h.1, ih h.2⟩

/-- What comes first stays a change, or stays one that stays. -/
theorem head?_joinSame (segments : List Segment) :
    ∀ t ∈ (joinSame segments).head?, ∃ s ∈ segments.head?, s.Stays → t.Stays := by
  fun_cases joinSame segments with
  | case1 => exact fun t ht => absurd ht (Option.not_mem_none t)
  | case2 removed added rest => exact fun t _ => ⟨_, rfl, False.elim⟩
  | case3 lines rest | case4 lines rest =>
    intro t ht
    obtain rfl := Option.some.inj ht
    exact ⟨_, rfl, fun _ => trivial⟩

theorem alternates_joinSame {segments : List Segment} (h : Alternates segments) :
    Alternates (joinSame segments) := by
  fun_induction joinSame segments with
  | case1 => exact .nil
  | case2 removed added rest ih =>
    refine (ih h.tail).cons fun t ht => ?_
    obtain ⟨s, hs, hstays⟩ := head?_joinSame rest t ht
    exact .inr (hstays ((h.rel_head? hs).resolve_left id))
  | case3 lines rest more rest' hrest ih =>
    have hjoined := ih h.tail
    rw [hrest] at hjoined
    exact hjoined.tail.cons fun _ _ => .inl trivial
  | case4 lines rest _ ih => exact (ih h.tail).cons fun _ _ => .inl trivial

theorem hasLines_script (old new : List String) : ∀ s ∈ script old new, s.HasLines :=
  hasLines_joinSame (hasLines_align _ old new)

theorem alternates_script (old new : List String) : Alternates (script old new) :=
  alternates_joinSame (alternates_align _ old new)

/-! ## Lines without a break at their end -/

/-- The line ends with a break. -/
def Ends (line : String) : Prop :=
  EndsLine line.toList

instance (line : String) : Decidable (Ends line) :=
  inferInstanceAs (Decidable (EndsLine line.toList))

theorem allButLast_textLines (text : String) : AllButLast Ends (textLines text) := by
  rw [textLines, allButLast_map]
  refine (allButLast_congr fun line => ?_).2 (allButLast_linesWithEnds text.toList)
  rw [Ends, String.toList_ofList]

/-- All lines of the part, on both sides. -/
def Segment.All (p : String → Prop) (s : Segment) : Prop :=
  (∀ line ∈ s.old, p line) ∧ ∀ line ∈ s.new, p line

/-- All lines of the part end with a break. -/
abbrev Segment.Ended : Segment → Prop :=
  Segment.All Ends

/-- Only the last part can hold a line without a break. -/
theorem ended_of_script {old new : List String} (hold : AllButLast Ends old)
    (hnew : AllButLast Ends new) {before after : List Segment} {s : Segment}
    (h : script old new = before ++ s :: after) (hafter : after ≠ []) : s.Ended := by
  obtain ⟨t, rest, rfl⟩ := List.exists_cons_of_ne_nil hafter
  have hlines : t.HasLines := hasLines_script old new t (by rw [h]; simp)
  have hpair : s.Stays ∨ t.Stays := by
    have hchain := alternates_script old new
    rw [h] at hchain
    exact hchain.right_of_append.rel_head? rfl
  have hside {side : Segment → List String} {lines : List String}
      (hlines : (script old new).flatMap side = lines) (hends : AllButLast Ends lines)
      (ht : side t ≠ []) : ∀ line ∈ side s, Ends line := by
    rw [← hlines, h, List.flatMap_append, List.flatMap_cons, List.flatMap_cons] at hends
    exact ((allButLast_append (by simp [ht])).1 hends.right).1
  cases s with
  | same lines =>
    -- what stays is on both sides, and one side goes on
    have hall : ∀ line ∈ lines, Ends line := hlines.sides_ne_nil.elim
      (hside (old_script old new) hold) (hside (new_script old new) hnew)
    exact ⟨hall, hall⟩
  | change removed added =>
    obtain ⟨hold', hnew'⟩ := hlines.of_stays (hpair.resolve_left id)
    exact ⟨hside (old_script old new) hold hold', hside (new_script old new) hnew hnew'⟩

/-- A removed line without a break at its end runs into an added line behind it. -/
def Segment.RunsTogether : Segment → Prop
  | same _ => False
  | change removed added => added ≠ [] ∧ ∃ line ∈ removed, ¬ Ends line

instance : DecidablePred Segment.RunsTogether
  | .same _ => .isFalse id
  | .change removed added =>
    inferInstanceAs (Decidable (added ≠ [] ∧ ∃ line ∈ removed, ¬ Ends line))

/-- A mark of one character in front of a line, which is no break. -/
theorem ends_append {mark : String} {c : Char} (hmark : mark.toList = [c])
    (hc : isLineBreak c = false) {line : String} : Ends (mark ++ line) ↔ Ends line := by
  rw [Ends, String.toList_append, hmark, List.singleton_append, endsLine_cons hc, Ends]

theorem allButLast_lines_iff {old new : List String} (hold : AllButLast Ends old)
    (hnew : AllButLast Ends new) {s : Segment} (hs : s ∈ script old new) :
    AllButLast Ends s.lines ↔ ¬ s.RunsTogether := by
  have hsOld : AllButLast Ends s.old := by
    rw [← old_script old new] at hold
    exact hold.of_mem_flatMap hs
  have hsNew : AllButLast Ends s.new := by
    rw [← new_script old new] at hnew
    exact hnew.of_mem_flatMap hs
  have hmarked {mark : String} {c : Char} (hmark : mark.toList = [c]) (hc : isLineBreak c = false)
      {lines : List String} : AllButLast Ends (lines.map (mark ++ ·)) ↔ AllButLast Ends lines := by
    rw [allButLast_map]
    exact allButLast_congr fun line => ends_append hmark hc
  cases s with
  | same lines => exact iff_of_true ((hmarked (c := ' ') rfl (by decide)).2 hsOld) id
  | change removed added =>
    by_cases hadded : added = []
    · subst hadded
      rw [Segment.lines, List.map_nil, List.append_nil, hmarked (c := '-') rfl (by decide)]
      exact iff_of_true hsOld fun h => h.1 rfl
    · have hne : added.map ("+" ++ ·) ≠ [] := by simpa using hadded
      have hends : (∀ line ∈ removed.map ("-" ++ ·), Ends line) ↔ ∀ line ∈ removed, Ends line := by
        rw [List.forall_mem_map]
        exact forall₂_congr fun line _ => ends_append (c := '-') rfl (by decide)
      rw [Segment.lines, allButLast_append hne, hends, hmarked (c := '+') rfl (by decide)]
      simp only [Segment.RunsTogether, ne_eq, hadded, not_false_eq_true, true_and, not_exists, not_and,
        not_not, and_iff_left_iff_imp]
      exact fun _ => hsNew

/-- Where nothing runs together, lines without a break stand at the end only. -/
structure Settled (segments : List Segment) : Prop where
  ended : AllButLast Segment.Ended segments
  lines : ∀ s ∈ segments, AllButLast Ends s.lines

theorem settled_script {old new : List String} (hold : AllButLast Ends old) (hnew : AllButLast Ends new)
    (h : ∀ s ∈ script old new, ¬ s.RunsTogether) : Settled (script old new) where
  ended := .of_forall_cut fun _ _ _ hcut hafter => ended_of_script hold hnew hcut hafter
  lines s hs := (allButLast_lines_iff hold hnew hs).2 (h s hs)

end SampleTypes.Patch
