/-
Lines without the breaks that end them. What is put together from lines is cut into these lines again
exactly if all but the last end with a break (`lines_join`, `length_lines_join_iff`), and lines with a
line feed behind each tell the lines (`unlines_inj`).
-/
import SampleTypes.Proofs.Text.Avoids
import SampleTypes.Proofs.Text.Lines

namespace SampleTypes

namespace Text

/-! ## Lines without their ends -/

/-- No character breaks a line. -/
def Unbroken (s : String) : Prop :=
  ∀ c ∈ s.toList, isLineBreak c = false

instance (s : String) : Decidable (Unbroken s) :=
  List.decidableBAll _ s.toList

/-- A line without the break at its end. -/
def bare (line : String) : String :=
  String.ofList (line.toList.filter fun c => !isLineBreak c)

theorem unbroken_append {s t : String} : Unbroken (s ++ t) ↔ Unbroken s ∧ Unbroken t := by
  rw [Unbroken, String.toList_append, List.forall_mem_append, Unbroken, Unbroken]

theorem unbroken_bare (line : String) : Unbroken (bare line) := by
  simp [Unbroken, bare]

theorem bare_append (s t : String) : bare (s ++ t) = bare s ++ bare t := by
  rw [bare, String.toList_append, List.filter_append, String.ofList_append]
  rfl

theorem bare_of_unbroken {s : String} (h : Unbroken s) : bare s = s := by
  have hfilter : s.toList.filter (fun c => !isLineBreak c) = s.toList :=
    List.filter_eq_self.2 fun c hc => by rw [h c hc]; rfl
  rw [bare, hfilter, String.ofList_toList]

theorem Unbroken.avoids {s : String} (h : Unbroken s) {x : Char} (hx : isLineBreak x = true) :
    Avoids x s :=
  fun hmem => absurd (h x hmem) (by simp [hx])

/-- The lines of a text are without breaks. -/
theorem unbroken_of_mem_lines {text : String} : ∀ line ∈ lines text, Unbroken line := by
  rw [lines, List.forall_mem_map]
  intro line _
  simp [Unbroken]

theorem length_lines_eq_one_iff {s : String} : (lines s).length = 1 ↔ IsLine s.toList := by
  rw [lines, List.length_map, List.length_eq_one_iff, IsLine]
  refine ⟨fun h => ?_, fun h => ⟨_, h⟩⟩
  obtain ⟨line, hline⟩ := h
  have hflat := flatten_linesWithEnds s.toList
  rw [hline, List.flatten_singleton] at hflat
  rw [hline, hflat]

theorem lines_ne_nil {s : String} (h : s ≠ "") : lines s ≠ [] := by
  rw [lines, Ne, List.map_eq_nil_iff, linesWithEnds_eq_nil_iff, String.toList_eq_nil_iff]
  exact h

theorem lines_append {s t : String} (hs : EndsLine s.toList) (ht : t.toList.head? ≠ some '\n') :
    lines (s ++ t) = lines s ++ lines t := by
  rw [lines, String.toList_append, linesWithEnds_append hs ht, List.map_append]
  rfl

/-- A text without breaks and a line feed behind it are one line. -/
theorem lines_feed {s : String} (h : Unbroken s) : lines (s ++ "\n") = [s] := by
  have hline : linesWithEnds (s ++ "\n").toList = [(s ++ "\n").toList] := by
    rw [String.toList_append]
    exact isLine_append_singleton h '\n'
  have hbare : bare (s ++ "\n") = s := by
    rw [bare_append, bare_of_unbroken h]
    exact String.append_empty
  rw [lines, hline, List.map_singleton]
  exact congrArg (fun line => [line]) hbare

theorem toList_join_empty (ss : List String) : (join "" ss).toList = (ss.map String.toList).flatten := by
  fun_induction join "" ss with
  | case1 => rfl
  | case2 s => simp
  | case3 s t rest ih => simp [ih]

theorem join_empty_cons (s : String) (rest : List String) :
    join "" (s :: rest) = s ++ join "" rest := by
  rw [← String.toList_inj, String.toList_append, toList_join_empty, toList_join_empty]
  rfl

section

variable {ss : List String} (h : AreLines (ss.map String.toList))

include h

theorem lines_join (hends : AllButLast (fun s => EndsLine s.toList) ss) :
    lines (join "" ss) = ss.map bare := by
  rw [lines, toList_join_empty, linesWithEnds_flatten h (allButLast_map.2 hends), List.map_map]
  rfl

theorem length_lines_join_iff :
    (lines (join "" ss)).length = ss.length ↔ AllButLast (fun s => EndsLine s.toList) ss := by
  rw [← allButLast_map, ← length_linesWithEnds_flatten_iff h, lines, toList_join_empty,
    List.length_map, List.length_map]

end

/-- Lines put together tell the lines, if there is no line feed in them. -/
theorem unlines_inj {ss ts : List String} (hss : ∀ s ∈ ss, Avoids '\n' s)
    (hts : ∀ t ∈ ts, Avoids '\n' t) : unlines ss = unlines ts ↔ ss = ts := by
  refine ⟨fun h => ?_, fun h => h ▸ rfl⟩
  have hsplit := congrArg (split '\n') h
  rw [split_unlines_iff.2 hss, split_unlines_iff.2 hts] at hsplit
  exact List.append_cancel_right hsplit

end Text

end SampleTypes
