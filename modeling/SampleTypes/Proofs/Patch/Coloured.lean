/-
What a patch in colours shows. `shown` lists the lines of the hunks in given looks, each on a line of its
own; the patch in colours is that list exactly if no removed line runs into an added one and the looks are
those that the marks give (`coloured_patchText_iff`). A mark is read together with the line behind it, so
a removed line that starts with two dashes is taken for the name of a side.
-/
import Mathlib.Data.List.DropRight
import SampleTypes.Patch.Coloured
import SampleTypes.Proofs.Patch.Hunk
import SampleTypes.Proofs.Terminal.Style
import SampleTypes.Proofs.Text.Unbroken

namespace SampleTypes

open Text

namespace Patch

open Terminal

/-! ## Lines in colours -/

/-- The mark and the two characters behind it are the same, as in front of the name of a side. -/
def LooksLikeName (mark : Char) (line : String) : Prop :=
  [mark, mark] <+: (bare line).toList

instance (mark : Char) (line : String) : Decidable (LooksLikeName mark line) :=
  inferInstanceAs (Decidable (_ <+: _))

/-- The look of a line behind a mark that has a look of its own. -/
def lookBehind (mark : Char) (look : Look) (line : String) : Look :=
  if LooksLikeName mark line then .bold else look

/-- The look in which a removed line is shown. -/
abbrev removedLook : String → Look :=
  lookBehind '-' .red

/-- The look in which an added line is shown. -/
abbrev addedLook : String → Look :=
  lookBehind '+' .green

theorem eq_lookBehind_iff {mark : Char} {look : Look} (hlook : look ≠ .bold) {line : String} :
    look = lookBehind mark look line ↔ ¬ LooksLikeName mark line := by
  rw [lookBehind]
  split
  · next h => exact iff_of_false hlook (not_not_intro h)
  · next h => exact iff_of_true rfl h

theorem shownChars_of_unbroken {s : String} (h : Unbroken s) : shownChars s.toList = s.toList := by
  have hfeed : '\n' ∉ s.toList := h.avoids (by decide)
  have hreturn : '\r' ∉ s.toList := h.avoids (by decide)
  have hdrop : dropEndWhile (· == '\n') s.toList = s.toList := by
    refine List.rdropWhile_eq_self_iff.2 fun hne hlast => hfeed ?_
    exact beq_iff_eq.1 hlast ▸ List.getLast_mem hne
  have hflat : s.toList.flatMap (fun c => if c = '\r' then ['\\', 'r'] else [c]) =
      s.toList.flatMap fun c => [c] :=
    List.flatMap_congr fun c hc => if_neg fun hr => hreturn (by rwa [hr] at hc)
  rw [shownChars, hdrop, hflat, List.flatMap_singleton']

theorem colouredLine_of_look {s : String} (h : Unbroken s) {look : Look}
    (hlook : lineLooks s.toList = [look]) : colouredLine s = paint [look] s := by
  rw [colouredLine, shownChars_of_unbroken h, String.ofList_toList]
  simp only [hlook]

theorem colouredLine_of_no_look {s : String} (h : Unbroken s) (hlook : lineLooks s.toList = []) :
    colouredLine s = s := by
  rw [colouredLine, shownChars_of_unbroken h, String.ofList_toList]
  simp only [hlook]

theorem lineLooks_mark {mark : Char} {look : Look}
    (hmark : mark = '-' ∧ look = .red ∨ mark = '+' ∧ look = .green) (cs : List Char) :
    lineLooks (mark :: cs) = [if [mark, mark] <+: cs then .bold else look] := by
  by_cases h : [mark, mark] <+: cs
  · rw [if_pos h]
    obtain ⟨rest, rfl⟩ := h
    obtain ⟨rfl, rfl⟩ | ⟨rfl, rfl⟩ := hmark <;> rfl
  · have hcs (rest : List Char) (hrest : cs = mark :: mark :: rest) : False := h ⟨rest, hrest.symm⟩
    rw [if_neg h]
    obtain ⟨rfl, rfl⟩ | ⟨rfl, rfl⟩ := hmark
    · exact lineLooks.eq_3 cs hcs
    · exact lineLooks.eq_4 cs hcs

theorem colouredLine_same (line : String) : colouredLine (bare (" " ++ line)) = " " ++ bare line := by
  rw [colouredLine_of_no_look (unbroken_bare _)] <;>
    rw [bare_append, bare_of_unbroken (by decide)]
  rw [String.toList_append]
  rfl

/-- A line behind a mark is shown in the look that the mark gives. -/
theorem colouredLine_marked {mark line : String} {look : Look} (hmark : Unbroken mark)
    (hlook : lineLooks (mark ++ bare line).toList = [look]) :
    colouredLine (bare (mark ++ line)) = paint [look] (mark ++ bare line) := by
  have hline : bare (mark ++ line) = mark ++ bare line := by rw [bare_append, bare_of_unbroken hmark]
  rw [colouredLine_of_look (unbroken_bare _) (hline ▸ hlook), hline]

theorem colouredLine_removed (line : String) :
    colouredLine (bare ("-" ++ line)) = paint [removedLook line] ("-" ++ bare line) :=
  colouredLine_marked (by decide)
    (by rw [String.toList_append]; exact lineLooks_mark (.inl ⟨rfl, rfl⟩) _)

theorem colouredLine_added (line : String) :
    colouredLine (bare ("+" ++ line)) = paint [addedLook line] ("+" ++ bare line) :=
  colouredLine_marked (by decide)
    (by rw [String.toList_append]; exact lineLooks_mark (.inr ⟨rfl, rfl⟩) _)

/-! ## Openings of hunks -/

theorem not_isDigit_of_isLineBreak {c : Char} (h : isLineBreak c = true) : (!c.isDigit) = true :=
  (List.all_eq_true (p := fun c => !c.isDigit)).1 (by decide) c (of_decide_eq_true h)

theorem unbroken_toString (n : Nat) : Unbroken (toString n) := by
  intro c hc
  rw [Nat.toString_eq_ofList_toDigits, String.toList_ofList] at hc
  have hdigit : c.isDigit = true := Nat.isDigit_of_mem_toDigits (by decide) (by decide) hc
  rw [← Bool.not_eq_true]
  intro hbreak
  exact absurd (not_isDigit_of_isLineBreak hbreak) (by rw [hdigit]; decide)

theorem unbroken_rangeText (start length : Nat) : Unbroken (rangeText start length) := by
  unfold rangeText
  split
  · exact unbroken_append.2 ⟨unbroken_toString _, by decide⟩
  · exact unbroken_toString _
  · exact unbroken_append.2 ⟨unbroken_append.2 ⟨unbroken_toString _, by decide⟩, unbroken_toString _⟩

/-- A hunk opens with one line, which starts with its mark. -/
theorem exists_opening (hunk : Hunk) :
    ∃ rest, Unbroken rest ∧ hunk.opening = "@" ++ rest ++ "\n" := by
  refine ⟨"@ -" ++ rangeText hunk.oldStart (hunk.segments.flatMap Segment.old).length ++ " +" ++
    rangeText hunk.newStart (hunk.segments.flatMap Segment.new).length ++ " @@", ?_, ?_⟩
  · simp only [unbroken_append]
    exact ⟨⟨⟨⟨by decide, unbroken_rangeText _ _⟩, by decide⟩, unbroken_rangeText _ _⟩, by decide⟩
  · have hstart : "@@ -" = "@" ++ "@ -" := by decide
    have hend : " @@\n" = " @@" ++ "\n" := by decide
    rw [Hunk.opening, hstart, hend]
    simp only [String.append_assoc]

theorem colouredLine_opening (hunk : Hunk) :
    colouredLine (bare hunk.opening) = paint [.cyan] (bare hunk.opening) := by
  obtain ⟨rest, -, hopening⟩ := exists_opening hunk
  refine colouredLine_of_look (unbroken_bare _) ?_
  rw [hopening, bare_append, bare_append, bare_of_unbroken (by decide : Unbroken "@"),
    String.append_assoc, String.toList_append]
  rfl

theorem colouredLines_eq (lines : List String) :
    colouredLines false lines = unlines (lines.map colouredLine) := by
  have hlines : lines.map colouredLine = ((lines.zipIdx 1).map Prod.fst).map colouredLine := by
    rw [List.zipIdx_map_fst]
  rw [hlines, List.map_map]
  exact congrArg unlines (List.map_congr_left fun _ _ => String.empty_append)

theorem avoids_colouredLine {line : String} (h : Avoids '\n' line) :
    Avoids '\n' (colouredLine line) := by
  have hshown : Avoids '\n' (String.ofList (shownChars line.toList)) := by
    rw [avoids_ofList, shownChars, List.mem_flatMap]
    rintro ⟨c, hc, hfeed⟩
    have hc : c ∈ line.toList :=
      List.mem_reverse.1 ((List.dropWhile_sublist _).subset (List.mem_reverse.1 hc))
    split at hfeed
    · simp at hfeed
    · exact h (List.mem_singleton.1 hfeed ▸ hc)
  unfold colouredLine
  split
  · exact hshown
  · exact avoids_paint _ hshown

/-! ## What is shown of hunks -/

theorem flatMap_eq_flatMap_iff {α β : Type} {f g : α → List β} {xs : List α}
    (h : ∀ x, (f x).length = (g x).length) :
    xs.flatMap f = xs.flatMap g ↔ ∀ x ∈ xs, f x = g x := by
  refine ⟨fun heq => ?_, List.flatMap_congr⟩
  induction xs with
  | nil => exact List.forall_mem_nil _
  | cons x rest ih =>
    rw [List.flatMap_cons, List.flatMap_cons] at heq
    obtain ⟨hx, hrest⟩ := List.append_inj heq (h x)
    exact List.forall_mem_cons.2 ⟨hx, ih hrest⟩

section

variable (removed added : String → Look)

/-- The lines of a part without their breaks, those that change in the given looks. -/
def Segment.shown : Segment → List String
  | .same lines => lines.map fun line => " " ++ bare line
  | .change oldLines newLines =>
    oldLines.map (fun line => paint [removed line] ("-" ++ bare line)) ++
      newLines.map fun line => paint [added line] ("+" ++ bare line)

/-- The lines of a hunk without their breaks, those that change in the given looks. -/
def Hunk.shown (h : Hunk) : List String :=
  paint [.cyan] (bare h.opening) :: h.segments.flatMap (Segment.shown removed added)

/-- The lines with the names of the two sides. -/
def names (oldName newName : String) : List String :=
  (lines ("--- " ++ oldName ++ "\n") ++ lines ("+++ " ++ newName ++ "\n")).map colouredLine

/-- What stands above the hunks: the names of the two sides, if there are hunks. -/
def header (oldName newName : String) : List Hunk → List String
  | [] => []
  | _ :: _ => names oldName newName

/-- What is to be seen of a change: every line of its hunks on a line of its own. -/
def preview (oldName newName : String) (hunks : List Hunk) : List String :=
  header oldName newName hunks ++ hunks.flatMap (Hunk.shown removed added)

theorem length_segment_shown (s : Segment) : (s.shown removed added).length = s.lines.length := by
  cases s <;> simp [Segment.shown, Segment.lines]

theorem length_hunk_shown (h : Hunk) : (h.shown removed added).length = h.lines.length := by
  simp [Hunk.shown, Hunk.lines, List.length_flatMap, length_segment_shown]

theorem avoids_hunk_shown (h : Hunk) : ∀ line ∈ h.shown removed added, Avoids '\n' line := by
  have hmark {mark : String} (hmark : Unbroken mark) (line : String) :
      Avoids '\n' (mark ++ bare line) :=
    (unbroken_append.2 ⟨hmark, unbroken_bare line⟩).avoids rfl
  refine List.forall_mem_cons.2 ⟨avoids_paint _ ((unbroken_bare _).avoids rfl), ?_⟩
  rw [List.forall_mem_flatMap]
  intro s _
  cases s with
  | same lines =>
    rw [Segment.shown, List.forall_mem_map]
    exact fun line _ => hmark (by decide) line
  | change oldLines newLines =>
    rw [Segment.shown, List.forall_mem_append, List.forall_mem_map, List.forall_mem_map]
    exact ⟨fun line _ => avoids_paint _ (hmark (by decide) line),
      fun line _ => avoids_paint _ (hmark (by decide) line)⟩

end

theorem avoids_header (oldName newName : String) (hunks : List Hunk) :
    ∀ line ∈ header oldName newName hunks, Avoids '\n' line := by
  cases hunks with
  | nil => exact List.forall_mem_nil _
  | cons hunk rest =>
    rw [header, names, List.forall_mem_map, List.forall_mem_append]
    exact ⟨fun line h => avoids_colouredLine ((unbroken_of_mem_lines line h).avoids rfl),
      fun line h => avoids_colouredLine ((unbroken_of_mem_lines line h).avoids rfl)⟩

/-- Names without a break are two lines, and these are bold. -/
theorem names_of_unbroken {oldName newName : String} (hold : Unbroken oldName)
    (hnew : Unbroken newName) :
    names oldName newName = [paint [.bold] ("--- " ++ oldName), paint [.bold] ("+++ " ++ newName)] := by
  have hold : Unbroken ("--- " ++ oldName) := unbroken_append.2 ⟨by decide, hold⟩
  have hnew : Unbroken ("+++ " ++ newName) := unbroken_append.2 ⟨by decide, hnew⟩
  rw [names, lines_feed hold, lines_feed hnew, List.singleton_append, List.map_cons,
    List.map_singleton, colouredLine_of_look hold (by rw [String.toList_append]; rfl),
    colouredLine_of_look hnew (by rw [String.toList_append]; rfl)]

theorem colouredLines_segment (s : Segment) :
    s.lines.map (fun line => colouredLine (bare line)) = s.shown removedLook addedLook := by
  cases s with
  | same lines =>
    simp only [Segment.lines, Segment.shown, List.map_map, Function.comp_def, colouredLine_same]
  | change oldLines newLines =>
    simp only [Segment.lines, Segment.shown, List.map_append, List.map_map, Function.comp_def,
      colouredLine_removed, colouredLine_added]

theorem colouredLines_hunk (h : Hunk) :
    h.lines.map (fun line => colouredLine (bare line)) = h.shown removedLook addedLook := by
  rw [Hunk.lines, List.map_cons, colouredLine_opening, List.map_flatMap, Hunk.shown]
  exact congrArg _ (List.flatMap_congr fun s _ => colouredLines_segment s)

/-! ## Looks -/

variable {removed added removed' added' : String → Look}

theorem segment_shown_eq_iff {s : Segment} :
    s.shown removed added = s.shown removed' added' ↔
      (∀ line ∈ s.removed, removed line = removed' line) ∧ ∀ line ∈ s.added, added line = added' line := by
  have hpaint {look look' : String → Look} {mark line : String} :
      paint [look line] (mark ++ bare line) = paint [look' line] (mark ++ bare line) ↔
        look line = look' line :=
    ⟨eq_of_paint_eq, fun h => by rw [h]⟩
  cases s with
  | same lines => exact iff_of_true rfl ⟨List.forall_mem_nil _, List.forall_mem_nil _⟩
  | change oldLines newLines =>
    rw [Segment.shown, Segment.shown]
    refine ⟨fun h => ?_, fun h => ?_⟩
    · obtain ⟨hremoved, hadded⟩ := List.append_inj h (by simp)
      exact ⟨fun line hline => hpaint.1 (List.map_inj_left.1 hremoved line hline),
        fun line hline => hpaint.1 (List.map_inj_left.1 hadded line hline)⟩
    · exact congrArg₂ _ (List.map_congr_left fun line hline => hpaint.2 (h.1 line hline))
        (List.map_congr_left fun line hline => hpaint.2 (h.2 line hline))

theorem hunks_shown_eq_iff {hunks : List Hunk} :
    hunks.flatMap (Hunk.shown removed added) = hunks.flatMap (Hunk.shown removed' added') ↔
      (∀ line ∈ (hunks.flatMap Hunk.segments).flatMap Segment.removed, removed line = removed' line) ∧
        ∀ line ∈ (hunks.flatMap Hunk.segments).flatMap Segment.added, added line = added' line := by
  rw [flatMap_eq_flatMap_iff fun h => by rw [length_hunk_shown, length_hunk_shown]]
  have hhunk (h : Hunk) : h.shown removed added = h.shown removed' added' ↔
      ∀ s ∈ h.segments, (∀ line ∈ s.removed, removed line = removed' line) ∧
        ∀ line ∈ s.added, added line = added' line := by
    rw [Hunk.shown, Hunk.shown, List.cons_inj_right,
      flatMap_eq_flatMap_iff fun s => by rw [length_segment_shown, length_segment_shown]]
    exact forall₂_congr fun s _ => segment_shown_eq_iff
  simp only [hhunk, List.forall_mem_flatMap, forall_and]

/-! ## A patch in colours -/

theorem all_script {p : String → Prop} {old new : List String} (hold : ∀ line ∈ old, p line)
    (hnew : ∀ line ∈ new, p line) : ∀ s ∈ script old new, s.All p := by
  refine fun s hs => ⟨fun line hline => hold line ?_, fun line hline => hnew line ?_⟩
  · rw [← old_script old new]
    exact List.mem_flatMap.2 ⟨s, hs, hline⟩
  · rw [← new_script old new]
    exact List.mem_flatMap.2 ⟨s, hs, hline⟩

theorem isLine_of_mem_textLines (text : String) : ∀ line ∈ textLines text, IsLine line.toList := by
  rw [textLines, List.forall_mem_map]
  intro line hline
  rw [String.toList_ofList]
  exact isLine_of_mem _ line hline

/-- A mark of one character in front of a line makes one line with it. -/
theorem isLine_mark_append {mark : String} {c : Char} (hmark : mark.toList = [c])
    (hc : isLineBreak c = false) {line : String} (hline : IsLine line.toList) :
    IsLine (mark ++ line).toList ∧ (mark ++ line).toList.head? ≠ some '\n' := by
  rw [String.toList_append, hmark]
  refine ⟨hline.cons hc, fun hhead => ?_⟩
  rw [Option.some.inj hhead] at hc
  exact absurd hc (by decide)

theorem areLines_hunks (old new : String) :
    AreLines (((hunks (script (textLines old) (textLines new))).flatMap Hunk.lines).map
      String.toList) := by
  have hall := all_hunks (all_script (isLine_of_mem_textLines old) (isLine_of_mem_textLines new))
  unfold AreLines
  rw [List.forall_mem_map, List.forall_mem_flatMap]
  intro hunk hhunk
  refine List.forall_mem_cons.2 ⟨?_, ?_⟩
  · obtain ⟨rest, hrest, hopening⟩ := exists_opening hunk
    rw [hopening, String.append_assoc]
    refine isLine_mark_append (c := '@') rfl rfl ?_
    rw [String.toList_append]
    exact isLine_append_singleton hrest '\n'
  · rw [List.forall_mem_flatMap]
    exact fun s hs => (hall hunk hhunk s hs).lines
      (fun _ => isLine_mark_append (c := ' ') rfl rfl)
      (fun _ => isLine_mark_append (c := '-') rfl rfl)
      (fun _ => isLine_mark_append (c := '+') rfl rfl)

variable (oldName newName old new : String)

/-- The parts of a patch from one text to another. -/
abbrev textScript : List Segment :=
  script (textLines old) (textLines new)

/-- The lines with the names are not touched by what stands below them. -/
theorem coloured_patchText :
    coloured (patchText oldName newName old new) =
      unlines (header oldName newName (hunks (textScript old new)) ++
        (lines (join "" ((hunks (textScript old new)).flatMap Hunk.lines))).map colouredLine) := by
  have hhead : (join "" ((hunks (textScript old new)).flatMap Hunk.lines)).toList.head? ≠ some '\n' := by
    rw [toList_join_empty]
    exact head?_flatten (areLines_hunks old new)
  have hfeed (s : String) : EndsLine (s ++ "\n").toList := by
    rw [String.toList_append]
    exact (endsLine_append_singleton _).2 rfl
  rw [coloured, colouredLines_eq, patchText, patchLines]
  split
  · next hnone => rw [hnone]; rfl
  · next hsome =>
    rw [join_empty_cons, join_empty_cons, lines_append (hfeed _) (by simp [String.toList_append]),
      lines_append (hfeed _) hhead, ← List.append_assoc, List.map_append]
    cases hhunks : hunks (textScript old new) with
    | nil => exact absurd hhunks hsome
    | cons hunk rest => rfl

/-- The patch in colours is the preview exactly if no removed line runs into an added one, and the looks
are those that the marks give. -/
theorem coloured_patchText_iff (removed added : String → Look) :
    coloured (patchText oldName newName old new) =
        unlines (preview removed added oldName newName (hunks (textScript old new))) ↔
      (∀ s ∈ textScript old new, ¬ s.RunsTogether) ∧
        (∀ line ∈ (textScript old new).flatMap Segment.removed, removed line = removedLook line) ∧
        ∀ line ∈ (textScript old new).flatMap Segment.added, added line = addedLook line := by
  have hlines := areLines_hunks old new
  have hbody : ∀ line ∈ (lines (join "" ((hunks (textScript old new)).flatMap Hunk.lines))).map
      colouredLine, Avoids '\n' line := by
    rw [List.forall_mem_map]
    exact fun line hline => avoids_colouredLine ((unbroken_of_mem_lines line hline).avoids rfl)
  have hshown : ∀ line ∈ (hunks (textScript old new)).flatMap (Hunk.shown removed added),
      Avoids '\n' line := by
    rw [List.forall_mem_flatMap]
    exact fun hunk _ => avoids_hunk_shown removed added hunk
  have hheader := avoids_header oldName newName (hunks (textScript old new))
  rw [coloured_patchText, preview, unlines_inj (List.forall_mem_append.2 ⟨hheader, hbody⟩)
      (List.forall_mem_append.2 ⟨hheader, hshown⟩), List.append_right_inj,
    ← allButLast_lines_hunks_iff (allButLast_textLines old) (allButLast_textLines new),
    ← flatMap_hunks (f := Segment.removed) (fun _ => rfl),
    ← flatMap_hunks (f := Segment.added) (fun _ => rfl), ← hunks_shown_eq_iff]
  have hmarks (hends : AllButLast Ends ((hunks (textScript old new)).flatMap Hunk.lines)) :
      (lines (join "" ((hunks (textScript old new)).flatMap Hunk.lines))).map colouredLine =
        (hunks (textScript old new)).flatMap (Hunk.shown removedLook addedLook) := by
    rw [lines_join hlines hends, List.map_map, List.map_flatMap]
    exact List.flatMap_congr fun hunk _ => colouredLines_hunk hunk
  refine ⟨fun h => ?_, fun h => (hmarks h.1).trans h.2.symm⟩
  -- as many lines as the hunks have, so none of them runs into another
  have hends : AllButLast Ends ((hunks (textScript old new)).flatMap Hunk.lines) := by
    refine (length_lines_join_iff hlines).1 ?_
    have hlength := congrArg List.length h
    simpa [List.length_flatMap, length_hunk_shown] using hlength
  exact ⟨hends, h.symm.trans (hmarks hends)⟩

end Patch

end SampleTypes
