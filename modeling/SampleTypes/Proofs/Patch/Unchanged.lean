/-
A patch is empty exactly if nothing changes (`patchText_eq_empty_iff`).

That a patch of two different texts is not empty follows from the script, which loses nothing of
either side. That the patch of a text and itself is empty does not: it has to be seen that the longest
run in common is found between the same places. At line `row` of the text a run that ends at the same
line is the longest, as it may go back to the last frequent line, and one that ends at an earlier line
was found before, when that line was `row`. So no run between different places is ever longer than the
one that was found (`Diagonal.step`), and that one is extended to the whole text.
-/
import Mathlib.Data.List.Infix
import SampleTypes.Patch.Hunk

namespace SampleTypes.Patch

/-! ## Runs that end at two lines -/

variable (isFrequent : String → Bool)

/-- The number of equal lines at the fronts of two lists, up to a frequent one. -/
def commonUsual : List String → List String → Nat
  | a :: as, b :: bs => if b = a ∧ !isFrequent a then commonUsual as bs + 1 else 0
  | _, _ => 0

theorem commonUsual_nil (as : List String) : commonUsual isFrequent as [] = 0 := by
  cases as <;> rfl

theorem commonUsual_comm (as bs : List String) :
    commonUsual isFrequent as bs = commonUsual isFrequent bs as := by
  induction as generalizing bs with
  | nil => rw [commonUsual_nil]; rfl
  | cons a as ih =>
    cases bs with
    | nil => rfl
    | cons b bs =>
      rw [commonUsual, commonUsual, ih]
      by_cases hab : b = a
      · subst hab
        rfl
      · rw [if_neg fun h => hab h.1, if_neg fun h => hab h.1.symm]

theorem commonUsual_le_self (as bs : List String) :
    commonUsual isFrequent as bs ≤ commonUsual isFrequent as as := by
  induction as generalizing bs with
  | nil => exact Nat.le_refl _
  | cons a as ih =>
    cases bs with
    | nil => exact Nat.zero_le _
    | cons b bs =>
      rw [commonUsual, commonUsual]
      split
      · next h =>
        rw [if_pos ⟨rfl, h.2⟩]
        exact Nat.succ_le_succ (ih bs)
      · exact Nat.zero_le _

theorem commonUsual_le_length (as bs : List String) :
    commonUsual isFrequent as bs ≤ as.length := by
  induction as generalizing bs with
  | nil => exact Nat.le_refl _
  | cons a as ih =>
    cases bs with
    | nil => exact Nat.zero_le _
    | cons b bs =>
      rw [commonUsual]
      split
      · exact Nat.succ_le_succ (ih bs)
      · exact Nat.zero_le _

/-! ## Rows of lengths -/

/-- The lengths of the runs that end at the last of the lines `as` and at each line of `new`; `bs` are
the lines before `new`. Both are given with the last line first. -/
def lengthsFrom (as : List String) : List String → List String → List Nat
  | _, [] => []
  | bs, b :: new => commonUsual isFrequent as (b :: bs) :: lengthsFrom as (b :: bs) new

theorem lengthsFrom_nil (bs new : List String) :
    lengthsFrom isFrequent [] bs new = List.replicate new.length 0 := by
  induction new generalizing bs with
  | nil => rfl
  | cons b new ih =>
    rw [lengthsFrom, ih, List.length_cons, List.replicate_succ]
    rfl

theorem zipWith_lengthsFrom (line : String) (as bs new : List String) :
    List.zipWith (fun other n => if other = line ∧ !isFrequent line then n + 1 else 0) new
        (commonUsual isFrequent as bs :: lengthsFrom isFrequent as bs new) =
      lengthsFrom isFrequent (line :: as) bs new := by
  induction new generalizing bs with
  | nil => rfl
  | cons b new ih =>
    rw [lengthsFrom, lengthsFrom, List.zipWith_cons_cons, ih]
    rfl

/-- One row of lengths gives the next. -/
theorem nextLengths_eq (line : String) (as new : List String) :
    nextLengths isFrequent new line (lengthsFrom isFrequent as [] new) =
      lengthsFrom isFrequent (line :: as) [] new := by
  have hzip := zipWith_lengthsFrom isFrequent line as [] new
  rwa [commonUsual_nil] at hzip

theorem lengthsFrom_append (as bs first second : List String) :
    lengthsFrom isFrequent as bs (first ++ second) =
      lengthsFrom isFrequent as bs first ++
        lengthsFrom isFrequent as (first.reverse ++ bs) second := by
  induction first generalizing bs with
  | nil => rfl
  | cons b first ih =>
    rw [List.cons_append, lengthsFrom, lengthsFrom, ih, List.cons_append, List.reverse_cons,
      List.append_assoc]
    rfl

theorem length_lengthsFrom (as bs new : List String) :
    (lengthsFrom isFrequent as bs new).length = new.length := by
  induction new generalizing bs with
  | nil => rfl
  | cons b new ih => rw [lengthsFrom, List.length_cons, List.length_cons, ih]

theorem exists_of_mem_lengthsFrom {as bs new : List String} {n : Nat}
    (h : n ∈ lengthsFrom isFrequent as bs new) :
    ∃ cs, cs <:+ new.reverse ++ bs ∧ n = commonUsual isFrequent as cs := by
  induction new generalizing bs with
  | nil => cases h
  | cons b new ih =>
    have hlines : (b :: new).reverse ++ bs = new.reverse ++ b :: bs := by simp
    rw [hlines]
    rcases List.mem_cons.1 h with rfl | h
    · exact ⟨b :: bs, List.suffix_append _ _, rfl⟩
    · exact ih h

/-! ## The longest run of a text and itself -/

theorem longerIn_append (row column : Nat) (first second : List Nat) (best : Run) :
    longerIn row column (first ++ second) best =
      longerIn row (column + first.length) second (longerIn row column first best) := by
  induction first generalizing column best with
  | nil => rfl
  | cons n first ih =>
    rw [List.cons_append, longerIn, longerIn, ih, List.length_cons]
    congr 1
    omega

theorem longerIn_of_le {lengths : List Nat} {best : Run} (h : ∀ n ∈ lengths, n ≤ best.length)
    (row column : Nat) : longerIn row column lengths best = best := by
  induction lengths generalizing column with
  | nil => rfl
  | cons n lengths ih =>
    have hn : ¬ best.length < n := Nat.not_lt.2 (h n List.mem_cons_self)
    rw [longerIn, if_neg hn]
    exact ih (fun n hn => h n (List.mem_cons_of_mem _ hn)) _

/-- The run is one between the same places of a text of which the lines `as` were read, last first,
and none that ends in them is longer. -/
structure Diagonal (as : List String) (r : Run) : Prop where
  same : r.oldStart = r.newStart
  inside : r.oldStart + r.length ≤ as.length
  longest : ∀ cs, cs <:+ as → commonUsual isFrequent cs cs ≤ r.length

variable {isFrequent}

theorem Diagonal.step {as : List String} {r : Run} (h : Diagonal isFrequent as r) (line : String)
    (rest : List String) :
    Diagonal isFrequent (line :: as)
      (longerIn as.length 0
        (lengthsFrom isFrequent (line :: as) [] (as.reverse ++ line :: rest)) r) := by
  -- the row in three parts: before the line itself, at it, and behind it
  have hrow : lengthsFrom isFrequent (line :: as) [] (as.reverse ++ line :: rest) =
      lengthsFrom isFrequent (line :: as) [] as.reverse ++
        (commonUsual isFrequent (line :: as) (line :: as) ::
          lengthsFrom isFrequent (line :: as) (line :: as) rest) := by
    rw [lengthsFrom_append, List.append_nil, List.reverse_reverse]
    rfl
  have hbefore : ∀ n ∈ lengthsFrom isFrequent (line :: as) [] as.reverse, n ≤ r.length := by
    intro n hn
    obtain ⟨cs, hcs, rfl⟩ := exists_of_mem_lengthsFrom isFrequent hn
    rw [List.append_nil, List.reverse_reverse] at hcs
    rw [commonUsual_comm]
    exact (commonUsual_le_self isFrequent cs _).trans (h.longest cs hcs)
  have hbehind : ∀ n ∈ lengthsFrom isFrequent (line :: as) (line :: as) rest,
      n ≤ commonUsual isFrequent (line :: as) (line :: as) := by
    intro n hn
    obtain ⟨cs, -, rfl⟩ := exists_of_mem_lengthsFrom isFrequent hn
    exact commonUsual_le_self isFrequent _ cs
  have hlength := commonUsual_le_length isFrequent (line :: as) (line :: as)
  rw [hrow, longerIn_append, longerIn_of_le hbefore, longerIn, length_lengthsFrom,
    List.length_reverse, Nat.zero_add]
  by_cases hlonger : r.length < commonUsual isFrequent (line :: as) (line :: as)
  · rw [if_pos hlonger, longerIn_of_le hbehind]
    refine ⟨rfl, ?_, fun cs hcs => ?_⟩
    · simp only [List.length_cons] at hlength ⊢
      omega
    · rcases List.suffix_cons_iff.1 hcs with rfl | hcs
      · exact Nat.le_refl _
      · exact (h.longest cs hcs).trans (Nat.le_of_lt hlonger)
  · have hle := Nat.not_lt.1 hlonger
    rw [if_neg hlonger, longerIn_of_le fun n hn => (hbehind n hn).trans hle]
    refine ⟨h.same, h.inside.trans (Nat.le_succ _), fun cs hcs => ?_⟩
    rcases List.suffix_cons_iff.1 hcs with rfl | hcs
    · exact hle
    · exact h.longest cs hcs

theorem Diagonal.longestFrom {as : List String} {r : Run} (h : Diagonal isFrequent as r)
    (old : List String) :
    Diagonal isFrequent (old.reverse ++ as)
      (longestFrom isFrequent (as.reverse ++ old) as.length old
        (lengthsFrom isFrequent as [] (as.reverse ++ old)) r) := by
  induction old generalizing as r with
  | nil => exact h
  | cons line old ih =>
    rw [Patch.longestFrom, nextLengths_eq]
    have hlines : as.reverse ++ line :: old = (line :: as).reverse ++ old := by simp
    have hstep := ih (h.step line old)
    rw [← hlines] at hstep
    rw [List.reverse_cons, List.append_assoc]
    exact hstep

theorem commonFront_self (lines : List String) : commonFront lines lines = lines.length := by
  induction lines with
  | nil => rfl
  | cons line lines ih => rw [commonFront, if_pos rfl, ih, List.length_cons]

/-- Between the same places of a text, equal lines go on to both its ends. -/
theorem extend_self {lines : List String} {r : Run} (hsame : r.oldStart = r.newStart)
    (hinside : r.oldStart + r.length ≤ lines.length) :
    r.extend lines lines = ⟨0, 0, lines.length⟩ := by
  rw [Run.extend, ← hsame, commonFront_self, commonFront_self, List.length_reverse, List.length_take,
    List.length_drop, Nat.min_eq_left (by omega)]
  simp only [Nat.sub_self, Run.mk.injEq, true_and]
  omega

variable (isFrequent) in
theorem exists_longest?_self {lines : List String} (hlines : lines ≠ []) :
    ∃ c, longest? isFrequent lines lines = some c ∧ c.oldBefore = [] ∧ c.newBefore = [] ∧
      c.part = lines ∧ c.oldAfter = [] ∧ c.newAfter = [] := by
  have hstart : Diagonal isFrequent [] ⟨0, 0, 0⟩ :=
    ⟨rfl, Nat.le_refl _, fun cs hcs => by rw [List.suffix_nil.1 hcs]; exact Nat.le_refl _⟩
  have hrun := hstart.longestFrom lines
  simp only [List.reverse_nil, List.nil_append, List.length_nil, List.append_nil,
    lengthsFrom_nil] at hrun
  have hinside := hrun.inside
  rw [List.length_reverse] at hinside
  simp only [longest?, extend_self hrun.same hinside, Common.at?, List.drop_zero, List.take_length]
  rw [dif_pos ⟨trivial, hlines⟩]
  exact ⟨_, rfl, rfl, rfl, rfl, List.drop_length, List.drop_length⟩

/-! ## Empty patches -/

theorem align_nil : align isFrequent [] [] = [] := by
  have hnone : longest? isFrequent [] [] = none := by
    simp only [longest?, Common.at?, List.drop_nil, List.take_nil]
    exact dif_neg fun h => h.2 rfl
  rw [align, hnone]
  rfl

/-- All lines of a text stay if it is compared with itself. -/
theorem align_self {lines : List String} (hlines : lines ≠ []) :
    align isFrequent lines lines = [.same lines] := by
  obtain ⟨c, hlongest, hoBefore, hnBefore, hpart, hoAfter, hnAfter⟩ :=
    exists_longest?_self isFrequent hlines
  rw [align, hlongest]
  simp only [hoBefore, hnBefore, hpart, hoAfter, hnAfter, align_nil, List.nil_append, List.append_nil]

theorem hunks_script_self (lines : List String) : hunks (script lines lines) = [] := by
  unfold script
  dsimp only
  by_cases hlines : lines = []
  · subst hlines
    rw [align_nil]
    rfl
  · rw [align_self hlines]
    rfl

theorem hunksFrom_shown_ne_nil (oldStart newStart : Nat) (segment : Segment) (rest : List Piece) :
    hunksFrom oldStart newStart (.shown segment :: rest) ≠ [] := by
  unfold hunksFrom
  dsimp only
  split <;> exact List.cons_ne_nil _ _

/-- Without hunks, the lines of both sides are those that stay. -/
theorem sides_eq_of_hunks {segments : List Segment} (h : hunks segments = []) :
    segments.flatMap Segment.old = segments.flatMap Segment.new := by
  unfold hunks at h
  match segments with
  | [] => rfl
  | [.same lines] => rfl
  | .same lines :: segment :: rest =>
    -- the lines just before the next part are shown
    have hpieces : pieces true (.same lines :: segment :: rest) =
        .hidden (lines.length - contextLength) :: .shown (.same (lastLines lines)) ::
          pieces false (segment :: rest) := rfl
    rw [hpieces] at h
    exact absurd h (hunksFrom_shown_ne_nil _ _ _ _)
  | .change removed added :: rest => exact absurd h (hunksFrom_shown_ne_nil _ _ _ _)

theorem patchLines_eq_nil_iff {oldName newName : String} {old new : List String} :
    patchLines oldName newName old new = [] ↔ old = new := by
  unfold patchLines
  constructor
  · intro h
    split at h
    · next hhunks =>
      have hsides := sides_eq_of_hunks hhunks
      rwa [old_script, new_script] at hsides
    · cases h
  · rintro rfl
    rw [hunks_script_self]

/-- The lines of a text with their ends are the text. -/
theorem textLines_injective {s t : String} (h : textLines s = textLines t) : s = t := by
  have hchars : Text.linesWithEnds s.toList = Text.linesWithEnds t.toList := by
    have hmap := congrArg (List.map String.toList) h
    simpa only [textLines, List.map_map, Function.comp_def, String.toList_ofList, List.map_id']
      using hmap
  have hflat := congrArg List.flatten hchars
  rwa [Text.flatten_linesWithEnds, Text.flatten_linesWithEnds, String.toList_inj] at hflat

/-- **A patch is empty exactly if nothing changes.** -/
theorem patchText_eq_empty_iff {oldName newName old new : String} :
    patchText oldName newName old new = "" ↔ old = new := by
  have hlines : patchText oldName newName old new = "" ↔
      patchLines oldName newName (textLines old) (textLines new) = [] := by
    unfold patchText patchLines
    split
    · simp [Text.join]
    · -- the first line names the old side
      rw [Text.join_cons]
      simp
  rw [hlines, patchLines_eq_nil_iff]
  exact ⟨textLines_injective, fun h => h ▸ rfl⟩

end SampleTypes.Patch
