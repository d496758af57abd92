/-
What changes from one list of lines to another: the lines that stay, and between them the lines
that are removed and added.

`old_script` and `new_script` say that nothing is lost on either side.
-/
import SampleTypes.Patch.Matching

namespace SampleTypes.Patch

/-- A part of a change: lines that stay, or lines in the place of which others come. -/
inductive Segment where
  | same (lines : List String)
  | change (removed added : List String)
  deriving DecidableEq, Repr

namespace Segment

/-- The lines of the old side. -/
def old : Segment → List String
  | same lines => lines
  | change removed _ => removed

/-- The lines of the new side. -/
def new : Segment → List String
  | same lines => lines
  | change _ added => added

end Segment

/-- A change with at least one line. -/
def changeOf (removed added : List String) : List Segment :=
  if removed.isEmpty && added.isEmpty then [] else [.change removed added]

/-- Cuts at the longest part in common, then does the same before and after it. -/
def align (isFrequent : String → Bool) (old new : List String) : List Segment :=
  match longest? isFrequent old new with
  | none => changeOf old new
  | some c =>
    have := c.length_before_lt
    have := c.length_after_lt
    align isFrequent c.oldBefore c.newBefore ++ [.same c.part] ++
      align isFrequent c.oldAfter c.newAfter
termination_by old.length + new.length

/-- Puts neighbouring lines that stay together. -/
def joinSame : List Segment → List Segment
  | [] => []
  | .change removed added :: rest => .change removed added :: joinSame rest
  | .same lines :: rest =>
    match joinSame rest with
    | .same more :: rest => .same (lines ++ more) :: rest
    | rest => .same lines :: rest

/-- The change from `old` to `new`. -/
def script (old new : List String) : List Segment :=
  let frequentLines := frequent new
  joinSame (align (fun line => line ∈ frequentLines) old new)

theorem old_changeOf (removed added : List String) :
    (changeOf removed added).flatMap Segment.old = removed := by
  unfold changeOf
  split <;> simp_all [Segment.old]

theorem new_changeOf (removed added : List String) :
    (changeOf removed added).flatMap Segment.new = added := by
  unfold changeOf
  split <;> simp_all [Segment.new]

theorem old_align (isFrequent : String → Bool) (old new : List String) :
    (align isFrequent old new).flatMap Segment.old = old := by
  fun_induction align isFrequent old new with
  | case1 old new _ => exact old_changeOf old new
  | case2 old new c _ _ _ ihBefore ihAfter =>
    simp only [List.flatMap_append, ihBefore, ihAfter]
    simpa [Segment.old] using c.old_eq.symm

theorem new_align (isFrequent : String → Bool) (old new : List String) :
    (align isFrequent old new).flatMap Segment.new = new := by
  fun_induction align isFrequent old new with
  | case1 old new _ => exact new_changeOf old new
  | case2 old new c _ _ _ ihBefore ihAfter =>
    simp only [List.flatMap_append, ihBefore, ihAfter]
    simpa [Segment.new] using c.new_eq.symm

theorem old_joinSame (segments : List Segment) :
    (joinSame segments).flatMap Segment.old = segments.flatMap Segment.old := by
  fun_induction joinSame segments <;> simp_all [Segment.old]

theorem new_joinSame (segments : List Segment) :
    (joinSame segments).flatMap Segment.new = segments.flatMap Segment.new := by
  fun_induction joinSame segments <;> simp_all [Segment.new]

theorem old_script (old new : List String) : (script old new).flatMap Segment.old = old := by
  rw [script, old_joinSame, old_align]

theorem new_script (old new : List String) : (script old new).flatMap Segment.new = new := by
  rw [script, new_joinSame, new_align]

end SampleTypes.Patch
