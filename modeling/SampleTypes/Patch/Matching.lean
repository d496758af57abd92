/-
The longest run of lines that two texts have in common. Of runs of one length the one that starts
first in the old text is taken, and of those the one that starts first in the new text.

A line that is very frequent in a long new text says little about where the texts belong together:
no run starts with it, though a run may be extended by it.
-/
namespace SampleTypes.Patch

/-! ## Parts in common -/

/-- A way to cut two lists so that both have the same part in the middle. -/
structure Common {α : Type} (old new : List α) where
  oldBefore : List α
  newBefore : List α
  part : List α
  oldAfter : List α
  newAfter : List α
  old_eq : old = oldBefore ++ part ++ oldAfter
  new_eq : new = newBefore ++ part ++ newAfter
  part_ne_nil : part ≠ []

namespace Common

variable {α : Type} {old new : List α}

theorem length_before_lt (c : Common old new) :
    c.oldBefore.length + c.newBefore.length < old.length + new.length := by
  have h := List.length_pos_iff.2 c.part_ne_nil
  have ho := congrArg List.length c.old_eq
  have hn := congrArg List.length c.new_eq
  simp only [List.length_append] at ho hn
  omega

theorem length_after_lt (c : Common old new) :
    c.oldAfter.length + c.newAfter.length < old.length + new.length := by
  have h := List.length_pos_iff.2 c.part_ne_nil
  have ho := congrArg List.length c.old_eq
  have hn := congrArg List.length c.new_eq
  simp only [List.length_append] at ho hn
  omega

/-- The part of a length that starts at two places, if it is the same in both lists. -/
def at? [DecidableEq α] (old new : List α) (oldStart newStart length : Nat) :
    Option (Common old new) :=
  let part := (old.drop oldStart).take length
  if h : part = (new.drop newStart).take length ∧ part ≠ [] then
    some {
      oldBefore := old.take oldStart
      newBefore := new.take newStart
      part := part
      oldAfter := (old.drop oldStart).drop length
      newAfter := (new.drop newStart).drop length
      old_eq := by
        rw [List.append_assoc, List.take_append_drop, List.take_append_drop]
      new_eq := by
        rw [h.1, List.append_assoc, List.take_append_drop, List.take_append_drop]
      part_ne_nil := h.2 }
  else none

end Common

/-! ## Frequent lines -/

/-- A list with at least this many lines is long. -/
def longLength : Nat := 200

/-- The lines that occur too often in a long list to tell places apart. -/
def frequent (lines : List String) : List String :=
  if lines.length < longLength then []
  else lines.eraseDups.filter (fun line => lines.length / 100 + 1 < lines.count line)

/-! ## The longest run -/

/-- A run of equal lines: where it starts and how long it is. -/
structure Run where
  oldStart : Nat
  newStart : Nat
  length : Nat

/-- For every place in the new text, how many equal lines end there and at a line of the old text,
from those that end at the line before it. -/
def nextLengths (isFrequent : String → Bool) (new : List String) (line : String)
    (previous : List Nat) : List Nat :=
  List.zipWith (fun other n => if other = line ∧ !isFrequent line then n + 1 else 0) new
    (0 :: previous)

/-- The longer of a run and the runs that end at line `row` of the old text. -/
def longerIn (row : Nat) : Nat → List Nat → Run → Run
  | _, [], best => best
  | column, n :: lengths, best =>
    longerIn row (column + 1) lengths
      (if best.length < n then ⟨row + 1 - n, column + 1 - n, n⟩ else best)

/-- The longest run without frequent lines, and `best` if there is none longer. -/
def longestFrom (isFrequent : String → Bool) (new : List String) :
    Nat → List String → List Nat → Run → Run
  | _, [], _, best => best
  | row, line :: old, previous, best =>
    let lengths := nextLengths isFrequent new line previous
    longestFrom isFrequent new (row + 1) old lengths (longerIn row 0 lengths best)

/-- The number of elements that two lists have in common at their fronts. -/
def commonFront {α : Type} [DecidableEq α] : List α → List α → Nat
  | a :: as, b :: bs => if a = b then commonFront as bs + 1 else 0
  | _, _ => 0

/-- A run with all equal lines before and after it. -/
def Run.extend (old new : List String) (r : Run) : Run :=
  let back := commonFront (old.take r.oldStart).reverse (new.take r.newStart).reverse
  let forth := commonFront (old.drop (r.oldStart + r.length)) (new.drop (r.newStart + r.length))
  ⟨r.oldStart - back, r.newStart - back, back + r.length + forth⟩

/-- The longest part in common, if any line is. -/
def longest? (isFrequent : String → Bool) (old new : List String) : Option (Common old new) :=
  let run := longestFrom isFrequent new 0 old (List.replicate new.length 0) ⟨0, 0, 0⟩
  let run := run.extend old new
  Common.at? old new run.oldStart run.newStart run.length

end SampleTypes.Patch
