/-
The written form of a change: hunks, each with the places where it starts and a few lines around
what it changes.
-/
import SampleTypes.Patch.Script
import SampleTypes.Text.Lines

namespace SampleTypes.Patch

/-! ## Hunks -/

/-- The number of lines that are kept on each side of a change. -/
def contextLength : Nat := 3

/-- A part of a change as it is shown: with its lines, or only with their number. -/
inductive Piece where
  | shown (segment : Segment)
  | hidden (count : Nat)

/-- The last lines of those that stay. -/
def lastLines (lines : List String) : List String :=
  lines.drop (lines.length - contextLength)

/-- Hides the lines that stay and are not near a change; `isFirst` where nothing comes before. -/
def pieces (isFirst : Bool) : List Segment → List Piece
  | [] => []
  | .change removed added :: rest => .shown (.change removed added) :: pieces false rest
  | [.same lines] =>
    if isFirst then [] else [.shown (.same (lines.take contextLength))]
  | .same lines :: rest =>
    let hidden := lines.length - contextLength
    if isFirst then .hidden hidden :: .shown (.same (lastLines lines)) :: pieces false rest
    else if contextLength < hidden then
      .shown (.same (lines.take contextLength)) :: .hidden (hidden - contextLength) ::
        .shown (.same (lastLines lines)) :: pieces false rest
    else .shown (.same lines) :: pieces false rest

/-- Neighbouring parts of a change, with the numbers of lines before them on either side. -/
structure Hunk where
  oldStart : Nat
  newStart : Nat
  segments : List Segment
  deriving DecidableEq, Repr

/-- The hunks between the hidden parts. -/
def hunksFrom (oldStart newStart : Nat) : List Piece → List Hunk
  | [] => []
  | .hidden count :: rest => hunksFrom (oldStart + count) (newStart + count) rest
  | .shown segment :: rest =>
    let later := hunksFrom (oldStart + segment.old.length) (newStart + segment.new.length) rest
    match rest, later with
    | .shown _ :: _, hunk :: hunks => ⟨oldStart, newStart, segment :: hunk.segments⟩ :: hunks
    | _, hunks => ⟨oldStart, newStart, [segment]⟩ :: hunks

/-- The hunks of a change; there are none if nothing changes. -/
def hunks (segments : List Segment) : List Hunk :=
  hunksFrom 0 0 (pieces true segments)

/-! ## Their text -/

/-- A range of lines; an empty range is placed after the line before it. -/
def rangeText (start length : Nat) : String :=
  match length with
  | 0 => toString start ++ ",0"
  | 1 => toString (start + 1)
  | length => toString (start + 1) ++ "," ++ toString length

/-- The lines of a part, each after its mark. -/
def Segment.lines : Segment → List String
  | .same lines => lines.map (" " ++ ·)
  | .change removed added => removed.map ("-" ++ ·) ++ added.map ("+" ++ ·)

/-- The line that opens a hunk. -/
def Hunk.opening (h : Hunk) : String :=
  "@@ -" ++ rangeText h.oldStart (h.segments.flatMap Segment.old).length ++
    " +" ++ rangeText h.newStart (h.segments.flatMap Segment.new).length ++ " @@\n"

/-- The lines of a hunk. -/
def Hunk.lines (h : Hunk) : List String :=
  h.opening :: h.segments.flatMap Segment.lines

/-- The lines of the patch that takes `old` to `new`, both as lines with their ends. -/
def patchLines (oldName newName : String) (old new : List String) : List String :=
  match hunks (script old new) with
  | [] => []
  | hunks =>
    ("--- " ++ oldName ++ "\n") :: ("+++ " ++ newName ++ "\n") :: hunks.flatMap Hunk.lines

/-- The lines of a text with their ends. -/
def textLines (text : String) : List String :=
  (Text.linesWithEnds text.toList).map String.ofList

/-- The patch that takes one text to another; empty if they are the same. -/
def patchText (oldName newName old new : String) : String :=
  Text.join "" (patchLines oldName newName (textLines old) (textLines new))

end SampleTypes.Patch
