/-
A patch in colours: removed lines are red, added ones green, openings of hunks cyan, and lines that
look like the names of the two sides bold.
-/
import SampleTypes.Terminal.Style
import SampleTypes.Text.Blank
import SampleTypes.Text.Lines

namespace SampleTypes.Patch

/-- The looks of a line of a patch, by the marks it starts with. -/
def lineLooks : List Char → List Terminal.Look
  | '-' :: '-' :: '-' :: _ => [.bold]
  | '+' :: '+' :: '+' :: _ => [.bold]
  | '-' :: _ => [.red]
  | '+' :: _ => [.green]
  | '@' :: _ => [.cyan]
  | _ => []

/-- What is shown of a line: not the line feeds at its end, and carriage returns as `\r`. -/
def shownChars (line : List Char) : List Char :=
  (Text.dropEndWhile (· == '\n') line).flatMap (fun c => if c = '\r' then ['\\', 'r'] else [c])

/-- A line of a patch in its colours. -/
def colouredLine (line : String) : String :=
  let shown := String.ofList (shownChars line.toList)
  match lineLooks line.toList with
  | [] => shown
  | looks => Terminal.paint looks shown

/-- The number in front of a line. -/
def lineNumber (n : Nat) : String :=
  let digits := toString n
  let zeros := String.ofList (List.replicate (4 - digits.length) '0')
  Terminal.paint [.gray] (zeros ++ digits ++ "|")

/-- Lines of a patch in their colours, with or without their numbers. -/
def colouredLines (numbered : Bool) (lines : List String) : String :=
  Text.unlines ((lines.zipIdx 1).map (fun (line, n) =>
    (if numbered then lineNumber n else "") ++ colouredLine line))

/-- A patch in its colours. -/
def coloured (patch : String) : String :=
  colouredLines false (Text.lines patch)

end SampleTypes.Patch
