/-
Haskell string literals and the text of comments on one line.
-/
import SampleTypes.Text.Lines

namespace SampleTypes.Haskell

/--
A character inside a string literal. Control characters are written by their decimal code, closed
by `\&` so that a digit after them does not belong to the code.
-/
def literalChar (c : Char) : List Char :=
  if c = '"' ∨ c = '\\' then ['\\', c]
  else if c = '\n' then ['\\', 'n']
  else if c.toNat < 0x20 then '\\' :: Nat.toDigits 10 c.toNat ++ ['\\', '&']
  else [c]

/-- A text as a string literal. -/
def literal (s : String) : String :=
  String.ofList ('"' :: s.toList.flatMap literalChar ++ ['"'])

/-- A text as it can stand in a comment on one line: without line ends. -/
def commentText (s : String) : String :=
  Text.replaceEach
    (fun c => if c = '\r' then ['\\', 'r'] else if c = '\n' then ['\\', 'n'] else [c]) s

end SampleTypes.Haskell
