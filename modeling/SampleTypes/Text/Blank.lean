/-
White space in the wide sense, and trimming it from the ends of a text.
-/
namespace SampleTypes.Text

/-- Runs of white space: the control separators, the spaces, and the line and paragraph separators. -/
def blankRuns : List (Nat × Nat) :=
  [(0x09, 0x0D), (0x1C, 0x20), (0x85, 0x85), (0xA0, 0xA0), (0x1680, 0x1680), (0x2000, 0x200A),
    (0x2028, 0x2029), (0x202F, 0x202F), (0x205F, 0x205F), (0x3000, 0x3000)]

/-- A white-space character. -/
def isBlank (c : Char) : Bool :=
  blankRuns.any (fun (first, last) => first ≤ c.toNat && c.toNat ≤ last)

/-- The characters without the longest end whose members all satisfy `p`. -/
def dropEndWhile (p : Char → Bool) (cs : List Char) : List Char :=
  (cs.reverse.dropWhile p).reverse

/-- A text without white space at its end. -/
def trimEnd (s : String) : String :=
  String.ofList (dropEndWhile isBlank s.toList)

/-- The characters without white space at either end. -/
def trimmed (cs : List Char) : List Char :=
  dropEndWhile isBlank (cs.dropWhile isBlank)

/-- A text without white space at either end. -/
def trim (s : String) : String :=
  String.ofList (trimmed s.toList)

/-- A text whose characters are all white space; so is the empty one. -/
def isAllBlank (s : String) : Bool :=
  s.toList.all isBlank

end SampleTypes.Text
