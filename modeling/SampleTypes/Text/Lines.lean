/-
Cutting texts into pieces and putting pieces together: at a separator, into lines, and into columns
of a given width.

Cutting at a separator gives at least one piece (`splitChars_ne_nil`), and cutting into lines loses
nothing (`flatten_linesWithEnds`).
-/
namespace SampleTypes.Text

/-! ## At a separator -/

/-- The pieces between the occurrences of `sep`: one more than there are occurrences. -/
def splitChars (sep : Char) : List Char → List (List Char)
  | [] => [[]]
  | c :: rest =>
    if c = sep then [] :: splitChars sep rest
    else
      match splitChars sep rest with
      | [] => [[c]]
      | piece :: pieces => (c :: piece) :: pieces

/-- The pieces of a text between the occurrences of `sep`. -/
def split (sep : Char) (s : String) : List String :=
  (splitChars sep s.toList).map String.ofList

/-- The texts in order with `sep` between neighbours. -/
def join (sep : String) : List String → String
  | [] => ""
  | [s] => s
  | s :: t :: rest => s ++ sep ++ join sep (t :: rest)

/-- Every text followed by a line feed. -/
def unlines : List String → String
  | [] => ""
  | line :: rest => line ++ "\n" ++ unlines rest

theorem join_cons (sep first : String) (rest : List String) :
    join sep (first :: rest) = first ++ if rest = [] then "" else sep ++ join sep rest := by
  cases rest with
  | nil => exact (String.append_empty).symm
  | cons second rest => rw [join, if_neg (List.cons_ne_nil _ _), String.append_assoc]

theorem splitChars_ne_nil (sep : Char) (cs : List Char) : splitChars sep cs ≠ [] := by
  induction cs with
  | nil => simp [splitChars]
  | cons c rest ih =>
    rw [splitChars]
    split
    · simp
    · split <;> simp

/-! ## Lines -/

/-- The characters that end a line. -/
def isLineBreak (c : Char) : Bool :=
  c ∈ ['\n', '\r', '\x0b', '\x0c', '\x1c', '\x1d', '\x1e', '\u0085', '\u2028', '\u2029']

/-- Puts a character in front of the first line. -/
def consLine (c : Char) : List (List Char) → List (List Char)
  | [] => [[c]]
  | line :: lines => (c :: line) :: lines

/-- The lines, each with the break that ends it; a carriage return and line feed are one break. -/
def linesWithEnds : List Char → List (List Char)
  | [] => []
  | '\r' :: '\n' :: rest => ['\r', '\n'] :: linesWithEnds rest
  | c :: rest => if isLineBreak c then [c] :: linesWithEnds rest else consLine c (linesWithEnds rest)

@[simp] theorem flatten_consLine (c : Char) (lines : List (List Char)) :
    (consLine c lines).flatten = c :: lines.flatten := by
  cases lines <;> simp [consLine]

theorem flatten_linesWithEnds (cs : List Char) : (linesWithEnds cs).flatten = cs := by
  fun_induction linesWithEnds cs with
  | case1 => rfl
  | case2 rest ih => simp [ih]
  | case3 c rest _ _ ih => simp [ih]
  | case4 c rest _ _ ih => simp [ih]

/-- The lines of a text without their breaks. -/
def lines (s : String) : List String :=
  (linesWithEnds s.toList).map (fun line => String.ofList (line.filter (fun c => !isLineBreak c)))

/-- A carriage return, alone or before a line feed, read as a line feed. -/
def unifyBreaks : List Char → List Char
  | [] => []
  | '\r' :: '\n' :: rest => '\n' :: unifyBreaks rest
  | '\r' :: rest => '\n' :: unifyBreaks rest
  | c :: rest => c :: unifyBreaks rest

/-! ## Columns -/

/-- A text filled up with spaces at its end to `width` characters. -/
def padEnd (width : Nat) (s : String) : String :=
  s ++ String.ofList (List.replicate (width - s.length) ' ')

theorem length_padEnd (width : Nat) (s : String) : (padEnd width s).length = max width s.length := by
  rw [padEnd, String.length_append, String.length_ofList, List.length_replicate]
  omega

/-- A text filled up with spaces at its start to `width` characters. -/
def padStart (width : Nat) (s : String) : String :=
  String.ofList (List.replicate (width - s.length) ' ') ++ s

/-! ## Replacing -/

/-- A text with each character replaced by a text. -/
def replaceEach (f : Char → List Char) (s : String) : String :=
  String.ofList (s.toList.flatMap f)

end SampleTypes.Text
