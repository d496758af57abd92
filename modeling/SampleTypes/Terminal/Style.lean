/-
Coloured text for terminals. Text that is already coloured keeps its own colours: wherever it
switches a colour off, the new one is switched on again, and no colour runs across a line break.
Plain text is what is left without any control sequences, those of the text itself included.
-/
import SampleTypes.Text.Substitution

namespace SampleTypes.Terminal

/-- The looks of a text. -/
inductive Look where
  | bold
  | dim
  | underline
  | red
  | green
  | yellow
  | blue
  | cyan
  | gray
  | brightRed
  | brightYellow
  deriving DecidableEq, Repr

namespace Look

/-- The number that switches a look on. -/
def on : Look → Nat
  | bold => 1
  | dim => 2
  | underline => 4
  | red => 31
  | green => 32
  | yellow => 33
  | blue => 34
  | cyan => 36
  | gray => 90
  | brightRed => 91
  | brightYellow => 93

/-- The number that switches a look off: weight, underline and colour each have their own. -/
def off : Look → Nat
  | bold | dim => 22
  | underline => 24
  | _ => 39

end Look

/-- The control sequence of a number. -/
def sequence (number : Nat) : List Char :=
  "\x1b[".toList ++ (toString number).toList ++ ['m']

/-- Switches looks on. -/
def ons (looks : List Look) : List Char :=
  looks.flatMap (fun look => sequence look.on)

/-- Switches looks off. -/
def offs (looks : List Look) : List Char :=
  looks.flatMap (fun look => sequence look.off)

/-! ## Painting -/

/-- Switches a look on again after everything that switches it off. -/
def resume (look : Look) (s : List Char) : List Char :=
  Text.substitute (Text.wordRule (sequence look.off) (sequence look.off ++ sequence look.on)) s

/-- The number of characters up to the end of the next reset on the line. -/
def lengthToReset? : List Char → Option Nat
  | [] => none
  | c :: rest =>
    if (sequence 0).isPrefixOf (c :: rest) then some (sequence 0).length
    else if c = '\n' then none
    else (lengthToReset? rest).map (· + 1)

/-- The rule that keeps looks out of a part between two resets. -/
def resetRule (looks : List Look) (s : List Char) : Option (Nat × List Char) :=
  if (sequence 0).isPrefixOf s then
    (lengthToReset? (s.drop (sequence 0).length)).map (fun n =>
      let length := (sequence 0).length + n
      (length, offs looks ++ s.take length ++ ons looks))
  else none

/-- The rule that keeps looks out of line breaks. -/
def breakRule (looks : List Look) : List Char → Option (Nat × List Char)
  | '\r' :: '\n' :: _ => some (2, offs looks ++ ['\r', '\n'] ++ ons looks)
  | '\n' :: _ => some (1, offs looks ++ ['\n'] ++ ons looks)
  | _ => none

/-- A text with looks, which its own control sequences do not end. -/
def paintChars (looks : List Look) (s : List Char) : List Char :=
  let resumed := looks.foldl (fun s look => resume look s) s
  let kept := Text.substitute (resetRule looks) resumed
  ons looks ++ Text.substitute (breakRule looks) kept ++ offs looks

/-- A text with looks. -/
def paint (looks : List Look) (s : String) : String :=
  String.ofList (paintChars looks s.toList)

/-- A text with looks that ends with a reset of all looks. -/
def emphasize (looks : List Look) (s : String) : String :=
  String.ofList (ons looks ++ s.toList ++ sequence 0)

/-! ## Plain text -/

/-- A character is in a range. -/
def within (low high c : Char) : Bool :=
  low ≤ c && c ≤ high

/-- The rule that takes control sequences out. -/
def controlRule : List Char → Option (Nat × List Char)
  | '\x1b' :: '[' :: rest =>
    let parameters := rest.takeWhile (within '0' '?')
    let between := (rest.drop parameters.length).takeWhile (within ' ' '/')
    match rest.drop (parameters.length + between.length) with
    | c :: _ =>
      if within '@' '~' c then some (3 + parameters.length + between.length, []) else none
    | [] => none
  | _ => none

/-- A text without its control sequences. -/
def plain (s : String) : String :=
  String.ofList (Text.substitute controlRule s.toList)

end SampleTypes.Terminal
