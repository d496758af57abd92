/-
Options whose value is one of a few words, in any case, and what they decide: whether output is
coloured, and in which form results are printed.
-/
import SampleTypes.Text.Lines

namespace SampleTypes.CommandLine

/-! ## Choosing by a word -/

/-- The words that an option of a type can have. -/
structure Words (α : Type) where
  /-- All values in the order in which they are listed. -/
  all : List α
  word : α → String

/-- A letter in lower case. Only the letters that become letters of ASCII matter, since words are
made of those; the sign for kelvin is one of them. -/
def lowerChar (c : Char) : Char :=
  if c = '\u212A' then 'k' else c.toLower

/-- A text in lower case, as far as it matters for words. -/
def lower (s : String) : String :=
  String.ofList (s.toList.map lowerChar)

namespace Words

variable {α : Type}

/-- The value of a word. -/
def find? (w : Words α) (text : String) : Option α :=
  w.all.find? (fun a => w.word a == lower text)

/-- The words in their order. -/
def list (w : Words α) : List String :=
  w.all.map w.word

/-- The words that a text may be the start of. -/
def completions (w : Words α) (start : String) : List String :=
  w.list.filter (fun word => (lower start).toList.isPrefixOf word.toList)

/-- Says that a text is no word. -/
def refusal (w : Words α) (text : String) : String :=
  "Invalid value '" ++ text ++ "'. Must be one of: " ++ Text.join ", " w.list

end Words

/-! ## Forms of output -/

/-- A form of output. -/
inductive Format where
  | default
  | json
  | markdown
  deriving DecidableEq, Repr

namespace Format

/-- The words for forms of output. -/
def words : Words Format where
  all := [.default, .json, .markdown]
  word
    | .default => "default"
    | .json => "json"
    | .markdown => "markdown"

/-- The form is for programs to read. -/
def isMachine (f : Format) : Bool :=
  f == .json

end Format

/-! ## Colour -/

/-- When output is coloured. -/
inductive ColourMode where
  | auto
  | always
  | never
  deriving DecidableEq, Repr

/-- The words for modes of colour. -/
def ColourMode.words : Words ColourMode where
  all := [.auto, .always, .never]
  word
    | .auto => "auto"
    | .always => "always"
    | .never => "never"

/-- What the surroundings of a run say about it. -/
structure Environment where
  forceColour : Option String := none
  noColour : Option String := none
  logLevel : Option String := none
  isTerminal : Bool := false

/-- Output in a form for programs is never coloured. Else the mode decides, and if it leaves that
open, the environment, and last whether output goes to a terminal. -/
def isColoured (e : Environment) (mode : Option ColourMode) (format : Option String) : Bool :=
  if format.any (fun f => lower f == Format.words.word .json) then false
  else
    match mode with
    | some .always => true
    | some .never => false
    | some .auto | none =>
      if e.forceColour.any (fun s => s != "" && s != "0") then true
      else if e.noColour.isSome then false
      else e.isTerminal

/-! ## Verbosity -/

/-- The level of verbosity of counted flags; there is none for contrary ones. -/
def verbosity? (verbose quiet : Nat) : Option Int :=
  if 0 < verbose ∧ 0 < quiet then none else some (verbose - quiet)

/-- The words about contrary flags. -/
def contraryVerbosity : String :=
  "The '--verbose' and '--quiet' options are mutually exclusive."

/-- The level that settings give, and else that of the flags. -/
def effectiveVerbosity (flags : Int) (settings : Option Int) : Int :=
  settings.getD flags

end SampleTypes.CommandLine
