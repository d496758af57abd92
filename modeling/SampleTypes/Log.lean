/-
The log of a run: records with a numeric level, of which those below the level of the log are not
shown. The level of the log is named in the environment.
-/
import SampleTypes.Terminal.Style
import SampleTypes.Text.Blank
import SampleTypes.Text.Digit
import SampleTypes.Text.Quoted
import SampleTypes.Text.Uppercase

namespace SampleTypes.Log

/-! ## Levels -/

/-- The levels that have names; of two names for one level, the first is written. -/
def levelNames : List (String × Nat) :=
  [("TRACE", 5), ("DEBUG", 10), ("INFO", 20), ("WARNING", 30), ("WARN", 30), ("ERROR", 40),
    ("CRITICAL", 50), ("FATAL", 50), ("NOTSET", 0)]

/-- The name of a level. -/
def levelName (level : Int) : String :=
  match levelNames.find? (fun p => Int.ofNat p.2 == level) with
  | some (name, _) => name
  | none => "Level " ++ toString level

/-- The looks of a record of a level. -/
def looks (level : Int) : List Terminal.Look :=
  if 50 ≤ level then [.brightRed]
  else if 40 ≤ level then [.red]
  else if 30 ≤ level then [.yellow]
  else if 20 ≤ level then [.green]
  else if 10 ≤ level then [.gray]
  else if 5 ≤ level then [.blue]
  else [.dim, .red]

/-- A text of digits that is not read as a number. -/
inductive LevelError where
  /-- A digit of the text, such as a superscript, is not decimal. -/
  | notDecimal (text : String)
  /-- There are too many digits. -/
  | tooLong (digits : Nat)
  deriving DecidableEq, Repr

/-- The words for an unreadable level. -/
def LevelError.message : LevelError → String
  | notDecimal text =>
    let shown := (Text.quoted text).toList.take 200
    "invalid literal for int() with base 10: " ++ String.ofList shown
  | tooLong digits => Text.tooManyDigits digits

/-- The number of decimal digits that a text starts with. -/
def decimalLead (s : String) : Nat :=
  (s.toList.takeWhile (fun c => (Text.decimalValue? c).isSome)).length

/-- Reads a level: a name in any case, or a number; blanks around it do not count. An unknown name
is no level. -/
def level? (text : String) : Except LevelError (Option Nat) :=
  let word := Text.upper (Text.trim text)
  if word != "" && word.toList.all Text.isDigit then
    if Text.maxDigits < decimalLead word then .error (.tooLong (decimalLead word))
    else
      match Text.decimalNumber? word with
      | some n => .ok (some n)
      | none => .error (.notDecimal word)
  else .ok ((levelNames.find? (fun p => p.1 == word)).map Prod.snd)

/-- The level of a log when none is set. -/
def usualLevel : Nat := 50

/-! ## Records -/

/-- A record. -/
structure Record where
  level : Int
  message : String
  deriving DecidableEq, Repr

/-- A record of progress. -/
def Record.info (message : String) : Record := ⟨20, message⟩

/-- A record of something unusual. -/
def Record.warning (message : String) : Record := ⟨30, message⟩

/-- A record of a failure. -/
def Record.error (message : String) : Record := ⟨40, message⟩

/-- A record as it is shown, without a line break at its end. -/
def Record.text (r : Record) : String :=
  Terminal.paint (looks r.level) ("[" ++ levelName r.level ++ "] " ++ r.message)

/-- A record is shown by a log of a level. -/
def Record.isShown (level : Nat) (r : Record) : Bool :=
  Int.ofNat level ≤ r.level

end SampleTypes.Log
