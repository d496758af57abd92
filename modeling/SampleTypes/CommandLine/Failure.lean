/-
What can end a run before its work is done: mistakes in the command line, failures that are reported
with an exit code of their own, and errors that nothing in the program expects.
-/
import SampleTypes.CommandLine.Choice
import SampleTypes.CommandLine.Command
import SampleTypes.Document
import SampleTypes.Log
import SampleTypes.Schema
import SampleTypes.Toml.Document
import SampleTypes.Toml.Nesting
import SampleTypes.Url

namespace SampleTypes.CommandLine

/-! ## Failures -/

/-- A failure that is reported. -/
inductive Failure where
  | contraryVerbosity
  /-- Options that exclude each other. -/
  | exclusive (names : List String)
  | noSettingsFile (path : Path)
  | badSettingsFile (path : Path) (reason : Toml.Error)
  | unreadableSettingsFile (path : Path) (reason : Files.Error)
  | noDocument (path : Path)
  /-- The text of the document is not JSON. -/
  | badDocument (fromInput : Bool) (reason : Document.Error)
  | unreadableDocument (reason : Document.Error)
  /-- The file of the module holds no text. -/
  | unreadableTarget (path : Path) (reason : Files.Error)
  | unwritableTarget (path : Path) (reason : Files.Error)
  deriving DecidableEq

namespace Failure

/-- The exit code of a failure. -/
def exitCode : Failure → Nat
  | .contraryVerbosity | .exclusive _ => 64
  | .badDocument _ _ => 65
  | .noDocument _ => 66
  | .unreadableDocument _ | .unreadableTarget _ _ | .unwritableTarget _ _ => 74
  | .noSettingsFile _ | .badSettingsFile _ _ | .unreadableSettingsFile _ _ => 78

/-- The words for a failure. -/
def message : Failure → String
  | .contraryVerbosity => CommandLine.contraryVerbosity
  | .exclusive names => "Options " ++ Text.join " and " names ++ " are mutually exclusive."
  | .noSettingsFile path => "Config file not found: " ++ path.text
  | .badSettingsFile path reason =>
    "Invalid TOML in config file " ++ path.text ++ ": " ++ reason.message
  | .unreadableSettingsFile path reason =>
    "Cannot read config file " ++ path.text ++ ": " ++ reason.message
  | .noDocument path => "No such file: " ++ path.text
  | .badDocument fromInput reason => (if fromInput then "<stdin>: " else "") ++ reason.message
  | .unreadableDocument reason => reason.message
  | .unreadableTarget path reason =>
    "Cannot read existing " ++ path.text ++ " as UTF-8: " ++ reason.message
  | .unwritableTarget path reason => "Cannot write " ++ path.text ++ ": " ++ reason.message

end Failure

/-! ## Errors that are not expected -/

/-- An error that ends the program at once. -/
inductive Crash where
  | file (reason : Files.Error)
  | numberTooLong (digits : Nat)
  | address (reason : Url.Error)
  | logLevel (reason : Log.LevelError)
  | schema (reason : Schema.Error)
  /-- A text that is to be written or printed has no bytes. -/
  | unencodable (reason : Text.EncodeError)
  /-- A settings file cannot be followed to its end. -/
  | settingsFile (reason : Toml.Breakdown)
  /-- The settings cannot be written as TOML. -/
  | unwritableSettings (reason : Toml.Breakdown)
  /-- The settings cannot be put under a section. -/
  | unnestedSettings (reason : Toml.NestError)
  deriving DecidableEq

/-- The words for such an error. -/
def Crash.message : Crash → String
  | .file reason => reason.message
  | .numberTooLong digits => Text.tooManyDigits digits
  | .address reason => reason.message
  | .logLevel reason => reason.message
  | .schema reason => reason.message
  | .unencodable reason => reason.message
  | .settingsFile reason => reason.message
  | .unwritableSettings reason => reason.message
  | .unnestedSettings reason => reason.message

/-! ## Ends of a run -/

/-- What ends a run. -/
inductive Stop where
  /-- The run is done, with an exit code. -/
  | done (exitCode : Nat)
  /-- The command line of the program, or of a command, is wrong. -/
  | mistake (command : Option Command) (mistake : Mistake)
  | failed (failure : Failure)
  | crashed (crash : Crash)
  deriving DecidableEq

/-- The exit code of a run. -/
def Stop.exitCode : Stop → Nat
  | .done code => code
  | .mistake _ _ => 2
  | .failed failure => failure.exitCode
  | .crashed _ => 1

/-- What is said about the end of a run. -/
def Stop.text : Stop → String
  | .mistake command m =>
    (if m.showsUsage then usage command ++ "\n" ++ helpHint command ++ "\n\n" else "") ++
      "Error: " ++ m.message ++ "\n"
  | .failed failure => "Error: " ++ failure.message ++ "\n"
  | _ => ""

end SampleTypes.CommandLine
