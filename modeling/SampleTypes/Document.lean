/-
Sample documents: JSON given as a text or in a file.
-/
import SampleTypes.Files.Disk
import SampleTypes.Json.Parser

namespace SampleTypes.Document

/-- Why there is no document. -/
inductive Error where
  /-- The file cannot be read. -/
  | unreadable (path : Path) (reason : Files.Error)
  /-- The text is not JSON; `origin` says where it comes from. -/
  | invalid (origin : String) (fault : Json.Fault) (position : Text.Position)
  /-- The text holds a whole number with more digits than are read. -/
  | numberTooLong (digits : Nat)
  deriving DecidableEq, Repr

/-- The words for an error. -/
def Error.message : Error → String
  | .unreadable path reason => "Cannot read " ++ path.text ++ ": " ++ reason.message
  | .invalid origin fault position =>
    origin ++ ": invalid JSON at line " ++ toString position.line ++ ", column " ++
      toString position.column ++ ": " ++ fault.message
  | .numberTooLong digits => Text.tooManyDigits digits

/-- The document that a text writes. -/
def parse (halves : Text.Halves) (origin text : String) : Except Error Value :=
  (Json.parse halves text).mapError (fun e =>
    match e with
    | .invalid fault position => .invalid origin fault position
    | .numberTooLong digits => .numberTooLong digits)

/-- The document of a text that is given as it is. -/
def ofText (halves : Text.Halves) (text : String) : Except Error Value :=
  parse halves "<text>" text

/-- The document of a file. -/
def ofFile (d : Files.Disk) (p : Path) : Except Error Value :=
  match d.readText p with
  | .error reason => .error (.unreadable p reason)
  | .ok text => parse d.halves p.text text

end SampleTypes.Document
