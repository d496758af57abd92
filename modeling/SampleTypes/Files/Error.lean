/-
Why something cannot be done with a file. An error names the path as it was given, and the second
path where there are two.
-/
import SampleTypes.Path
import SampleTypes.Text.Quoted
import SampleTypes.Text.Utf8

namespace SampleTypes.Files

/-- Why the system refuses to do something with a path. -/
inductive Cause where
  | missing
  | busy
  | exists
  | notDirectory
  | isDirectory
  | nameTooLong
  /-- Any other refusal, by its number and its words. -/
  | other (number : Nat) (words : String)
  deriving DecidableEq, Repr

namespace Cause

/-- The number of a cause. -/
def number : Cause → Nat
  | .missing => 2
  | .busy => 16
  | .exists => 17
  | .notDirectory => 20
  | .isDirectory => 21
  | .nameTooLong => 36
  | .other number _ => number

/-- The words for a cause. -/
def words : Cause → String
  | .missing => "No such file or directory"
  | .busy => "Device or resource busy"
  | .exists => "File exists"
  | .notDirectory => "Not a directory"
  | .isDirectory => "Is a directory"
  | .nameTooLong => "File name too long"
  | .other _ words => words

end Cause

/-- Why a file cannot be used. -/
inductive Error where
  /-- The system refuses; a second path is the one that `path` was to become. -/
  | refused (cause : Cause) (path : Path) (target : Option Path)
  /-- A path holds the null character. -/
  | nullCharacter
  /-- The bytes of the file are no text. -/
  | undecodable (reason : Text.Utf8.DecodeError)
  deriving DecidableEq, Repr

namespace Error

/-- The words for an error. -/
def message : Error → String
  | .refused cause path target =>
    "[Errno " ++ toString cause.number ++ "] " ++ cause.words ++ ": " ++ Text.quoted path.text ++
      (match target with
      | none => ""
      | some target => " -> " ++ Text.quoted target.text)
  | .nullCharacter => "embedded null byte"
  | .undecodable reason => reason.message

end Error

end SampleTypes.Files
