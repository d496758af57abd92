/-
What can go wrong with TOML text. A fault is something that the text must not hold; it is reported
with its place. A breakdown is a text that no rule speaks of, such as a key with points that leads
through a number: it has no place, and work on tables ends with it.
-/
import SampleTypes.Text.Digit
import SampleTypes.Text.Quoted

namespace SampleTypes.Toml

/-! ## Faults -/

/-- What is wrong with a text. -/
inductive Fault where
  /-- The line, or the text, ends before an equals sign. -/
  | keyWithoutValue (atTextEnd : Bool)
  | keyCharacter (c : Char)
  /-- A line starts with an equals sign. -/
  | emptyKey
  | unbalancedQuotes
  | unterminatedString
  /-- A line holds an opening bracket only. -/
  | loneBracket
  /-- A table header is not closed, or something follows it on its line. -/
  | headerNotAlone
  /-- A name in a header starts with a quote and does not end with it. -/
  | unclosedName (name : String)
  | bareName (name : String)
  | emptyName
  /-- A table that was made on the way to another one is opened as an array. -/
  | implicitArray
  /-- A table is opened again; the table around it is shown. -/
  | tableExists (name shown : String)
  | brokenInlineTable
  | inlineEntry
  | inlineValue
  | duplicateKey
  /-- What follows the equals sign is no value and no number. -/
  | looseValue
  | emptyValue
  | capitalBoolean
  | afterString
  | reservedEscape
  | badCode (digits : String)
  | surrogateCode (digits : String)
  | codeTooLarge
  /-- A number has underscores in odd places, or a zero in front. -/
  | irregularNumber
  | noPlaces
  | noLeadingDigit
  | notFloat (text : String)
  | notInteger (text : String)
  | integerTooLong (digits : Nat)
  /-- A part of a time is greater than it can be. -/
  | outOfRange (part : String) (greatest : Nat)
  | mixedArray
  deriving DecidableEq, Repr

/-- The words for a fault. -/
def Fault.message : Fault → String
  | .keyWithoutValue atTextEnd =>
    "Key name found without value. Reached end of " ++ (if atTextEnd then "file." else "line.")
  | .keyCharacter c =>
    "Found invalid character in key name: '" ++ String.singleton c ++ "'. Try quoting the key name."
  | .emptyKey => "Found empty keyname. "
  | .unbalancedQuotes => "Unbalanced quotes"
  | .unterminatedString => "Unterminated string found. Reached end of file."
  | .loneBracket => "Opening key group bracket on line by itself."
  | .headerNotAlone => "Key group not on a line by itself."
  | .unclosedName name => "Invalid group name '" ++ name ++ "' Something went wrong."
  | .bareName name => "Invalid group name '" ++ name ++ "'. Try quoting it."
  | .emptyName => "Can't have a keygroup with an empty name"
  | .implicitArray => "An implicitly defined table can't be an array"
  | .tableExists name shown => "What? " ++ name ++ " already exists?" ++ shown
  | .brokenInlineTable => "Line breaks are not allowed in inlineobjects"
  | .inlineEntry => "Invalid inline table encountered"
  | .inlineValue => "Invalid inline table value encountered"
  | .duplicateKey => "Duplicate keys!"
  | .looseValue => "Invalid date or number"
  | .emptyValue => "Empty value is invalid"
  | .capitalBoolean => "Only all lowercase booleans allowed"
  | .afterString => "Found tokens after a closed string. Invalid TOML."
  | .reservedEscape => "Reserved escape sequence used"
  | .badCode digits => "Invalid escape sequence: " ++ digits
  | .surrogateCode digits =>
    "Invalid escape sequence: " ++ digits ++ ". Only scalar unicode points are allowed."
  | .codeTooLarge => "chr() arg not in range(0x110000)"
  | .irregularNumber => "Weirdness with leading zeroes or underscores in your number."
  | .noPlaces => "This float is missing digits after the point"
  | .noLeadingDigit => "This float doesn't have a leading digit"
  | .notFloat text => "could not convert string to float: " ++ Text.quoted text
  | .notInteger text =>
    "invalid literal for int() with base 0: " ++ String.ofList ((Text.quoted text).toList.take 200)
  | .integerTooLong digits => Text.tooManyDigits digits
  | .outOfRange part greatest => part ++ " must be in 0.." ++ toString greatest
  | .mixedArray => "Not a homogeneous array"

/-! ## Breakdowns -/

/-- Why work on a table ends without a result and without a fault. The kinds are those of the values
that stand where a table, an array or a text would have to be. -/
inductive Breakdown where
  /-- A character, piece or element is looked for behind the last one. -/
  | pastEnd
  | notIndexed (kind : String)
  /-- A member is looked for in a value that has none. -/
  | noMembers (kind : String)
  /-- Something is put into a value that cannot hold it. -/
  | notAssignable (kind : String)
  | notExtensible (kind : String)
  | notIterable (kind : String)
  /-- A key is looked up in a text. -/
  | keyOfText
  /-- A key is looked up in an array. -/
  | keyOfArray
  /-- A string over several lines stands behind the empty key. -/
  | unassigned
  /-- The code of a character has more bits than codes are read with. -/
  | hugeCode
  /-- The places of a second write a number that is above all finite floating-point numbers. -/
  | hugePlaces
  /-- A zone that is a day or more away is written. -/
  | farZone
  deriving DecidableEq, Repr

/-- The words for a breakdown. -/
def Breakdown.message : Breakdown → String
  | .pastEnd => "index out of range"
  | .notIndexed kind => "'" ++ kind ++ "' object is not subscriptable"
  | .noMembers kind => "argument of type '" ++ kind ++ "' is not iterable"
  | .notAssignable kind => "'" ++ kind ++ "' object does not support item assignment"
  | .notExtensible kind => "'" ++ kind ++ "' object has no attribute 'append'"
  | .notIterable kind => "'" ++ kind ++ "' object is not iterable"
  | .keyOfText => "string indices must be integers, not 'str'"
  | .keyOfArray => "list indices must be integers or slices, not str"
  | .unassigned =>
    "cannot access local variable 'value' where it is not associated with a value"
  | .hugeCode => "Python int too large to convert to C int"
  | .hugePlaces => "int too large to convert to float"
  | .farZone =>
    "offset must be a timedelta strictly between -timedelta(hours=24) and timedelta(hours=24)."

/-! ## Failing reads -/

/-- Why a piece of text is not read. -/
inductive Failure where
  | fault (f : Fault)
  | breakdown (b : Breakdown)
  deriving DecidableEq, Repr

/-- The outcome of reading a piece of text. -/
abbrev ReadM := Except Failure

/-- Fails with a fault. -/
def faulty {α : Type} (f : Fault) : ReadM α :=
  .error (.fault f)

/-- Fails with a breakdown. -/
def broken {α : Type} (b : Breakdown) : ReadM α :=
  .error (.breakdown b)

end SampleTypes.Toml
