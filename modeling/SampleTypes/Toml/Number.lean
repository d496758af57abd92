/-
TOML numbers: whole numbers in four bases, and floating-point numbers. A number may have a sign, and
underscores between its digits.

Signs, spacing and digits follow the rules of the two readers `float?` and `integer`, which are
wider than those of TOML; `isRegular` narrows them.
-/
import SampleTypes.Text.Blank
import SampleTypes.Text.Pieces
import SampleTypes.Text.Reading
import SampleTypes.Toml.Fault
import SampleTypes.Toml.Value

namespace SampleTypes.Toml

open Text (isDecimal natOf hexValue? takeDecimals)

/-! ## Digits -/

/-- White space below the range of Unicode. -/
def isPlainSpace (c : Char) : Bool :=
  c == ' ' || ('\t' ≤ c && c ≤ '\r')

/-- The decimal digits of all scripts as those of ASCII, and all white space beyond ASCII as spaces. -/
def plainChar (c : Char) : Char :=
  if c.toNat < 127 then c
  else if Text.isBlank c then ' '
  else
    match Text.decimalValue? c with
    | some n => Char.ofNat ('0'.toNat + n)
    | none => c

/-- The characters of a number without the spacing at its ends. -/
def plainText (s : List Char) : List Char :=
  Text.dropEndWhile isPlainSpace ((s.map plainChar).dropWhile isPlainSpace)

/-- The sign in front of a number, true for minus, and the rest. -/
def takeSign : List Char → Bool × List Char
  | '+' :: rest => (false, rest)
  | '-' :: rest => (true, rest)
  | rest => (false, rest)

/-- Every underscore stands between two digits. -/
def underscoresInside : List Char → Bool
  | [] => true
  | ['_'] => false
  | '_' :: _ :: _ => false
  | c :: '_' :: d :: rest => isDecimal c && isDecimal d && underscoresInside (d :: rest)
  | [_, '_'] => false
  | _ :: rest => underscoresInside rest

/-! ## Floating-point numbers -/

/-- The exponent of a floating-point number, after the `e`. -/
def exponent? (s : List Char) : Option Int :=
  let (negative, digits) := takeSign s
  if !digits.isEmpty && digits.all isDecimal then
    some (if negative then -(natOf digits : Int) else natOf digits)
  else none

/-- A floating-point number without its sign, in digits with a point and an exponent. -/
def decimal? (negative : Bool) (s : List Char) : Option Binary64 :=
  let (whole, rest) := takeDecimals s
  let (places, power) :=
    match rest with
    | '.' :: rest => takeDecimals rest
    | rest => ([], rest)
  let number (e : Int) : Binary64 :=
    .ofDecimal negative (natOf (whole ++ places)) (e - places.length)
  if whole.isEmpty && places.isEmpty then none
  else
    match power with
    | [] => some (number 0)
    | c :: power => if c == 'e' || c == 'E' then (exponent? power).map number else none

/-- The floating-point number that a text writes. -/
def float? (text : List Char) : Option Binary64 :=
  let s := plainText text
  if underscoresInside s then
    let (negative, rest) := takeSign (s.filter (· != '_'))
    let word := String.ofList (rest.map Char.toLower)
    if word = "inf" ∨ word = "infinity" then some (.infinity negative)
    else if word = "nan" then some .nan
    else decimal? negative rest
  else none

/-- Zero less a number; from a zero nothing is left, not even a sign. -/
def negated : Binary64 → Binary64
  | .nan => .nan
  | .infinity negative => .infinity (!negative)
  | .finite negative m => .finite (!negative && m.significand != 0) m

/-! ## Whole numbers -/

/-- The number that digits write in a base, if there are any and all are below the base. -/
def inBase? (base : Nat) (digits : List Char) : Option Nat :=
  if digits.isEmpty then none
  else digits.foldlM (fun n c => ((hexValue? c).filter (· < base)).map (n * base + ·)) 0

/-- A whole number in base ten; with a zero in front it has to be zero. -/
def inTen (text digits : List Char) : Except Fault Nat :=
  let count := (takeDecimals digits).1.length
  if Text.maxDigits < count then .error (.integerTooLong count)
  else
    match inBase? 10 digits with
    | some n =>
      if digits.head? = some '0' ∧ n ≠ 0 then .error (.notInteger (String.ofList text)) else .ok n
    | none => .error (.notInteger (String.ofList text))

/-- A whole number without its sign, in the base that its first characters say. -/
def magnitude (text digits : List Char) : Except Fault Nat :=
  let based (base : Nat) (digits : List Char) : Except Fault Nat :=
    match inBase? base digits with
    | some n => .ok n
    | none => .error (.notInteger (String.ofList text))
  match digits with
  | '0' :: c :: rest =>
    if c == 'x' || c == 'X' then based 16 rest
    else if c == 'o' || c == 'O' then based 8 rest
    else if c == 'b' || c == 'B' then based 2 rest
    else inTen text digits
  | digits => inTen text digits

/-- The whole number that a text without underscores writes. -/
def integer (text : List Char) : Except Fault Int :=
  let (negative, digits) := takeSign (plainText text)
  (magnitude text digits).map (fun n => if negative then -(n : Int) else n)

/-! ## Numbers -/

/-- No underscore stands at an end, beside another one or beside a point, and a zero in front is
followed by a point or the letter of a base. -/
def isRegular (text : List Char) : Bool :=
  let leads (marks : List Char) : List Char → Bool
    | '0' :: c :: _ => c ∈ marks
    | _ => true
  match Text.trimmed text with
  | [] => false
  | [c] => c != '_'
  | s =>
    s.head? != some '_' && s.getLast? != some '_' && !Text.hasWord ['_', '.'] s &&
      !Text.hasWord ['.', '_'] s && !Text.hasWord ['_', '_'] s &&
      leads ['.', 'o', 'b', 'x'] s &&
      (if s.head? = some '+' ∨ s.head? = some '-' then leads ['.'] (s.drop 1) else true)

/-- A text is read as a floating-point number: it has a point, or an exponent. -/
def hasFloatMark (s : List Char) : Bool :=
  '.' ∈ s || (!('x' ∈ s) && ('e' ∈ s || 'E' ∈ s))

/-- A floating-point number without its sign, which is not for all that `float?` reads. -/
def floatNumber (s : List Char) : Except Fault Binary64 :=
  if (s.dropWhile (· != '.')).length = 1 then .error .noPlaces
  else if !(s.head?.any isDecimal) then .error .noLeadingDigit
  else
    match float? s with
    | some x => .ok x
    | none => .error (.notFloat (String.ofList s))

/-- The word for an infinity or for what is no number. -/
def isFloatWord (s : List Char) : Bool :=
  let word := String.ofList (s.map Char.toLower)
  word = "inf" || word = "nan"

/-- The number that a text writes. -/
def number (text : List Char) : Except Fault Value :=
  let (negative, rest) := takeSign text
  let s := rest.filter (· != '_')
  let withSign (x : Binary64) : Value := .float (if negative then negated x else x)
  if hasFloatMark s then (floatNumber s).map withSign
  else if isFloatWord s then .ok (withSign ((float? s).getD .nan))
  else (integer s).map (fun n => .int (if negative then -n else n))

end SampleTypes.Toml
