/-
TOML strings, in one or three quotes of either kind. A text that starts with a quote is read as a
string as a whole: quotes that close it early are a fault, unless a backslash stands in front.

Between double quotes a backslash starts an escape. The escapes for codes are replaced first, those
of four digits before those of eight; then the others are, in one pass from the left.
-/
import SampleTypes.Text.Half
import SampleTypes.Text.Lines
import SampleTypes.Text.Pieces
import SampleTypes.Text.Reading
import SampleTypes.Toml.Fault

namespace SampleTypes.Toml

open Text (Halves hexValue?)

/-! ## Backslashes -/

/-- An odd number of backslashes stands in front; of characters in reverse, at the end. -/
def startsEscape (reversed : List Char) : Bool :=
  (reversed.takeWhile (· == '\\')).length % 2 == 1

/-- The last character is a backslash that is not escaped itself. -/
def endsInEscape (s : List Char) : Bool :=
  startsEscape s.reverse

/-! ## The end of a string -/

/--
Follows the pieces between the quotes: `run` counts the quotes in a row, and `isClosed` says that
enough of them were found. No piece may follow a closed string.
-/
def checkPieces (isLong : Bool) : (run : Nat) → (isClosed : Bool) → List (List Char) → Bool
  | _, _, [] => true
  | run, isClosed, [] :: rest =>
    if isLong then checkPieces isLong (run + 1) isClosed rest
    else checkPieces isLong run true rest
  | run, isClosed, piece :: rest =>
    if endsInEscape piece then checkPieces isLong run isClosed rest
    else if isClosed then false
    else if !isLong || 1 < run then checkPieces isLong run true rest
    else checkPieces isLong 0 false rest

/-- Nothing follows the quote that closes a string. -/
def closesAtEnd (quote : Char) (s : List Char) : Bool :=
  match Text.splitChars quote (s.drop 1) with
  | [] :: [] :: rest => checkPieces true 0 false rest
  | pieces => checkPieces false 0 false pieces

/-! ## Escapes -/

/-- The character of a one-letter escape. -/
def escapeChar? : Char → Option Char
  | '0' => some '\x00'
  | 'b' => some '\x08'
  | 'f' => some '\x0c'
  | 'n' => some '\n'
  | 'r' => some '\r'
  | 't' => some '\t'
  | '"' => some '"'
  | _ => none

/-- The letters that announce the code of a character. -/
def announcesCode (c : Char) : Bool :=
  c == 'u' || c == 'U'

/--
Every backslash starts an escape, of the pieces that follow backslashes. After an empty piece, which
is an escaped backslash, any character may follow.
-/
def knowsEscapes : (isEscaped : Bool) → List (List Char) → Bool
  | _, [] => true
  | isEscaped, [] :: rest => knowsEscapes (!isEscaped) rest
  | isEscaped, (c :: _) :: rest =>
    ((escapeChar? c).isSome || announcesCode c || isEscaped) && knowsEscapes false rest

/-- A code above all those of characters. -/
def codeLimit : Nat := 0x110000

/-- A number of more bits than a code is read with. -/
def hugeLimit : Nat := 0x80000000

section

variable (halves : Halves)

/-- The character of a code, which can be that of half of a surrogate pair. -/
def charOfCode (code : Nat) : ReadM Char :=
  if hugeLimit ≤ code then broken .hugeCode
  else if codeLimit ≤ code then faulty .codeTooLarge
  else .ok (halves.charOfCode code)

/-- A surrogate, told by its first two digits. -/
def isSurrogate (first second : Char) : Bool :=
  first == 'd' && !('0' ≤ second && second ≤ '7')

/-- The character of the digits that a code is written with, of which there may be too few. -/
def codeChar (digits : List Char) : ReadM Char :=
  let digits := digits.map Char.toLower
  if digits.any (fun c => (hexValue? c).isNone) then faulty (.badCode (String.ofList digits))
  else
    match digits with
    | [] => broken .pastEnd
    | ['d'] => broken .pastEnd
    | first :: rest =>
      if rest.head?.any (isSurrogate first) then faulty (.surrogateCode (String.ofList digits))
      else charOfCode halves (digits.foldl (fun n c => n * 16 + (hexValue? c).getD 0) 0)

/--
Puts the pieces between codes together again, each with the character of the code in front of it.
A code behind an odd number of backslashes is none: it stays as it is written.
-/
def joinCodes (mark : List Char) (count : Nat) : (done : List Char) → (isEscaped : Bool) →
    List (List Char) → ReadM (List Char)
  | done, _, [] => .ok done
  | done, true, piece :: rest =>
    joinCodes mark count (done ++ mark ++ piece) (endsInEscape piece) rest
  | done, false, piece :: rest => do
    let c ← codeChar halves (piece.take count)
    joinCodes mark count (done ++ c :: piece.drop count) false rest

/-- Replaces the codes of so many digits behind a letter. -/
def replaceCodes (letter : Char) (count : Nat) (s : List Char) : ReadM (List Char) :=
  let mark := ['\\', letter]
  match Text.pieces mark s with
  | [] => .ok s
  | first :: rest => joinCodes halves mark count first (endsInEscape first) rest

end

/-- Replaces the one-letter escapes; codes are passed over. -/
def replaceEscapes : List Char → Except Fault (List Char)
  | '\\' :: c :: rest =>
    match escapeChar? c with
    | some d => (replaceEscapes rest).map (d :: ·)
    | none =>
      if c == '\\' then (replaceEscapes rest).map ('\\' :: ·)
      else if announcesCode c then (replaceEscapes rest).map (fun s => '\\' :: c :: s)
      else .error .reservedEscape
  | c :: rest => (replaceEscapes rest).map (c :: ·)
  | [] => .ok []

/-- Replaces all escapes. -/
def unescape (halves : Halves) (s : List Char) : ReadM (List Char) := do
  if !knowsEscapes false ((Text.splitChars '\\' s).drop 1) then faulty .reservedEscape
  let s ← replaceCodes halves 'u' 4 s
  let s ← replaceCodes halves 'U' 8 s
  (replaceEscapes s).mapError .fault

/-! ## Strings -/

/-- The characters without so many at either end. -/
def inner (count : Nat) (s : List Char) : List Char :=
  (s.drop count).take (s.length - 2 * count)

/-- The characters without their quotes, which are three if the second is one and the third is. -/
def withoutQuotes (quote : Char) (s : List Char) : List Char :=
  match s.drop 1 with
  | [c] => if c = quote then inner 3 s else inner 1 s
  | c :: d :: _ => if c = quote ∧ c = d then inner 3 s else inner 1 s
  | [] => inner 1 s

/-- The string that a text writes which starts with a quote. -/
def stringValue (halves : Halves) (quote : Char) (s : List Char) : ReadM String := do
  if !closesAtEnd quote s then faulty .afterString
  let s ← if quote = '"' then unescape halves s else pure s
  return String.ofList (withoutQuotes quote s)

end SampleTypes.Toml
