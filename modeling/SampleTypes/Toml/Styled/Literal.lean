/-
Reading strings, and telling numbers from other text. A reader takes what is still to be read and
returns what is left; values keep their spelling, so that a string is decoded only for the name that
a key writes.

Nothing can be read on after most faults. At an unexpected character what is left is kept, since an
array may still end there.
-/
import SampleTypes.Text.Blank
import SampleTypes.Text.Lines
import SampleTypes.Toml.Key
import SampleTypes.Toml.Number
import SampleTypes.Toml.Styled.Placing

namespace SampleTypes.Toml.Styled

open Text (hexValue?)

/-! ## Faults -/

/-- Why reading ends. -/
inductive Stop where
  /-- A character, or the end of the text, stands where it must not. -/
  | unexpected (rest : List Char)
  /-- Some text is malformed. -/
  | malformed
  | clash (c : Clash)
  deriving DecidableEq, Repr

/-- The outcome of reading: what was read and what is left, or why reading ends. -/
abbrev Reads := Except Stop

/-- What was read when `rest` is left of a text. -/
def spelled (text rest : List Char) : List Char :=
  text.take (text.length - rest.length)

/-! ## Characters -/

/-- Spacing within a line. -/
def isGap (c : Char) : Bool :=
  c == ' ' || c == '\t'

/-- Spacing within and between lines. -/
def isSpacing (c : Char) : Bool :=
  isGap c || c == '\r' || c == '\n'

/-- A control character other than a tab. -/
def isControl (c : Char) : Bool :=
  c.toNat = 127 || (c.toNat < 32 && c != '\t')

/-! ## Escapes -/

/-- The character of a one-letter escape. -/
def letterEscape? : Char → Option Char
  | 'b' => some '\x08'
  | 'e' => some '\x1b'
  | 't' => some '\t'
  | 'n' => some '\n'
  | 'f' => some '\x0c'
  | 'r' => some '\r'
  | '"' => some '"'
  | '\\' => some '\\'
  | _ => none

/-- Digits without the underscores that stand one by one between them. -/
def joinedDigits? (digits : List Char) : Option (List Char) :=
  let groups := Text.splitChars '_' digits
  if groups.any List.isEmpty then none else some groups.flatten

/-- The number that hexadecimal digits write. They may have spacing around them, a sign, and the
letter of their base behind a zero. -/
def hexNumber? (text : List Char) : Option Int := do
  let (negative, digits) := takeSign (plainText text)
  let digits :=
    match digits with
    | '0' :: c :: rest =>
      if c == 'x' || c == 'X' then (if rest.head? = some '_' then rest.drop 1 else rest) else digits
    | _ => digits
  let n ← inBase? 16 (← joinedDigits? digits)
  return if negative then -n else n

/-- The code is that of a surrogate, told by its first two digits. -/
def startsSurrogate : List Char → Bool
  | first :: second :: _ => (first == 'd' || first == 'D') && !('0' ≤ second && second ≤ '7')
  | _ => false

/-- The greatest code of a character. -/
def lastCode : Int := 0x10ffff

/-- Reads so many digits of the code of a character; two of them write no surrogate. -/
def readCode (count : Nat) (s : List Char) : Reads (List Char × List Char) :=
  let digits := s.take count
  if digits.length < count || 2 < count && startsSurrogate digits then .error .malformed
  else
    match hexNumber? digits with
    | some code =>
      if 0 ≤ code ∧ code ≤ lastCode then .ok ([Char.ofNat code.toNat], s.drop count)
      else .error .malformed
    | none => .error .malformed

/-- Reads what follows a backslash. In a string of several lines spacing with a line break in it is
passed over. -/
def readEscape (isLong : Bool) : List Char → Reads (List Char × List Char)
  | [] => .error .malformed
  | c :: rest =>
    if isLong && isSpacing c then
      if '\n' ∈ (c :: rest).takeWhile isSpacing then .ok ([], rest.dropWhile isSpacing)
      else .error .malformed
    else
      match letterEscape? c with
      | some d => .ok ([d], rest)
      | none =>
        if c == 'x' then readCode 2 rest
        else if c == 'u' then readCode 4 rest
        else if c == 'U' then readCode 8 rest
        else .error .malformed

/-! ## Strings -/

/-- A string that was read. -/
structure StringRead where
  content : List Char
  /-- It stands between three quotes at either end. -/
  isLong : Bool

/-- Puts characters in front of what was read. -/
def behind (cs : List Char) : Reads (List Char × List Char) → Reads (List Char × List Char)
  | .ok (more, rest) => .ok (cs ++ more, rest)
  | .error e => .error e

/-- Reads a string up to and with the quotes that close it. Up to two quotes may stand in front of
three that close it. -/
def readContent (quote : Char) (isLong : Bool) : (fuel : Nat) → List Char →
    Reads (List Char × List Char)
  | 0, _ | _, [] => .error .malformed
  | fuel + 1, c :: rest =>
    if c == quote then
      if isLong then
        let quotes := c :: rest.takeWhile (· == quote)
        let rest := rest.dropWhile (· == quote)
        if quotes.length < 3 then behind quotes (readContent quote isLong fuel rest)
        else if quotes.length < 6 then .ok (quotes.drop 3, rest)
        else .error .malformed
      else .ok ([], rest)
    else if c == '\\' && quote == '"' then
      match readEscape isLong rest with
      | .ok (cs, rest) => behind cs (readContent quote isLong fuel rest)
      | .error e => .error e
    else if isControl c && !(isLong && (c == '\n' || c == '\r')) then .error .malformed
    else behind [c] (readContent quote isLong fuel rest)

/-- Passes over a line break. -/
def afterBreak : List Char → List Char
  | '\n' :: rest => rest
  | '\r' :: '\n' :: rest => rest
  | rest => rest

/-- Reads a string, of which `s` follows the first quote. -/
def readString (quote : Char) (s : List Char) : Reads (StringRead × List Char) :=
  let read (isLong : Bool) (s : List Char) : Reads (StringRead × List Char) :=
    (readContent quote isLong s.length s).map (fun (content, rest) => (⟨content, isLong⟩, rest))
  match s with
  | [] => .error .malformed
  | c :: rest =>
    if c == quote then
      match rest with
      | [] => .ok (⟨[], false⟩, [])
      | d :: after => if d == quote then read true (afterBreak after) else .ok (⟨[], false⟩, rest)
    else read false s

/-! ## Numbers -/

/-- Leaves out each underscore that stands between two digits; `before` is the character in front. -/
def withoutInnerUnderscores (isDigit : Char → Bool) : (before : Option Char) → List Char → List Char
  | before, '_' :: c :: rest =>
    if before.any isDigit && isDigit c then
      withoutInnerUnderscores isDigit (some '_') (c :: rest)
    else '_' :: withoutInnerUnderscores isDigit (some '_') (c :: rest)
  | _, c :: rest => c :: withoutInnerUnderscores isDigit (some c) rest
  | _, [] => []

/-- The base that a zero and a letter in front of a number announce. -/
def announcedBase? : List Char → Option Nat
  | '0' :: 'b' :: _ => some 2
  | '0' :: 'o' :: _ => some 8
  | '0' :: 'x' :: _ => some 16
  | _ => none

/-- A digit below a base. -/
def isDigitIn (base : Nat) (c : Char) : Bool :=
  (hexValue? c).any (· < base)

/-- A zero that starts a longer number is followed by a point, an exponent or the letter of a base;
there is no sign in front of a base or a point. -/
def startsWell (signed : Bool) (s : List Char) : Bool :=
  match s with
  | '0' :: c :: _ =>
    c == '.' || c == 'e' || ((c == 'o' || c == 'x' || c == 'b') && !signed)
  | '.' :: _ :: _ => !signed
  | _ => true

/-- No digits are left out behind a point. -/
def endsWell (isBased : Bool) (s : List Char) : Bool :=
  s.getLast? != some '.' && (isBased || (s.takeWhile (· != 'e')).getLast? != some '.')

/-- A text is a number, in one of the bases or with a fraction and exponent. -/
def isNumber (text : List Char) : Bool :=
  let signed := text.head?.any (fun c => c == '+' || c == '-')
  let digits := if signed then text.drop 1 else text
  let base := announcedBase? digits
  let clean := (withoutInnerUnderscores (isDigitIn (base.getD 10)) none digits).map Char.toLower
  startsWell signed digits && !('_' ∈ clean) && endsWell (base == some 16) clean &&
    match base with
    | some base => (inBase? base ((plainText clean).drop 2)).isSome
    | none => (float? (text.take (text.length - digits.length) ++ clean)).isSome

end SampleTypes.Toml.Styled
