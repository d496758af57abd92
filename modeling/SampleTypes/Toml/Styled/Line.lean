/-
Reading lines: keys and values with their spelling, blank lines and comments. An array keeps its
spelling, comments included; in an inline table the comma moves up to the value in front of it.
-/
import SampleTypes.Toml.Styled.Date
import SampleTypes.Toml.Styled.Literal

namespace SampleTypes.Toml.Styled

open Text (afterWord? isDecimal trimmed)

/-! ## Keys -/

/-- Reads keys with points between them. Their spelling includes the spacing around them. -/
def readKeys : (fuel : Nat) → List Char → Reads (List Key × List Char)
  | 0, _ => .error .malformed
  | fuel + 1, s => do
    let (key, rest) ← readKey s
    match rest with
    | '.' :: rest =>
      let (more, rest) ← readKeys fuel rest
      return (key :: more, rest)
    | rest => return ([key], rest)
where
  /-- Reads a single key. -/
  readKey (s : List Char) : Reads (Key × List Char) := do
    let start := s.dropWhile isGap
    match start with
    | c :: rest =>
      if c == '"' || c == '\'' then
        let (read, rest) ← readString c rest
        if read.isLong then .error (.unexpected rest)
        let rest := rest.dropWhile isGap
        return (written (String.ofList read.content) s rest, rest)
      else bareKey s (start.dropWhile (fun c => isBare c || isGap c))
    | [] => .error .malformed
  /-- A key without quotes, which has no spaces inside. -/
  bareKey (s rest : List Char) : Reads (Key × List Char) :=
    let name := trimmed (spelled s rest)
    if name.isEmpty || ' ' ∈ name then .error .malformed
    else .ok (written (String.ofList name) s rest, rest)
  /-- A key with its spelling. -/
  written (name : String) (s rest : List Char) : Key :=
    { name := name, text := String.ofList (spelled s rest), sep := "" }

/-- Reads the keys at the front of a text. -/
def keysAt (s : List Char) : Reads (List Key × List Char) :=
  readKeys s.length s

/-! ## Ends of lines -/

/-- Spacing within a line, and the first half of a line break. -/
def isLineGap (c : Char) : Bool :=
  isGap c || c == '\r'

/-- Reads a comment up to the end of its line; it has no control characters. -/
def readComment (s : List Char) : Reads (List Char × List Char) :=
  let text := s.takeWhile (fun c => c != '\r' && c != '\n')
  if text.any isControl then .error .malformed else .ok (text, s.drop text.length)

/-- A line break, if there is one; a carriage return alone counts. -/
def readBreak : List Char → List Char × List Char
  | '\r' :: '\n' :: rest => (['\r', '\n'], rest)
  | '\r' :: rest => (['\r'], rest)
  | '\n' :: rest => (['\n'], rest)
  | rest => ([], rest)

/-- Reads what may follow an entry on its line. -/
def readEnding (s : List Char) : Reads (Margin × List Char) :=
  let gap := s.takeWhile isLineGap
  match s.dropWhile isLineGap with
  | [] => .ok ({ trail := String.ofList gap }, [])
  | '\n' :: rest => .ok ({ trail := String.ofList (gap ++ ['\n']) }, rest)
  | '#' :: rest => do
    let (comment, rest) ← readComment ('#' :: rest)
    let (lineBreak, rest) := readBreak rest
    return ({ gap := String.ofList gap, comment := String.ofList comment,
              trail := String.ofList lineBreak }, rest)
  | rest => .error (.unexpected rest)

/-! ## Keys with values -/

/-- Reads a value. -/
abbrev ReadLiteral := List Char → Reads (Literal × List Char)

/-- A key with its value. -/
structure Assignment where
  indent : String
  /-- The keys in front of the last one. -/
  outer : List Key
  key : Key
  literal : Literal

/-- The text between a key and its value. -/
def readSeparator (s : List Char) : Reads (String × List Char) :=
  let text := s.takeWhile (fun c => c == '=' || isGap c)
  let rest := s.drop text.length
  match text.count '=' with
  | 0 => .error (.unexpected rest)
  | 1 => .ok (String.ofList text, rest)
  | _ => .error (.unexpected (((s.dropWhile (· != '=')).drop 1).dropWhile (· != '=')))

/-- Reads a key with its value. -/
def readAssignment (read : ReadLiteral) (s : List Char) : Reads (Assignment × List Char) := do
  let indent := s.takeWhile isGap
  let (keys, rest) ← keysAt (s.dropWhile isGap)
  let (sep, rest) ← readSeparator rest
  let (literal, rest) ← read rest
  match keys.getLast? with
  | some key =>
    return ({ indent := String.ofList indent, outer := keys.dropLast,
              key := { key with sep := sep }, literal := literal }, rest)
  | none => .error .malformed

namespace Assignment

/-- The entry that a key with its value makes. -/
def entry (a : Assignment) (margin : Margin) : Entry :=
  let gap := if a.literal.gap = "" then margin.gap else a.literal.gap
  underKeys a.outer (.value a.key a.literal { margin with indent := a.indent, gap := gap })

/-- How a key with its value is written in an inline table. Spacing that was read with the value is
kept behind keys with points only. -/
def text (a : Assignment) : String :=
  let gap := if a.outer.isEmpty then "" else a.literal.gap
  a.outer.foldr (fun key text => key.text ++ "." ++ text)
    (a.key.text ++ a.key.sep ++ a.literal.text ++ gap)

end Assignment

/-! ## Values in brackets -/

/-- Reads the spacing and comments between the parts of a value. -/
def readFiller : (fuel : Nat) → List Char → Reads (List Char × List Char)
  | 0, s => .ok ([], s)
  | fuel + 1, s => do
    let spacing := s.takeWhile isSpacing
    let rest := s.dropWhile isSpacing
    if rest.head? = some '#' then
      let (comment, rest) ← readComment rest
      let (more, rest) ← readFiller fuel rest
      return (spacing ++ comment ++ more, rest)
    else return (spacing, rest)

/-- The spacing and comments at the front of a text. -/
def fillerAt (s : List Char) : Reads (List Char × List Char) :=
  readFiller s.length s

/-- Reads an array behind its bracket, of which `done` is read. A value that ends at an unexpected
character is left out, and the array is closed there if it can be. -/
def readElements (read : ReadLiteral) : (fuel : Nat) → (followsValue : Bool) → (done : List Char) →
    List Char → Reads (List Char × List Char)
  | 0, _, _, _ => .error .malformed
  | fuel + 1, followsValue, done, s => do
    let (filler, rest) ← fillerAt s
    let done := done ++ filler
    if followsValue then
      match rest with
      | ',' :: rest => readElements read fuel false (done ++ [',']) rest
      | ']' :: rest => return (done ++ [']'], rest)
      | rest => .error (.unexpected rest)
    else
      match read rest with
      | .ok (literal, rest) => readElements read fuel true (done ++ literal.text.toList) rest
      | .error (.unexpected (']' :: rest)) => return (done ++ [']'], rest)
      | .error e => .error e

/-- Reads an inline table behind its brace, of which `body` is read as `done`. A comma may follow the
last value. -/
def readMembers (read : ReadLiteral) : (fuel : Nat) → (body : Body) → (done : List Char) →
    List Char → Reads (List Char × List Char)
  | 0, _, _, _ => .error .malformed
  | fuel + 1, body, done, s => do
    let (lead, rest) ← fillerAt s
    let done := done ++ lead
    match rest with
    | '\x7d' :: after => return (done ++ ['\x7d'], after)
    | ',' :: _ => .error (.unexpected rest)
    | rest =>
      let (a, rest) ← readAssignment read rest
      let body ← (place true (a.entry { trail := "" }) body).mapError .clash
      let done := done ++ a.text.toList
      let (tail, rest) ← fillerAt rest
      match rest with
      | ',' :: rest => readMembers read fuel body (done ++ [','] ++ tail) rest
      | '\x7d' :: rest => return (done ++ tail ++ ['\x7d'], rest)
      | rest => .error (.unexpected rest)

/-! ## Values -/

/-- The character ends a number. -/
def endsNumber (c : Char) : Bool :=
  isSpacing c || c ∈ ['#', ',', ']', '\x7d']

/-- The text starts like a number. -/
def startsNumber (s : List Char) : Bool :=
  s.head?.any (fun c => c == '+' || c == '-' || isDecimal c) ||
    String.ofList ((s.take 4).takeWhile (!endsNumber ·)) ∈ ["inf", "nan"]

/-- Reads a number, a date or a time. Behind a date, spaces and a time belong to it. -/
def readFigure (s : List Char) : Reads (Literal × List Char) :=
  let text := s.takeWhile (!endsNumber ·)
  let rest := s.drop text.length
  if isDate text then
    let line := rest.takeWhile (fun c => c == ' ' || !endsNumber c)
    let time := Text.dropEndWhile Text.isBlank line
    if time.isEmpty || isMoment (text ++ time) then
      let gap := String.ofList (line.drop time.length)
      .ok ({ text := String.ofList (text ++ time), gap := gap }, rest.drop line.length)
    else .error .malformed
  else if isMoment text || isTime text || isNumber text then
    .ok ({ text := String.ofList text }, rest)
  else .error .malformed

/-- Reads a word that stands for a truth value. -/
def readTruth (word : String) (b : Bool) (s : List Char) : Reads (Literal × List Char) :=
  match afterWord? word.toList s with
  | some rest => .ok ({ text := word, kind := .truth b }, rest)
  | none => .error (.unexpected s)

/-- Reads a value; `fuel` bounds the depth. -/
def readLiteral : (fuel : Nat) → ReadLiteral
  | 0, _ => .error .malformed
  | _ + 1, [] => .error (.unexpected [])
  | fuel + 1, c :: rest => do
    let s := c :: rest
    if c == '"' || c == '\'' then
      let (_, rest) ← readString c rest
      return ({ text := String.ofList (spelled s rest) }, rest)
    else if c == 't' then readTruth "true" true s
    else if c == 'f' then readTruth "false" false s
    else if c == '[' then
      let (text, rest) ← readElements (readLiteral fuel) s.length false ['['] rest
      return ({ text := String.ofList text }, rest)
    else if c == '\x7b' then
      let (text, rest) ← readMembers (readLiteral fuel) s.length [] ['\x7b'] rest
      return ({ text := String.ofList text, kind := .inlineTable }, rest)
    else if startsNumber s then readFigure s
    else .error (.unexpected s)

/-- Reads the value at the front of a text. -/
def literalAt : ReadLiteral := fun s =>
  readLiteral (s.length + 1) s

/-! ## Lines -/

/-- Puts spacing behind entries, and together with that at their end. -/
def addSpace (text : List Char) (body : Body) : Body :=
  match body.getLast? with
  | some (.space before) => body.dropLast ++ [.space (before ++ String.ofList text)]
  | _ => body ++ [.space (String.ofList text)]

/-- Reads the lines in front of the next header; `add` puts keys with their values behind what is
read. -/
def readLines (add : Body → Entry → Except Stop Body) : (fuel : Nat) → (body : Body) →
    List Char → Reads (Body × List Char)
  | 0, body, s => .ok (body, s)
  | fuel + 1, body, s => do
    let spacing := s.takeWhile isLineGap
    match s.dropWhile isLineGap with
    | [] => return (if s.isEmpty then body else addSpace spacing body, [])
    | '\n' :: rest => readLines add fuel (addSpace (spacing ++ ['\n']) body) rest
    | '[' :: _ => return (body, s)
    | '#' :: rest =>
      let (margin, rest) ← readEnding ('#' :: rest)
      let line := Entry.comment { margin with indent := String.ofList spacing }
      readLines add fuel (body ++ [line]) rest
    | _ =>
      let (a, rest) ← readAssignment literalAt s
      let (margin, rest) ← readEnding rest
      readLines add fuel (← add body (a.entry margin)) rest

end SampleTypes.Toml.Styled
