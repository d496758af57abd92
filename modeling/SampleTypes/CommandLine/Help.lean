/-
The help of the program and of its commands: how they are used, what they do, and two columns with
the options, and the commands, and what those do.
-/
import SampleTypes.CommandLine.Command
import SampleTypes.Text.Blank

namespace SampleTypes.CommandLine.Help

/-! ## Wrapping -/

/-- The number of columns of the help. -/
def width : Nat := 78

/-- Cuts a word after each dash between letters; `lead` is what was read of a chunk, the last
character first. -/
def chunksFrom (lead : List Char) : List Char → List (List Char)
  | [] => if lead.isEmpty then [] else [lead.reverse]
  | c :: rest =>
    if c = '-' ∧ lead.head?.any Char.isAlpha ∧ rest.head?.any Char.isAlpha then
      (c :: lead).reverse :: chunksFrom [] rest
    else chunksFrom (c :: lead) rest

/-- The chunks of a text that stay on one line, each with whether a blank comes before it. -/
def chunks (text : String) : List (Bool × String) :=
  (Text.split ' ' text).flatMap (fun word =>
    match chunksFrom [] word.toList with
    | [] => []
    | first :: rest =>
      (true, String.ofList first) :: rest.map (fun chunk => (false, String.ofList chunk)))

/-- Puts chunks on lines of at most `columns` characters; `line` is the line so far. -/
def fill (columns : Nat) (line : String) : List (Bool × String) → List String
  | [] => if line = "" then [] else [line]
  | (spaced, chunk) :: rest =>
    if line = "" then fill columns chunk rest
    else
      let longer := line ++ (if spaced then " " else "") ++ chunk
      if longer.length ≤ columns then fill columns longer rest
      else line :: fill columns chunk rest

/-- A text on lines of at most `columns` characters. -/
def wrap (columns : Nat) (text : String) : List String :=
  fill columns "" (chunks text)

/-! ## Two columns -/

/-- Blanks. -/
def blanks (count : Nat) : String :=
  Text.padEnd count ""

/-- The greatest width of a first column before the second one starts on its own line. -/
def firstLimit : Nat := 30

/-- The lines of an entry whose second column starts `start` characters after the indent. -/
def entryLines (start : Nat) (entry : String × String) : List String :=
  let (first, second) := entry
  let lines := wrap (width - start - 2) second
  let later (lines : List String) := lines.map (blanks (start + 2) ++ ·)
  if first.length + 2 ≤ start then
    match lines with
    | [] => ["  " ++ first]
    | line :: rest => ("  " ++ Text.padEnd start first ++ line) :: later rest
  else ("  " ++ first) :: later lines

/-- The lines of a section with two columns; none if it has no entries. -/
def sectionLines (title : String) (entries : List (String × String)) : List String :=
  let longest := (entries.map (fun entry => entry.1.length)).foldl max 0
  if entries.isEmpty then []
  else "" :: (title ++ ":") :: entries.flatMap (entryLines (min longest firstLimit + 2))

/-! ## Options and commands -/

/-- The first column of an option: short names before long ones. -/
def optionText (spec : OptionSpec Key) : String :=
  let isLong (name : String) := ['-', '-'].isPrefixOf name.toList
  let names := spec.names.filter (fun name => !isLong name) ++ spec.names.filter isLong
  Text.join " / "
    (Text.join ", " names :: (if spec.contraryNames.isEmpty then []
      else [Text.join ", " spec.contraryNames])) ++
    (match spec.placeholder with
    | some placeholder => " " ++ placeholder
    | none => "")

/-- The entries of options. -/
def optionEntries (specs : List (OptionSpec Key)) : List (String × String) :=
  specs.map (fun spec => (optionText spec, spec.help))

/-- The longest start of a list of words that is at most `limit` characters long with `...`. -/
def shortenWords (limit : Nat) : List String → String
  | [] => "..."
  | word :: rest =>
    let words := (word :: rest).reverse
    let text := Text.join " " words ++ "..."
    if text.length ≤ limit then text else shortenWords limit rest

/-- A text of at most `limit` characters, shortened by whole words if needed. -/
def shorten (limit : Nat) (text : String) : String :=
  if text.length ≤ limit then text
  else shortenWords limit (Text.split ' ' text).reverse

/-- The entries of the commands. -/
def commandEntries : List (String × String) :=
  let longest := (Command.all.map (fun c => c.name.length)).foldl max 0
  Command.all.map (fun c => (c.name, shorten (width - 6 - longest) c.help))

/-- The help of the program, or of one of its commands, without a line break at its end. -/
def text : Option Command → String
  | none =>
    Text.join "\n" (usage none :: "" :: (wrap (width - 2) programHelp).map ("  " ++ ·) ++
      sectionLines "Options" (optionEntries Key.general) ++
      sectionLines "Commands" commandEntries)
  | some c =>
    Text.join "\n" (usage (some c) :: "" :: (wrap (width - 2) c.help).map ("  " ++ ·) ++
      sectionLines "Options" (optionEntries c.options))

end SampleTypes.CommandLine.Help
