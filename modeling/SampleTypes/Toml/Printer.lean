/-
Writing tables as TOML text: the scalars of a table in order, then its tables level by level, each
under a header of its own after a blank line.

A table that holds nothing but tables has no header. Null members are left out. An array with a
table among its elements is written table by table; writing breaks down at an element that is none,
unless it is an empty text or array, which is written like the empty table.
-/
import SampleTypes.Text.Lines
import SampleTypes.Toml.Fault
import SampleTypes.Toml.Key
import SampleTypes.Toml.Value

namespace SampleTypes.Toml

/-- The outcome of writing. -/
abbrev PrintM := Except Breakdown

/-! ## Strings -/

/-- The pieces of a text between the places where a backslash and an `x` stand. -/
def splitAtCodes : List Char → List (List Char)
  | [] => [[]]
  | '\\' :: 'x' :: rest => [] :: splitAtCodes rest
  | c :: rest =>
    match splitAtCodes rest with
    | [] => [[c]]
    | piece :: pieces => (c :: piece) :: pieces

/-- Every pair of backslashes as one. -/
def collapseBackslashes : List Char → List Char
  | '\\' :: '\\' :: rest => '\\' :: collapseBackslashes rest
  | c :: rest => c :: collapseBackslashes rest
  | [] => []

/--
What joins a piece to the next one: `x`, or `u00` when the backslashes that end the piece make the
code after it an escape. A backslash that starts the piece counts once.
-/
def joint (piece : List Char) : List Char :=
  let run := (piece.reverse.takeWhile (· == '\\')).length
  let counted := if run = piece.length then run - 1 else run
  let ends := run != 0
  if (counted % 2 == 0) != ends then ['x'] else ['u', '0', '0']

/-- Joins pieces at the places of codes; a code at the start of the text cannot be written. -/
def joinAtCodes (first : List Char) : List (List Char) → Option (List Char)
  | [] => some first
  | next :: rest =>
    match first, rest with
    | [], [] => none
    | [], after :: rest =>
      if next.isEmpty then none
      else
        let piece := collapseBackslashes next
        joinAtCodes (piece ++ joint piece ++ after) rest
    | first, rest =>
      let piece := collapseBackslashes first
      joinAtCodes (piece ++ joint piece ++ next) rest

/-- A string between double quotes. -/
def stringText (s : String) : PrintM String :=
  let cs := Text.quoted s |>.toList
  let inner := (cs.drop 1).dropLast
  let escaped :=
    if cs.head? = some '\'' then requote inner else inner
  match splitAtCodes escaped with
  | [] => .ok "\"\""
  | first :: rest =>
    match joinAtCodes first rest with
    | some text => .ok (String.ofList ('"' :: text ++ ['"']))
    | none => .error .pastEnd
where
  /-- Escapes double quotes in place of single ones. -/
  requote : List Char → List Char
    | '\\' :: '\'' :: rest => '\'' :: requote rest
    | '"' :: rest => '\\' :: '"' :: requote rest
    | c :: rest => c :: requote rest
    | [] => []

/-! ## Values -/

/-- A floating-point number; its exponent has no zero in front. -/
def floatText (x : Binary64) : String :=
  String.ofList (trimExponent (x.text "nan" "inf").toList)
where
  /-- Drops the zero in front of an exponent. -/
  trimExponent : List Char → List Char
    | 'e' :: sign :: '0' :: rest => 'e' :: sign :: rest
    | c :: rest => c :: trimExponent rest
    | [] => []

mutual

/-- The text of a value behind an equals sign; of a table in an array only the keys are written. -/
def valueText : Value → PrintM String
  | .null => .ok "\"None\""
  | .bool b => .ok (if b then "true" else "false")
  | .int n => .ok (toString n)
  | .float x => .ok (floatText x)
  | .string s => stringText s
  | .date d => .ok (String.ofList d.text)
  | .time t => .ok (String.ofList t.text)
  | .moment m =>
    match m.text? with
    | some text => .ok (String.ofList text)
    | none => .error .farZone
  | .array es => (elementsText es).map (fun text => "[" ++ text ++ "]")
  | .table _ ms => (keysText (ms.map Prod.fst)).map (fun text => "[" ++ text ++ "]")

/-- Elements, each between a space and a comma. -/
def elementsText : List Value → PrintM String
  | [] => .ok ""
  | v :: rest => do
    let first ← valueText v
    let more ← elementsText rest
    return " " ++ first ++ "," ++ more

/-- Keys, each between a space and a comma. -/
def keysText : List String → PrintM String
  | [] => .ok ""
  | k :: rest => do
    let first ← stringText k
    let more ← keysText rest
    return " " ++ first ++ "," ++ more

end

/-! ## Tables -/

/-- A key, between quotes unless it can stand without them. -/
def keyText (k : String) : PrintM String :=
  if isBareKey k then .ok k else stringText k

/-- Levels of tables in a value. -/
def depth : Value → Nat
  | .table _ ms => membersDepth ms + 1
  | .array es => elementsDepth es + 1
  | _ => 0
where
  /-- Levels of tables in some elements. -/
  elementsDepth : List Value → Nat
    | [] => 0
    | v :: rest => max (depth v) (elementsDepth rest)
  /-- Levels of tables in some members. -/
  membersDepth : List (String × Value) → Nat
    | [] => 0
    | (_, v) :: rest => max (depth v) (membersDepth rest)

/-- Tables by the texts of their keys. -/
abbrev Tables := Assoc String Members

/-- What is written of a table: its own lines, and the tables in it that follow later. -/
structure Layout where
  lines : String := ""
  /-- What is written of its arrays of tables, behind its lines. -/
  arrays : String := ""
  tables : Tables := []

/-- The lines of a table and what is written behind them. -/
def Layout.text (l : Layout) : String :=
  l.lines ++ l.arrays

/-- A way to lay out the table under a header. -/
abbrev LayoutOf := String → Members → PrintM Layout

/-- Tables with a key in front of theirs; of two with one text the last one counts. -/
def addBelow (key : String) (more tables : Tables) : Tables :=
  Assoc.setAll tables (more.map (fun (inner, ms) => (key ++ "." ++ inner, ms)))

/-- The tables of one level under the headers `lead` and theirs; empty ones have no header. -/
def levelText (layout : LayoutOf) (lead : String) : Tables → Tables → PrintM (String × Tables)
  | below, [] => .ok ("", below)
  | below, (k, ms) :: rest => do
    let l ← layout (lead ++ k) ms
    let text := if l.text = "" then "" else "[" ++ lead ++ k ++ "]\n" ++ l.text
    let (more, below) ← levelText layout lead (addBelow k l.tables below) rest
    return (text ++ more, below)

/-- Tables under the headers `lead` and theirs, level by level. -/
def levelsBelow (layout : LayoutOf) (lead : String) : Nat → Tables → PrintM String
  | 0, _ => .ok ""
  | _ + 1, [] => .ok ""
  | fuel + 1, tables => do
    let (text, below) ← levelText layout lead [] tables
    let more ← levelsBelow layout lead fuel below
    return text ++ more

/-- The members of an element of an array of tables. The keys of an element that is no table are
its own elements or characters, and there is nothing under them. -/
def elementMembers : Value → PrintM Members
  | .table _ ms => .ok ms
  | .string s =>
    match s.toList with
    | [] => .ok []
    | c :: _ => do
      let _ ← keyText (String.singleton c)
      .error .keyOfText
  | .array es =>
    match es with
    | [] => .ok []
    | .string s :: _ => do
      let _ ← keyText s
      .error .keyOfArray
    | v :: _ => do
      let _ ← keyText v.display
      .error .keyOfArray
  | v => .error (.notIterable v.fullKindName)

/-- One table of an array of tables: its header and lines, and everything in it. -/
def elementText (layout : LayoutOf) (fuel : Nat) (header : String) (v : Value) : PrintM String := do
  let l ← layout header (← elementMembers v)
  let below ← levelsBelow layout (header ++ ".") fuel l.tables
  let head := "[[" ++ header ++ "]]\n"
  if l.text.toList.head? = some '[' then return head ++ "\n" ++ l.text ++ below
  else return head ++ l.text ++ "\n" ++ below

/-- Some element is a table. -/
def holdsTables (es : List Value) : Bool :=
  es.any (fun v => match v with
    | .table _ _ => true
    | _ => false)

/-- The layout with one more member, whose key is written as `k`. -/
def addMember (layout : LayoutOf) (fuel : Nat) (lead k : String) (v : Value) (l : Layout) :
    PrintM Layout := do
  match v with
  | .table _ ms => return { l with tables := Assoc.set k ms l.tables }
  | .null => return l
  | .array es =>
    if holdsTables es then
      let texts ← es.mapM (elementText layout fuel (lead ++ k))
      return { l with arrays := l.arrays ++ Text.join "" texts }
    else return { l with lines := l.lines ++ k ++ " = [" ++ (← elementsText es) ++ "]\n" }
  | v => return { l with lines := l.lines ++ k ++ " = " ++ (← valueText v) ++ "\n" }

/--
Lays out the members of a table under the headers that start with `lead`: lines for the scalars,
then the arrays of tables; tables follow later. `fuel` bounds the depth.
-/
def addMembers (layout : LayoutOf) (fuel : Nat) (lead : String) (l : Layout) :
    Members → PrintM Layout
  | [] => .ok l
  | (k, v) :: rest => do
    let l ← addMember layout fuel lead (← keyText k) v l
    addMembers layout fuel lead l rest

/-- Lays out the table under a header; the outermost table has an empty one. -/
def layout : Nat → LayoutOf
  | 0, _, _ => .ok {}
  | fuel + 1, header, ms =>
    addMembers (layout fuel) (fuel + 1) (if header = "" then "" else header ++ ".") {} ms

/-- A text with a blank line at its end, unless it is empty or has one. -/
def separated (text : String) : String :=
  if text = "" ∨ text.endsWith "\n\n" then text else text ++ "\n"

/-- Writes the tables of one level behind `text`, each under its header. -/
def printLevel (deep : Nat) (text : String) : Tables → Tables → PrintM (String × Tables)
  | below, [] => .ok (text, below)
  | below, (k, ms) :: rest => do
    let l ← layout deep k ms
    let text :=
      if l.text = "" && !l.tables.isEmpty then text
      else separated text ++ "[" ++ k ++ "]\n" ++ l.text
    printLevel deep text (addBelow k l.tables below) rest

/-- Writes tables behind `text`, level by level. -/
def printLevels (deep : Nat) (text : String) : Nat → Tables → PrintM String
  | 0, _ => .ok text
  | _ + 1, [] => .ok text
  | fuel + 1, tables => do
    let (text, below) ← printLevel deep text [] tables
    printLevels deep text fuel below

/-- A table as TOML text. -/
def print (ms : Members) : PrintM String := do
  let deep := depth (.table false ms) + 1
  let l ← layout deep "" ms
  printLevels deep l.text deep l.tables

end SampleTypes.Toml
