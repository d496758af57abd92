/-
Moving a document into a section: its tables become tables of the section, and its values stand under
the header of the section. Spelling and comments are kept; comments and blank lines in front of the
first entry stay in front of the section, while those between values of the outermost table are lost.

Keys of the outermost table are spelled anew, and so are truth values. A table that is written in
parts is put together: first its values and arrays of tables, then its tables and inline tables.
-/
import SampleTypes.Text.Lines
import SampleTypes.Toml.Styled.Document
import SampleTypes.Toml.Styled.Printer

namespace SampleTypes.Toml

open Styled

/-! ## Putting entries together -/

/-- Puts a line feed behind a value that ends its text without one. -/
def Styled.Entry.fed : Entry → Entry
  | .value key literal margin =>
    .value key literal
      (if '\n' ∈ margin.trail.toList then margin else { margin with trail := margin.trail ++ "\n" })
  | e => e

/-- Puts a blank line in front of a table that has none there. -/
def Styled.Entry.parted (e : Entry) : Entry :=
  e.mapIndent (fun indent => if '\n' ∈ indent.toList then indent else "\n" ++ indent)

/-- The last entry with a line feed behind it. -/
def fedLast (body : Body) : Body :=
  match body.getLast? with
  | some e => body.dropLast ++ [e.fed]
  | none => []

/-- Puts an entry into a table of its own: values in front of tables, and a blank line in front of a
table that is not indented. -/
def addApart (body : Body) (e : Entry) : Body :=
  let isApart := body.isEmpty || bodyEndsInSpace body
  match e with
  | .table key heading inner =>
    let isFlush := heading.margin.indent = ""
    body ++ [if !isApart && isFlush then .table key (heading.mapIndent (fun _ => "\n")) inner else e]
  | .tables key ((heading, inner) :: rest) =>
    let isBlank := '\n' ∈ heading.margin.indent.toList
    body ++ [if !isApart && !isBlank then
      .tables key ((heading.mapIndent ("\n" ++ ·), inner) :: rest) else e]
  | e =>
    let front := fedLast (body.takeWhile (!·.holdsTables))
    match body.dropWhile (!·.holdsTables) with
    | [] => front ++ [e]
    | next :: rest => front ++ e :: next.parted :: rest

/-- An entry whose key is spelled anew, and a truth value with it. -/
def Styled.Entry.respelled (name : String) : Entry → Entry
  | .value _ literal margin =>
    match literal.kind with
    | .truth _ => .value (.ofName name) literal {}
    | _ => .value (.ofName name) literal margin
  | .table _ heading body => .table (.ofName name) heading body
  | .tables _ elements => .tables (.ofName name) elements
  | e => e

/-- The entry is a table, in lines or inline. -/
def Styled.Entry.isTable : Entry → Bool
  | .table _ _ _ => true
  | .value _ literal _ => literal.kind = .inlineTable
  | _ => false

/-- A table of these entries. If they are tables only it has no header. -/
def tableOf (name : String) (entries : List Entry) : Entry :=
  let sorted := entries.filter (!·.isTable) ++ entries.filter Entry.isTable
  .table (.ofName name) { isImplied := !entries.isEmpty && entries.all Entry.holdsTables }
    (sorted.foldl addApart [])

/-- The one entry that all those with a name make; `fuel` bounds the depth. -/
def entryNamed : (fuel : Nat) → Body → String → Except Clash Entry
  | 0, _, name => .ok (tableOf name [])
  | fuel + 1, body, name =>
    if isInParts name body then do
      let parts ← gathered name body
      let inner := (names parts).eraseDups
      inner.forM (checkParts · parts)
      return tableOf name (← inner.mapM (entryNamed fuel parts))
    else .ok (((lastNamed? name body).getD (tableOf name [])).respelled name)

/-- One entry for each name, in the order of their first entries. -/
def entriesByName (body : Body) : Except Clash (List Entry) :=
  (names body).eraseDups.mapM (entryNamed (bodyLevels body + 1) body)

/-! ## Moving into a section -/

/-- Why a document cannot be moved. -/
inductive NestError where
  /-- The section has no name. -/
  | noSection
  /-- The text is not TOML. -/
  | malformed
  /-- Two entries of a table exclude each other. -/
  | clash (c : Clash)
  deriving DecidableEq, Repr

/-- The words for the error. -/
def NestError.message : NestError → String
  | .noSection => "section_keys must contain at least one non-empty component"
  | .malformed => "Error parsing TOML document"
  | .clash c => c.message

/-- Why a text is not read as a document to move. -/
def NestError.ofStop : Stop → NestError
  | .clash c => .clash c
  | .unexpected _ | .malformed => .malformed

/-- Entries in the tables with the names. -/
def inTables (names : List String) (entries : Body) : Body :=
  names.foldr (fun name body => [.table (.ofName name) { isImplied := true } body]) entries

/-- The text of a table behind that of entries in front of it. -/
def behindFront (front : Body) (name : String) (body : Body) : String :=
  let text := bodyText false "" front
  let indent := if front.isEmpty || bodyEndsInSpace front then "" else "\n"
  let table := Entry.table (.ofName name) { margin := { indent := indent }, isImplied := true } body
  let visible := Text.dropEndWhile (· == ' ') (text.toList.dropWhile (· == ' '))
  let feed := if visible.isEmpty || visible.getLast? == some '\n' || indent == "\n" then "" else "\n"
  match table.reheaded with
  | .table key heading body => text ++ feed ++ tableText key heading body
  | _ => text

/-- A document moved into the section that the names between points lead to. -/
def nest (sect text : String) : Except NestError String :=
  match (Text.split '.' sect).filter (· ≠ "") with
  | [] => .error .noSection
  | name :: rest => do
    let body ← (readDocument text).mapError .ofStop
    let entries ← (entriesByName body).mapError .clash
    let front := body.takeWhile (·.key?.isNone)
    return behindFront front name (inTables rest (entries.foldl addApart []))

end SampleTypes.Toml
