/-
Reports in Markdown: tables with padded columns, and the report of a schema.
-/
import SampleTypes.Haskell.Declaration
import SampleTypes.Schema

namespace SampleTypes.Report.Markdown

/-! ## Tables -/

/-- A table fails to render when a row has a cell outside the columns that the headers make. -/
inductive TableError where
  | rowTooLong
  deriving DecidableEq, Repr

/-- Widths made large enough for the cells of a row; none if there are more cells than widths. -/
def widen : List Nat → List String → Option (List Nat)
  | widths, [] => some widths
  | [], _ :: _ => none
  | w :: widths, cell :: row => (widen widths row).map (max w cell.length :: ·)

/-- Widths made large enough for the cells of every row. -/
def widenAll (widths : List Nat) : List (List String) → Option (List Nat)
  | [] => some widths
  | row :: rows => (widen widths row).bind (fun widths => widenAll widths rows)

/-- A row with its cells filled up to the widths of their columns. -/
def rowLine (widths : List Nat) (cells : List String) : String :=
  "| " ++ Text.join " | " (List.zipWith Text.padEnd widths cells) ++ " |"

/-- The line below the headers. -/
def ruleCells (widths : List Nat) : List String :=
  widths.map (fun w => String.ofList (List.replicate w '-'))

/-- A table; each column is as wide as its widest cell. -/
def table (headers : List String) (rows : List (List String)) : Except TableError String :=
  match widenAll (headers.map String.length) rows with
  | none => .error .rowTooLong
  | some widths =>
    .ok (Text.unlines
      (rowLine widths headers :: rowLine widths (ruleCells widths) :: rows.map (rowLine widths)))

/-! ## The report of a schema -/

/-- The table row of a declaration. -/
def declarationRow : Declaration FieldType → List String
  | .record r => ["record", r.name, Text.join ", " r.fieldNames]
  | .alias a => ["alias", a.name, a.element.describe]

/-- The section of a rendered declaration. -/
def codeSection (r : Haskell.Rendered) : String :=
  let decoder := match r.decoderText with
    | some text => "\n" ++ text
    | none => ""
  "## " ++ r.name ++ "\n\n\x60\x60\x60haskell\n" ++ r.typeText ++ decoder ++ "\x60\x60\x60\n"

/-- The sections that list diagnostics; none if there is nothing to list. -/
def diagnosticSections : List Diagnostic → List String
  | [] => []
  | diagnostics =>
    ["## Diagnostics\n",
      Text.unlines (diagnostics.map (fun d => "- **" ++ d.level.word ++ "**: " ++ d.message))]

/-- A table of the declarations, their source, and the diagnostics. -/
def ofSchema (names : Haskell.TypeNames) (s : Schema) : Except TableError String := do
  let overview ← table ["Kind", "Name", "Fields / Type"] (s.declarations.map declarationRow)
  return Text.join "\n"
    ("# Inferred declarations\n" :: overview ::
      s.declarations.map (fun d => codeSection (Haskell.render names d)) ++
      diagnosticSections s.diagnostics)

end SampleTypes.Report.Markdown
