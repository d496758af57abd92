/-
Where a generated module goes: into its file, to standard output, or nowhere, which only tells
whether the file would change.
-/
import SampleTypes.Files.Change
import SampleTypes.Log
import SampleTypes.Output.Target

namespace SampleTypes.Output

open Files

/-! ## Outcomes -/

/-- What became of a module. -/
inductive Status where
  | written
  | unchanged
  | skipped
  | wouldWrite
  deriving DecidableEq, Repr

namespace Status

/-- The words for a status. -/
def words : Status → String
  | .written => "written"
  | .unchanged => "unchanged"
  | .skipped => "skipped"
  | .wouldWrite => "would write"

/-- The looks of a line that reports a status. -/
def looks : Status → List Terminal.Look
  | .written => [.green]
  | .unchanged => [.gray]
  | .skipped => [.yellow]
  | .wouldWrite => [.brightYellow]

end Status

/-- The outcome of a delivery. -/
structure Receipt where
  status : Status
  /-- The number of bytes that were written. -/
  bytes : Nat := 0
  /-- What is printed. -/
  printed : String := ""
  deriving DecidableEq, Repr

/-! ## Sinks -/

/-- A place that modules can go to. -/
inductive Sink where
  | nowhere
  | standardOutput
  | files
  deriving DecidableEq, Repr

/-- Printing comes first; files are only written if changes are to be applied. -/
def Sink.select (applyChanges : Option Bool) (toOutput : Bool) : Sink :=
  if toOutput then .standardOutput
  else if applyChanges = some true then .files
  else .nowhere

/-- Writes a module into its file, unless its text is there already. -/
def writeFile (faults : Faults) (t : Target) : FileM Receipt := do
  Change.check faults .readTarget t.path none
  if ← Change.ask t.wouldChange then
    let bytes := Text.Utf8.encode t.text
    Change.replaceFile faults t.path bytes
    return { status := .written, bytes := bytes.length }
  else return { status := .unchanged }

/-- Hands a module to a sink, where steps of writing may be made to fail. -/
def deliverWith (faults : Faults) (t : Target) : Sink → FileM Receipt
  | .nowhere => do
    return { status := if ← Change.ask t.wouldChange then .wouldWrite else .unchanged }
  | .standardOutput =>
    if t.text = "" then return { status := .skipped }
    else
      return {
        status := .written
        bytes := (Text.Utf8.encode t.text).length
        printed := t.text }
  | .files => writeFile faults t

/-- Hands a module to a sink. -/
def deliver (t : Target) (sink : Sink) : FileM Receipt :=
  deliverWith noFaults t sink

/-- The record of a delivery in the log. -/
def Receipt.record (r : Receipt) (t : Target) : Log.Record :=
  .info (t.path.text ++ ": " ++ r.status.words ++ " (" ++ toString r.bytes ++ " bytes)")

end SampleTypes.Output
