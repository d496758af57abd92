/-
Findings that do not stop a run: a level and a message each, kept in order.
-/
import SampleTypes.Terminal.Style

namespace SampleTypes

/-- How serious a finding is. -/
inductive Diagnostic.Level where
  | info
  | warning
  | error
  deriving DecidableEq, Repr

/-- A finding. -/
structure Diagnostic where
  level : Diagnostic.Level
  message : String
  deriving DecidableEq, Repr

namespace Diagnostic

/-- The word for a level. -/
def Level.word : Level → String
  | .info => "info"
  | .warning => "warning"
  | .error => "error"

/-- The looks of a line that reports a finding of a level. -/
def Level.looks : Level → List Terminal.Look
  | .info => [.blue]
  | .warning => [.yellow]
  | .error => [.brightRed]

/-- The number of findings of a level. -/
def count (level : Level) (findings : List Diagnostic) : Nat :=
  findings.countP (fun d => d.level == level)

/-- Every level with the number of findings of that level. -/
def counts (findings : List Diagnostic) : List (Level × Nat) :=
  [Level.info, .warning, .error].map (fun level => (level, count level findings))

/-- The number of findings of all levels together. -/
def total (findings : List Diagnostic) : Nat :=
  (counts findings).foldl (fun sum (_, n) => Nat.add sum n) 0

/-- Some finding has the level. -/
def has (level : Level) (findings : List Diagnostic) : Bool :=
  findings.any (fun d => d.level == level)

/-- The line that reports a finding. -/
def line (d : Diagnostic) : String :=
  d.level.word ++ ": " ++ d.message

end Diagnostic

end SampleTypes
