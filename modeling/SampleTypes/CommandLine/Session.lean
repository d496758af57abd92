/-
A run of the program: the files it works on, the texts it has handed to its streams so far, and how
it prints. A text is handed over as it is; a command that asks for bytes first does so by itself.
-/
import SampleTypes.CommandLine.Failure
import SampleTypes.Files.Change
import SampleTypes.Settings.Discovery

namespace SampleTypes.CommandLine

/-! ## Runs -/

/-- What a run starts with. -/
structure Request where
  arguments : List String
  /-- The bytes of standard input. -/
  input : List UInt8 := []
  environment : Environment := {}

/-- The state of a run. -/
structure Session where
  disk : Files.Disk
  output : String := ""
  errors : String := ""
  isColoured : Bool := false
  logLevel : Nat := Log.usualLevel
  /-- How much is printed, as the flags say. -/
  verbosity : Int := 0

/-- What a run leaves behind. -/
structure Outcome where
  exitCode : Nat
  output : String
  errors : String
  disk : Files.Disk
  /-- The error that ended the run, if it was not expected. -/
  crash : Option Crash

/-- Work in a run, which may end it. -/
abbrev RunM := ExceptT Stop (StateM Session)

namespace RunM

/-! ## Printing -/

/-- A text as it is printed: without colours unless the run is coloured. -/
def shown (s : Session) (text : String) : String :=
  if s.isColoured then text else Terminal.plain text

/-- Hands a text to standard output. -/
def print (text : String) : RunM Unit :=
  modify (fun s => { s with output := s.output ++ shown s text })

/-- Prints a line. -/
def printLine (line : String) : RunM Unit :=
  print (line ++ "\n")

/-- Ends the run if a text that is to be printed has no bytes. -/
def requireBytes (text : String) : RunM Unit := do
  match (← get).disk.halves.encode text with
  | .ok _ => pure ()
  | .error e => throw (.crashed (.unencodable e))

/-- Prints a line about something that is not a result. -/
def printError (line : String) : RunM Unit :=
  modify (fun s => { s with errors := s.errors ++ shown s (line ++ "\n") })

/-- A text with looks, if the run is coloured. -/
def painted (looks : List Terminal.Look) (text : String) : RunM String := do
  return if (← get).isColoured then Terminal.paint looks text else text

/-- A text that is set apart, if the run is coloured. -/
def emphasized (looks : List Terminal.Look) (text : String) : RunM String := do
  return if (← get).isColoured then Terminal.emphasize looks text else text

/-- Prints diagnostics, unless the run is to be quiet. -/
def report (diagnostics : List Diagnostic) : RunM Unit := do
  if 0 ≤ (← get).verbosity then
    diagnostics.forM (fun d => do printError (← painted d.level.looks d.line))

/-! ## The log -/

/-- Prints a record, coloured in any case, if the log shows its level. -/
def log (record : Log.Record) : RunM Unit :=
  modify (fun s =>
    if record.isShown s.logLevel then { s with output := s.output ++ record.text ++ "\n" } else s)

/-- Work that keeps a log, in a run. -/
def logged {α : Type} (work : Settings.LogM α) : RunM α := do
  let (result, records) := work.run []
  records.forM log
  match result with
  | .ok a => return a
  | .error (.file e) => throw (.crashed (.file e))
  | .error (.toml b) => throw (.crashed (.settingsFile b))

/-! ## Files -/

/-- A question to the disk; an error is not expected. -/
def ask {α : Type} (question : Files.Disk → Except Files.Error α) : RunM α := do
  match question (← get).disk with
  | .ok a => return a
  | .error e => throw (.crashed (.file e))

/-- Work on the disk, and why it failed if it did. -/
def attempt {α : Type} (work : Files.FileM α) : RunM (Except Files.Error α) := do
  let s ← get
  let (result, disk) := work.run s.disk
  set { s with disk := disk }
  return result

/-! ## Whole runs -/

/-- What a session leaves behind when it is ended. -/
def outcome (s : Session) (stop : Stop) : Outcome where
  exitCode := stop.exitCode
  output := s.output
  errors := s.errors ++
    (match stop with
    | .mistake _ mistake =>
      if mistake.showsUsage then shown s stop.text else Terminal.plain stop.text
    | stop => shown s stop.text)
  disk := s.disk
  crash :=
    match stop with
    | .crashed crash => some crash
    | _ => none

/-- Runs work on a disk. -/
def complete (disk : Files.Disk) (work : RunM Unit) : Outcome :=
  match work.run { disk := disk } with
  | (.ok (), s) => outcome s (.done 0)
  | (.error stop, s) => outcome s stop

end RunM

end SampleTypes.CommandLine
