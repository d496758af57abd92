/-
The settings files that hold for a place: those in its directory and in the directories above it,
up to the first with a file that says it is the root.
-/
import SampleTypes.Files.Disk
import SampleTypes.Log
import SampleTypes.Settings.FromTable
import SampleTypes.Toml.Document

namespace SampleTypes.Settings

open Files

/-! ## Reading tables -/

/-- Why work on settings files fails. -/
inductive Error where
  | file (reason : Files.Error)
  /-- A file holds TOML that cannot be followed to its end. -/
  | toml (reason : Toml.Breakdown)

/-- The words for an error. -/
def Error.message : Error → String
  | .file reason => reason.message
  | .toml reason => reason.message

/-- Work that keeps a log, also if it fails. -/
abbrev LogM := ExceptT Error (StateM (List Log.Record))

/-- Adds a record to the log. -/
def note (record : Log.Record) : LogM Unit :=
  modify (· ++ [record])

/-- The table of a file. A file that cannot be read, or holds no table, gives the empty one. -/
def readTable (d : Disk) (p : Path) : LogM Toml.Members := do
  match d.readText p with
  | .ok text =>
    match Toml.parse d.halves text with
    | .ok table => return table
    | .error (.breakdown b) => throw (.toml b)
    | .error e =>
      note (.error ("Error decoding TOML from " ++ p.text ++ ": " ++ e.message))
      return []
  | .error e =>
    match e with
    | .refused _ _ _ =>
      note (.error ("Error loading TOML from " ++ p.text ++ ": " ++ e.message))
      return []
    | e => throw (.file e)

/-- The name of a settings file. -/
def ownName : String := "shapegen.toml"

/-- The name of a file that may hold settings in a table of its own. -/
def projectName : String := "pyproject.toml"

/-- The part of the table of a file that holds settings. In a file for a whole project it must not
be empty. -/
def settingsPart? (name : String) (table : Toml.Members) : Option Toml.Members :=
  if name = projectName then
    match subtable (subtable table "tool") "shapegen" with
    | [] => none
    | part => some part
  else some table

/-! ## Discovery -/

/-- Work on a disk that fails as the disk says. -/
def LogM.ofExcept {α : Type} : Except Files.Error α → LogM α
  | .ok a => pure a
  | .error e => throw (.file e)

/-- A location and all above it; the names are the last one first. -/
def upwardFrom : List String → List Location
  | [] => [[]]
  | name :: above => (name :: above).reverse :: upwardFrom above

/-- A location and all above it. -/
def upward (location : Location) : List Location :=
  upwardFrom location.reverse

/-- A file in a directory, and whether it says that it is the root, if it holds settings. -/
def inspect (d : Disk) (directory : Location) (name : String) : LogM (Option (Path × Bool)) := do
  let p := (Disk.pathOf directory).child name
  if ← LogM.ofExcept (d.isFile p) then
    let table ← readTable d p
    return (settingsPart? name table).map (fun part => (p, boolOf? part "root" == some true))
  else return none

/-- The settings files in a directory and those after it in the list, the last directory first. -/
def discoverIn (d : Disk) : List Location → LogM (List Path)
  | [] => return []
  | directory :: above => do
    let project ← inspect d directory projectName
    let own ← inspect d directory ownName
    let found := project.toList ++ own.toList
    let files := found.map Prod.fst
    if found.any Prod.snd then return files
    else return (← discoverIn d above) ++ files

/-- The directory where discovery from a path starts. -/
def startOf (d : Disk) (p : Path) : Except Files.Error Location :=
  match d.complete p with
  | .error e => .error e
  | .ok location =>
    (d.isFile (Disk.pathOf location)).map (fun isFile =>
      if isFile then location.dropLast else location)

/-- The settings files that hold for a path, the one that is nearest last. -/
def discover (d : Disk) (p : Path) : LogM (List Path) := do
  let location ← LogM.ofExcept (startOf d p)
  discoverIn d (upward location)

end SampleTypes.Settings
