/-
The settings files that hold for a place, told by the disk alone. A sheet is a table of settings with
the file that it stands in. From a directory on, the sheets are those of the directory and of all
above it, up to the first with a sheet that says it is the root (`sheetsFrom`), and discovery gives
their files unless something is in the way (`endsAs_discover`).
-/
import Mathlib.Data.List.Infix
import SampleTypes.Proofs.Settings.Field
import SampleTypes.Proofs.Work
import SampleTypes.Settings.Load

namespace SampleTypes.Settings

open Files Work
open Toml (Members)

/-! ## Sheets -/

/-- A table of settings, and the file that it stands in, if it stands in one. -/
structure Sheet where
  file : Option Path
  table : Members

namespace Sheet

def source (sheet : Sheet) : Source :=
  (sheet.file.map .file).getD .defaults

def layer (sheet : Sheet) : Layer :=
  (Layer.ofTable sheet.file sheet.table).from sheet.source

/-- Nothing above the directory of the sheet holds. -/
def isRoot (sheet : Sheet) : Bool :=
  boolOf? sheet.table "root" == some true

end Sheet

/-- The table of a file; it is empty if the file cannot be read as one. -/
def tableIn (d : Disk) (p : Path) : Members :=
  match d.readText p with
  | .ok text => (Toml.parse d.halves text).toOption.getD []
  | .error _ => []

/-- The sheet of a file, if the file holds settings. -/
def sheetIn? (d : Disk) (p : Path) : Option Sheet :=
  (settingsPart? p.name (tableIn d p)).map (⟨some p, ·⟩)

/-- The sheet under a name in a directory. -/
def sheetAt? (d : Disk) (directory : Location) (name : String) : Option Sheet :=
  let p := (Disk.pathOf directory).child name
  match d.isFile p with
  | .ok true => sheetIn? d p
  | _ => none

/-- The sheets of a directory, the file of settings alone after the file for a whole project. -/
def sheetsOf (d : Disk) (directory : Location) : List Sheet :=
  [projectName, ownName].filterMap (sheetAt? d directory)

/-- The directories of a list up to the first with a sheet that is the root. -/
def throughRoot (d : Disk) (directories : List Location) : List Location :=
  directories.take (directories.findIdx (fun above => (sheetsOf d above).any Sheet.isRoot) + 1)

/-- The sheets that hold in a directory, those of the nearest directory last. -/
def sheetsFrom (d : Disk) (directory : Location) : List Sheet :=
  (throughRoot d directory.inits.reverse).reverse.flatMap (sheetsOf d)

/-- The directory where a path is looked up: its own, if it leads to a file. -/
def startIn (d : Disk) (p : Path) : Location :=
  let location := (d.complete p).toOption.getD []
  match d.isFile (Disk.pathOf location) with
  | .ok true => location.dropLast
  | _ => location

theorem sheetsOf_eq (d : Disk) (directory : Location) :
    sheetsOf d directory =
      (sheetAt? d directory projectName).toList ++ (sheetAt? d directory ownName).toList := by
  rw [sheetsOf]
  cases h₁ : sheetAt? d directory projectName <;> cases h₂ : sheetAt? d directory ownName <;>
    simp [h₁, h₂]

theorem sheetAt?_eq_some {d : Disk} {directory : Location} {name : String} {sheet : Sheet}
    (h : sheetAt? d directory name = some sheet) :
    sheet.file = some ((Disk.pathOf directory).child name) ∧
      sheetIn? d ((Disk.pathOf directory).child name) = some sheet := by
  rw [sheetAt?] at h
  split at h
  · obtain ⟨_, _, rfl⟩ := Option.map_eq_some_iff.1 h
    exact ⟨rfl, h⟩
  · cases h

theorem sheetIn?_of_mem {d : Disk} {directory : Location} {sheet : Sheet}
    (h : sheet ∈ sheetsFrom d directory) : ∃ p, sheet.file = some p ∧ sheetIn? d p = some sheet := by
  obtain ⟨above, _, hsheet⟩ := List.mem_flatMap.1 h
  obtain ⟨name, _, hname⟩ := List.mem_filterMap.1 hsheet
  exact ⟨_, sheetAt?_eq_some hname⟩

/-! ## What is in the way -/

/-- The error that reading a table ends with. Text with a fault and a file that the system refuses
count as an empty table. -/
def escape? (d : Disk) (p : Path) : Option Error :=
  match d.readText p with
  | .ok text =>
    match Toml.parse d.halves text with
    | .error (.breakdown b) => some (.toml b)
    | _ => none
  | .error (.refused _ _ _) => none
  | .error e => some (.file e)

/-- The error that discovery ends with at a path where a file may be. -/
def obstacle? (d : Disk) (p : Path) : Option Error :=
  match d.isFile p with
  | .error e => some (.file e)
  | .ok true => escape? d p
  | .ok false => none

/-- The error that discovery from a path ends with before it looks for files. -/
def startFault? (d : Disk) (p : Path) : Option Error :=
  match startOf d p with
  | .error e => some (.file e)
  | .ok _ => none

/-- The paths in a directory where settings are looked for. -/
def candidatesIn (directory : Location) : List Path :=
  [projectName, ownName].map (Disk.pathOf directory).child

/-- The paths where settings are looked for from a directory on, those of the nearest first. -/
def candidatesFrom (d : Disk) (directory : Location) : List Path :=
  (throughRoot d directory.inits.reverse).flatMap candidatesIn

/-! ## Discovery -/

/-- What any work on a log gives. -/
abbrev Tells {α : Type} (work : LogM α) (a : α) : Prop :=
  Gives (fun _ => True) work a

/-- How work on a log ends, whatever the log. -/
abbrev EndsAs {α : Type} (work : LogM α) (r : Except Error α) : Prop :=
  Ends (fun _ => True) work r

theorem endsAs_note (record : Log.Record) : EndsAs (note record) (barring none ()) :=
  ends_modify fun _ _ => trivial

theorem tells_note (record : Log.Record) : Tells (note record) () :=
  (endsAs_note record).gives

theorem endsAs_readTable (d : Disk) (p : Path) :
    EndsAs (readTable d p) (barring (escape? d p) (tableIn d p)) := by
  unfold readTable escape? tableIn
  cases d.readText p with
  | ok text =>
    simp only
    cases Toml.parse d.halves text with
    | ok table => exact ends_pure table
    | error e =>
      cases e with
      | breakdown b => exact ends_throw _ _
      | _ => exact (endsAs_note _).bind fun _ => ends_pure []
  | error e =>
    cases e with
    | refused => exact (endsAs_note _).bind fun _ => ends_pure []
    | _ => exact ends_throw _ _

theorem tells_readTable (d : Disk) (p : Path) : Tells (readTable d p) (tableIn d p) :=
  (endsAs_readTable d p).gives

theorem endsAs_inspect (d : Disk) (directory : Location) (name : String) :
    EndsAs (inspect d directory name)
      (barring (obstacle? d ((Disk.pathOf directory).child name))
        ((sheetAt? d directory name).map fun sheet =>
          ((Disk.pathOf directory).child name, sheet.isRoot))) := by
  have hname : ((Disk.pathOf directory).child name).name = name := by
    simp [Path.child, Path.name]
  unfold inspect obstacle? sheetAt?
  dsimp only
  cases d.isFile ((Disk.pathOf directory).child name) with
  | error e => exact ends_throw_bind (Error.file e) _
  | ok isFile =>
    refine (ends_pure isFile).bind fun _ => ?_
    cases isFile with
    | false => exact ends_pure none
    | true =>
      have hread := endsAs_readTable d ((Disk.pathOf directory).child name)
      simp only [if_true, sheetIn?, hname, Option.map_map]
      rw [← Option.or_none (o := escape? _ _)]
      exact hread.bind fun _ => ends_pure _

theorem upwardFrom_eq (names : List String) : upwardFrom names = names.reverse.inits.reverse := by
  induction names with
  | nil => rfl
  | cons name above ih => simp [upwardFrom, ih, List.inits_append]

theorem throughRoot_cons (d : Disk) (directory : Location) (above : List Location) :
    throughRoot d (directory :: above) =
      if (sheetsOf d directory).any Sheet.isRoot then [directory]
      else directory :: throughRoot d above := by
  rw [throughRoot, List.findIdx_cons]
  cases (sheetsOf d directory).any Sheet.isRoot <;> rfl

theorem endsAs_discoverIn (d : Disk) (directories : List Location) :
    EndsAs (discoverIn d directories)
      (barring (((throughRoot d directories).flatMap candidatesIn).findSome? (obstacle? d))
        (((throughRoot d directories).reverse.flatMap (sheetsOf d)).filterMap Sheet.file)) := by
  induction directories with
  | nil => exact ends_pure []
  | cons directory above ih =>
    let found (name : String) := (sheetAt? d directory name).map fun sheet =>
      ((Disk.pathOf directory).child name, sheet.isRoot)
    have hfile (name : String) : (found name).toList.map Prod.fst =
        (sheetAt? d directory name).toList.filterMap Sheet.file := by
      cases h : sheetAt? d directory name with
      | none => simp [found, h]
      | some sheet => simp [found, h, (sheetAt?_eq_some h).1]
    have hroot (name : String) : (found name).toList.any Prod.snd =
        (sheetAt? d directory name).toList.any Sheet.isRoot := by
      cases h : sheetAt? d directory name <;> simp [found, h]
    have hfiles : ((found projectName).toList ++ (found ownName).toList).map Prod.fst =
        (sheetsOf d directory).filterMap Sheet.file := by
      rw [sheetsOf_eq, List.map_append, List.filterMap_append, hfile, hfile]
    have hroots : ((found projectName).toList ++ (found ownName).toList).any Prod.snd =
        (sheetsOf d directory).any Sheet.isRoot := by
      rw [sheetsOf_eq, List.any_append, List.any_append, hroot, hroot]
    have hbars : (candidatesIn directory).findSome? (obstacle? d) =
        (obstacle? d ((Disk.pathOf directory).child projectName)).or
          (obstacle? d ((Disk.pathOf directory).child ownName)) := by
      simp only [candidatesIn, List.map_cons, List.map_nil, List.findSome?_cons, List.findSome?_nil]
      cases obstacle? d ((Disk.pathOf directory).child projectName) <;>
        cases obstacle? d ((Disk.pathOf directory).child ownName) <;> rfl
    simp only [found] at hfiles hroots
    rw [throughRoot_cons]
    cases hany : (sheetsOf d directory).any Sheet.isRoot with
    | true =>
      simp only [if_true, List.reverse_singleton, List.flatMap_singleton, hbars]
      refine (endsAs_inspect d directory projectName).bind fun _ => ?_
      rw [← Option.or_none (o := obstacle? d _)]
      refine (endsAs_inspect d directory ownName).bind fun _ => ?_
      simp only [hfiles, hroots, hany, if_true]
      exact ends_pure _
    | false =>
      simp only [Bool.false_eq_true, if_false, List.flatMap_cons, List.findSome?_append, hbars,
        Option.or_assoc, List.reverse_cons, List.flatMap_append, List.flatMap_nil, List.append_nil,
        List.filterMap_append]
      refine (endsAs_inspect d directory projectName).bind fun _ =>
        (endsAs_inspect d directory ownName).bind fun _ => ?_
      simp only [hfiles, hroots, hany, Bool.false_eq_true, if_false]
      rw [← Option.or_none (o := List.findSome? _ _)]
      exact ih.bind fun _ => ends_pure _

/-- **Discovery gives the files of the sheets that hold**, unless the path cannot be looked up or
something is in the way at one of the paths where settings are looked for. -/
theorem endsAs_discover (d : Disk) (p : Path) :
    EndsAs (discover d p)
      (barring ((startFault? d p).or ((candidatesFrom d (startIn d p)).findSome? (obstacle? d)))
        ((sheetsFrom d (startIn d p)).filterMap Sheet.file)) := by
  have hstart {location : Location} (h : startOf d p = .ok location) :
      startIn d p = location := by
    unfold startOf at h
    unfold startIn
    cases hc : d.complete p with
    | error e => simp [hc] at h
    | ok location' =>
      simp only [hc] at h
      cases hf : d.isFile (Disk.pathOf location') with
      | error e => simp [hf, Except.map] at h
      | ok isFile => cases isFile <;> simpa [hf, Except.map, Except.toOption] using h
  unfold discover startFault?
  cases h : startOf d p with
  | error e => exact ends_throw_bind (Error.file e) _
  | ok location =>
    refine (ends_pure location).bind fun _ => ?_
    rw [hstart h, upward, upwardFrom_eq, List.reverse_reverse]
    exact endsAs_discoverIn d _

theorem tells_discover (d : Disk) (p : Path) :
    Tells (discover d p) ((sheetsFrom d (startIn d p)).filterMap Sheet.file) :=
  (endsAs_discover d p).gives

end SampleTypes.Settings
