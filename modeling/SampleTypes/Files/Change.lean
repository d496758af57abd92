/-
Changes of a disk, one step at a time. A step either succeeds or says why not; what earlier steps
changed stays changed. Any step can be made to fail, so that it can be said what a failure leaves
behind.
-/
import SampleTypes.Files.Disk

namespace SampleTypes.Files

/-- Work on a disk that may fail. -/
abbrev FileM := ExceptT Error (StateM Disk)

/-- A step of placing a file. -/
inductive Step where
  | readTarget
  /-- A directory is tried once more when those above it were made. -/
  | makeDirectory (path : Path) (again : Bool)
  | createTemporary
  | writeTemporary
  | setMode
  | replaceTarget
  deriving DecidableEq, Repr

/-- The steps that fail whatever the disk holds. -/
abbrev Faults := Step → Option Cause

/-- No step fails of itself. -/
def noFaults : Faults := fun _ => none

namespace Change

/-- What the disk says. -/
def ask {α : Type} (question : Disk → Except Error α) : FileM α := do
  ofExcept (question (← get))
where
  /-- A value or an error as work. -/
  ofExcept : Except Error α → FileM α
    | .ok a => pure a
    | .error e => throw e

/-- Fails if the step is made to. -/
def check (faults : Faults) (step : Step) (p : Path) (target : Option Path) : FileM Unit :=
  match faults step with
  | none => pure ()
  | some cause => throw (.refused cause p target)

/-! ## Directories -/

/-- Makes a directory in one that is there. -/
def makeDirectory (faults : Faults) (p : Path) (again : Bool) : FileM Unit := do
  check faults (.makeDirectory p again) p none
  let location ← ask (·.locate p)
  let d ← get
  match d.node? location with
  | some _ => throw (Disk.refuse p .exists)
  | none => set (d.put location .directory)

/-- Goes on after a refusal if the path leads to a directory. -/
def unlessDirectory (p : Path) (e : Error) : FileM Unit := do
  match e with
  | .refused .missing _ _ => throw e
  | .refused _ _ _ => if ← ask (·.isDirectory p) then pure () else throw e
  | e => throw e

/-- Makes a directory with all that are missing above it; the names are the last one first. -/
def makeDirectoriesFrom (faults : Faults) (root : Path.Root) : List String → FileM Unit
  | [] => tryCatch (makeDirectory faults ⟨root, []⟩ false) (unlessDirectory ⟨root, []⟩)
  | name :: above =>
    let p : Path := ⟨root, (name :: above).reverse⟩
    tryCatch (makeDirectory faults p false) (fun e =>
      match e with
      | .refused .missing _ _ => do
        makeDirectoriesFrom faults root above
        tryCatch (makeDirectory faults p true) (unlessDirectory p)
      | e => unlessDirectory p e)

/-- Makes a directory with all that are missing above it. -/
def makeDirectories (faults : Faults) (p : Path) : FileM Unit :=
  makeDirectoriesFrom faults p.root p.segments.reverse

/-! ## Files -/

/-- The permission bits of a file while it is written. -/
def privateMode : Nat := 0o600

/-- Makes an empty file where nothing is, and says where. -/
def createFile (p : Path) : FileM Location := do
  let location ← ask (·.locate p)
  let d ← get
  match d.node? location with
  | some _ => throw (Disk.refuse p .exists)
  | none =>
    set (d.put location (.file [] privateMode))
    return location

/-- A path ends in a name of its own, which a file can get. -/
def endsInName (p : Path) : Bool :=
  p.segments.getLast?.any (· != "..")

/-- Moves a file to the place that a path leads to, over a file that is there. -/
def moveFile (location : Location) (p target : Path) : FileM Unit := do
  let d ← get
  match d.locate target with
  | .error (.refused cause _ _) => throw (.refused cause p (some target))
  | .error e => throw e
  | .ok place =>
    if endsInName target then
      match d.node? place, d.node? location with
      | some .directory, _ => throw (.refused .isDirectory p (some target))
      | _, some node => set ((d.put place node).remove location)
      | _, none => throw (.refused .missing p (some target))
    else throw (.refused .busy p (some target))

/-- The permission bits with which a path is written: those it has, or those of a new file. -/
def modeFor (d : Disk) (p : Path) : Except Error Nat :=
  match d.look p with
  | .error e => .error e
  | .ok (some (.file _ mode)) => .ok mode
  | .ok (some .directory) => .ok 0o755
  | .ok none => .ok (0o666 - (0o666 &&& d.mask))

/-- The name of the file that is written before it takes the place of another. -/
def temporaryName (d : Disk) (name : String) : String :=
  "." ++ name ++ "." ++ d.token ++ ".tmp"

/-- Writes a file in full and then moves it to its place. -/
def fillAndMove (faults : Faults) (location : Location) (temporary p : Path) (bytes : List UInt8)
    (mode : Nat) : FileM Unit := do
  check faults .writeTemporary temporary none
  modify (·.put location (.file bytes privateMode))
  check faults .setMode temporary none
  modify (·.put location (.file bytes mode))
  check faults .replaceTarget temporary (some p)
  moveFile location temporary p

/-- Takes away what is at a location if work fails. -/
def orRemove (location : Location) (work : FileM Unit) : FileM Unit :=
  tryCatch work (fun e => do
    modify (·.remove location)
    throw e)

/-- Writes a file in full beside its place and then moves it there. If any of that fails, what was
written is taken away again. -/
def replaceFile (faults : Faults) (p : Path) (bytes : List UInt8) : FileM Unit := do
  makeDirectories faults p.parent
  let mode ← ask (modeFor · p)
  let beside ← ask (·.complete p.parent)
  let temporary := (Disk.pathOf beside).child (temporaryName (← get) p.name)
  check faults .createTemporary temporary none
  let location ← createFile temporary
  orRemove location (fillAndMove faults location temporary p bytes mode)

end Change

end SampleTypes.Files
