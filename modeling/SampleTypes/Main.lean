/-
The program on real files. What a run can look at is read first: the paths on the command line, the
settings files that may hold for them, and the file of the module. Then the run is computed, and
what it changed is written.
-/
import SampleTypes.CommandLine.Program

namespace SampleTypes.Main

open Files

/-! ## Reading the disk -/

/-- The number of the error of reading a directory. -/
def directoryCode : UInt32 := 21

/-- What is at a location. Permission bits are not read: a file that is overwritten keeps them. -/
def probe (location : Location) : IO (Option Node) := do
  try
    let bytes ← IO.FS.readBinFile (Disk.pathOf location).text
    return some (.file bytes.toList 0o644)
  catch
    | .inappropriateType _ code _ => return if code = directoryCode then some .directory else none
    | _ => return none

/-- Adds what is at a location, and at those above it, to a disk. -/
def addLocation (disk : Disk) (location : Location) : IO Disk :=
  (Settings.upward location).reverse.foldlM (fun disk location => do
    if location = [] ∨ (disk.node? location).isSome then return disk
    else
      match ← probe location with
      | some node => return disk.put location node
      | none => return disk) disk

/-- The texts in a word that may be paths: the word, what follows `=`, and what follows a letter
behind a dash. -/
def pathTexts (word : String) : List String :=
  let (_, value) := CommandLine.splitValue word.toList
  word :: value.toList ++ (if CommandLine.isOption word then [String.ofList (word.toList.drop 2)] else [])

/-- The locations that matter to a path: itself, and settings files in all directories above it. -/
def locationsOf (disk : Disk) (path : Path) : List Location :=
  match disk.complete path with
  | .error _ => []
  | .ok location =>
    location :: (Settings.upward location).flatMap (fun directory =>
      [directory ++ [Settings.projectName], directory ++ [Settings.ownName]])

/-- Adds what a path can lead a run to. -/
def addPath (disk : Disk) (path : Path) : IO Disk :=
  (locationsOf disk path).foldlM addLocation disk

/-! ## Writing the disk -/

/-- Writes what was changed at a location. A new file is written beside its place and moved there. -/
def store (token : String) (before : Disk) (location : Location) (node : Node) : IO Unit := do
  let path := Disk.pathOf location
  match node, before.node? location with
  | .directory, some .directory => pure ()
  | .directory, _ => IO.FS.createDirAll path.text
  | .file bytes _, some (.file old _) =>
    if bytes != old then IO.FS.writeBinFile path.text ⟨bytes.toArray⟩
  | .file bytes _, _ =>
    let beside := path.parent.child ("." ++ path.name ++ "." ++ token ++ ".tmp")
    IO.FS.writeBinFile beside.text ⟨bytes.toArray⟩
    IO.FS.rename beside.text path.text

/-- Writes what was changed. -/
def storeAll (before after : Disk) : IO Unit :=
  after.nodes.forM (fun (location, node) => store before.token before location node)

/-! ## The run -/

/-- All bytes of a stream. -/
partial def readAll (stream : IO.FS.Stream) (bytes : ByteArray) : IO ByteArray := do
  let more ← stream.read 65536
  if more.isEmpty then return bytes else readAll stream (bytes ++ more)

/-- Text that names temporary files. -/
def newToken : IO String := do
  let n ← IO.rand 0 0xffffffff
  return Text.padStart 8 (String.ofList (Nat.toDigits 16 n)) |>.replace " " "0"

/-- The request that the surroundings of the program make. -/
def readRequest (arguments : List String) : IO CommandLine.Request := do
  let output ← IO.getStdout
  let input ←
    if CommandLine.RunM.inputWord ∈ arguments then readAll (← IO.getStdin) .empty else pure .empty
  return {
    arguments := arguments
    input := input.toList
    environment := {
      forceColour := ← IO.getEnv "FORCE_COLOR"
      noColour := ← IO.getEnv "NO_COLOR"
      logLevel := ← IO.getEnv "SHAPEGEN_LOG_LEVEL"
      isTerminal := ← output.isTty } }

/-- The part of the disk that a request can lead a run to. -/
def readDisk (request : CommandLine.Request) : IO Disk := do
  let here := (Path.ofText (← IO.currentDir).toString).segments
  let empty : Disk := {
    nodes := []
    workingDirectory := here
    mask := 0o022
    token := ← newToken }
  let paths := Path.here :: (request.arguments.flatMap pathTexts).map Path.ofText
  let disk := (← paths.foldlM addPath empty).withFreeHalves request.input
  match CommandLine.moduleFile? disk request with
  | none => return disk
  | some path => return (← addPath disk path).withFreeHalves request.input

/-- Runs the program. -/
def run (arguments : List String) : IO UInt32 := do
  let request ← readRequest arguments
  let disk ← readDisk request
  let outcome := CommandLine.run disk request
  storeAll disk outcome.disk
  (← IO.getStdout).putStr outcome.output
  (← IO.getStderr).putStr outcome.errors
  match outcome.crash with
  | none => pure ()
  | some crash => (← IO.getStderr).putStrLn ("Error: " ++ crash.message)
  return outcome.exitCode.toUInt32

end SampleTypes.Main

def main (arguments : List String) : IO UInt32 :=
  SampleTypes.Main.run arguments
