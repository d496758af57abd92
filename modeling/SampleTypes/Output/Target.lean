/-
A generated module and the file it belongs in: below the output directory, along the segments of
its name.
-/
import SampleTypes.Files.Disk
import SampleTypes.ModuleName
import SampleTypes.Patch.Hunk

namespace SampleTypes.Output

/-- The source of a module and where it belongs. -/
structure Target where
  moduleName : String
  path : Path
  text : String
  deriving DecidableEq, Repr

namespace Target

/-- A module below a directory. -/
def below (directory : Path) (extension moduleName text : String) : Target where
  moduleName := moduleName
  path := directory ++ ModuleName.filePath moduleName extension
  text := text

open Files

/-- The text that is in the file now; none if there is no file. -/
def existing? (t : Target) (d : Disk) : Except Error (Option String) :=
  match d.isFile t.path with
  | .error e => .error e
  | .ok false => .ok none
  | .ok true => (d.readText t.path).map some

/-- The file has to be made or changed. -/
def wouldChange (t : Target) (d : Disk) : Except Error Bool :=
  (t.existing? d).map (· != some t.text)

/-- The patch from the file as it is to the module; a file that is not there counts as empty. -/
def patch (t : Target) (d : Disk) : Except Error String :=
  (t.existing? d).map (fun text =>
    Patch.patchText (t.path.text ++ " (current)") (t.path.text ++ " (generated)")
      (text.getD "") t.text)

end Target

end SampleTypes.Output
