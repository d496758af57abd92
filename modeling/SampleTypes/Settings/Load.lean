/-
The layers of settings that hold for a run, merged: the default ones, those of the files that are
discovered, and those of the files that are named, each over those before it.
-/
import SampleTypes.Settings.Default
import SampleTypes.Settings.Discovery

namespace SampleTypes.Settings

open Files

/-- The layer of a file; none if the file has a part for settings and the part is empty. -/
def readLayer (d : Disk) (p : Path) : LogM (Option Layer) := do
  let table ← readTable d p
  match settingsPart? p.name table with
  | none => return none
  | some part =>
    let layer := Layer.ofTable (some p) part
    layer.findings.forM (fun finding => note (.warning finding.message))
    return some (layer.from (.file p))

/-- Merges the layer of a discovered file. -/
def mergeFound (d : Disk) (below : Layer) (p : Path) : LogM Layer := do
  match ← readLayer d p with
  | none => return below
  | some layer => return below.merge layer

/-- Merges the layer of a named file; it is reported if it holds no settings. -/
def mergeNamed (d : Disk) (below : Layer) (p : Path) : LogM Layer := do
  match ← readLayer d p with
  | none => return { below with findings := below.findings ++ [.noSection p] }
  | some layer => return below.merge layer

/-- The merged layers for a place; without one, for the working directory. -/
def loadMerged (d : Disk) (anchor : Option Path) (discovers : Bool) (named : List Path) :
    LogM Layer := do
  let found ←
    if discovers then discover d (anchor.getD (Disk.pathOf d.workingDirectory)) else pure []
  let merged ← found.foldlM (mergeFound d) Layer.default
  named.foldlM (mergeNamed d) merged

end SampleTypes.Settings
