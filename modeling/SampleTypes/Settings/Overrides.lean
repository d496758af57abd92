/-
Settings from the command line, which override all others. A name that cannot be used is reported
and leaves the setting as it is.
-/
import SampleTypes.Settings.FromTable

namespace SampleTypes.Settings

/-- The settings that a command line can give. -/
structure Overrides where
  verbosity : Option Int := none
  applyChanges : Option Bool := none
  rootName : Option String := none
  declareRoot : Option Bool := none
  scalarSequences : Option Bool := none
  sampleComments : Option Bool := none
  modulePrefix : Option String := none
  extension : Option String := none
  /-- The directory of generated files, as a complete path. -/
  outputDir : Option Path := none

/-- A finding about an option, if it was given and is not usable. -/
def misuse (usable : String → Bool) (finding : String → Finding) : Option String → List Finding
  | none => []
  | some s => if usable s then [] else [finding s]

/-- An extension without dots in front; none if nothing is left of it. -/
def givenExtension? (extension : String) : Option String :=
  let bare := ModuleName.bareExtension extension
  if bare = "" then none else some bare

/-- A layer with the settings of the command line over its own. -/
def Layer.override (l : Layer) (o : Overrides) : Layer :=
  { l with
    verbosity := o.verbosity.or l.verbosity
    applyChanges := o.applyChanges.or l.applyChanges
    rootName := (o.rootName.filter isTypeName).or l.rootName
    declareRoot := o.declareRoot.or l.declareRoot
    scalarSequences := o.scalarSequences.or l.scalarSequences
    sampleComments := o.sampleComments.or l.sampleComments
    modulePrefix := (o.modulePrefix.filter isModulePrefix).or l.modulePrefix
    extension := (o.extension.bind givenExtension?).or l.extension
    outputDir := o.outputDir.or l.outputDir
    sources := l.sources ++ [.commandLine]
    findings :=
      l.findings ++ misuse isTypeName .badRootOption o.rootName ++
        misuse isModulePrefix .badPrefixOption o.modulePrefix }

end SampleTypes.Settings
