/-
The settings of a run: a layer with every open setting decided. They can be taken apart into a
layer again, and into the table that a settings file would hold.
-/
import SampleTypes.Haskell.TypeNames
import SampleTypes.Settings.Layer
import SampleTypes.Survey
import SampleTypes.Toml.Value

namespace SampleTypes

/-- The settings of a run. -/
structure Settings where
  verbosity : Option Int
  applyChanges : Option Bool
  rootName : String
  declareRoot : Bool
  scalarSequences : Bool
  typeNames : Haskell.TypeNames
  modulePrefix : String
  extension : String
  outputDir : Path
  sources : List Settings.Source
  findings : List Settings.Finding
  deriving DecidableEq

namespace Settings

/-- The Haskell type names of a layer; those it does not set are the usual ones. -/
def Layer.haskellNames (l : Layer) : Haskell.TypeNames :=
  let usual : Haskell.TypeNames := {}
  { text := (l.typeNames.get? .text).getD usual.text
    number := (l.typeNames.get? .number).getD usual.number
    boolean := (l.typeNames.get? .boolean).getD usual.boolean
    null := (l.typeNames.get? .null).getD usual.null
    unknown := (l.typeNames.get? .unknown).getD usual.unknown
    sampleComments := l.sampleComments.getD usual.sampleComments }

/-- Decides every setting that a layer leaves open. -/
def ofLayer (l : Layer) : Settings where
  verbosity := l.verbosity
  applyChanges := l.applyChanges
  rootName := l.rootName.getD "Root"
  declareRoot := l.declareRoot.getD true
  scalarSequences := l.scalarSequences.getD false
  typeNames := l.haskellNames
  modulePrefix := l.modulePrefix.getD "Generated"
  extension := l.extension.getD "hs"
  outputDir := l.outputDir.getD .here
  sources := l.sources
  findings := l.findings

/-- The name of a type by its slot. -/
def nameOf (names : Haskell.TypeNames) : TypeSlot → String
  | .text => names.text
  | .number => names.number
  | .boolean => names.boolean
  | .null => names.null
  | .unknown => names.unknown

/-- The layer that sets everything as it is. -/
def toLayer (s : Settings) : Layer where
  verbosity := s.verbosity
  applyChanges := s.applyChanges
  rootName := some s.rootName
  declareRoot := some s.declareRoot
  scalarSequences := some s.scalarSequences
  typeNames := .ofPairs (TypeSlot.all.map (fun slot => (slot, nameOf s.typeNames slot)))
  sampleComments := some s.typeNames.sampleComments
  modulePrefix := some s.modulePrefix
  extension := some s.extension
  outputDir := some s.outputDir
  sources := s.sources
  findings := s.findings

/-- The table of a settings file that sets everything as it is. -/
def toTable (s : Settings) : Toml.Members :=
  [("inference", .table false [
      ("root_name", .string s.rootName),
      ("declare_root", .bool s.declareRoot),
      ("scalar_sequences", .bool s.scalarSequences)]),
    ("types", .table false
      (TypeSlot.all.map (fun slot => (slot.key, .string (nameOf s.typeNames slot))))),
    ("formatting", .table false [("sample_comments", .bool s.typeNames.sampleComments)]),
    ("output", .table false [
      ("namespace", .string s.modulePrefix),
      ("extension", .string s.extension),
      ("directory", .string s.outputDir.text)])]

/-- How arrays get their types. -/
def elementPolicy (s : Settings) : Survey.ElementPolicy :=
  if s.scalarSequences then .objectsAndScalars else .objects

/-- The findings as they are reported. -/
def diagnostics (s : Settings) : List Diagnostic :=
  s.findings.map Finding.diagnostic

theorem ofLayer_toLayer (s : Settings) : ofLayer s.toLayer = s := by
  obtain ⟨_, _, _, _, _, names, _, _, _, _, _⟩ := s
  cases names
  simp [ofLayer, toLayer, Layer.haskellNames, TypeSlot.all, OrderedMap.ofPairs, OrderedMap.get?,
    Assoc.setAll, Assoc.set, Assoc.get?, nameOf]

end Settings

end SampleTypes
