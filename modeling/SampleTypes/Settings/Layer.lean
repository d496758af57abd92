/-
One layer of settings: values that a file or the command line gives, any of which may be left out,
and what was found wrong with it. Layers are merged from the lowest to the highest: a later layer
wins where it gives a value.

`merge_assoc`, `merge_empty` and `empty_merge` say that merging is a monoid.
-/
import SampleTypes.Diagnostic
import SampleTypes.OrderedMap
import SampleTypes.Path
import SampleTypes.Text.Quoted

namespace SampleTypes.Settings

/-! ## Where settings come from -/

/-- A source of settings. -/
inductive Source where
  /-- The settings that hold without any others. -/
  | defaults
  | file (path : Path)
  | commandLine
  deriving DecidableEq, Repr

/-- The name of a source in messages. -/
def Source.name : Source → String
  | .defaults => "<defaults>"
  | .file path => path.text
  | .commandLine => "<CLI overrides>"

/-- The types whose Haskell names can be set. -/
inductive TypeSlot where
  | text
  | number
  | boolean
  | null
  | unknown
  deriving DecidableEq, Repr

namespace TypeSlot

/-- All slots in the order of their table. -/
def all : List TypeSlot := [.text, .number, .boolean, .null, .unknown]

/-- The key of a slot in its table. -/
def key : TypeSlot → String
  | .text => "text"
  | .number => "number"
  | .boolean => "bool"
  | .null => "null"
  | .unknown => "unknown"

/-- The slot of a key. -/
def ofKey? (key : String) : Option TypeSlot :=
  all.find? (fun slot => slot.key == key)

end TypeSlot

/-! ## Findings -/

/-- What is wrong with a value in a table, or what was done about it. -/
inductive Problem where
  /-- A value that has to be a string is not; its kind is named. -/
  | notString (sect key kind : String)
  /-- A value that has to be true or false is not; it is shown. -/
  | notBoolean (sect key shown : String)
  | badRootName (name : String)
  | emptyType (key : String)
  | unknownType (key : String)
  | badModulePrefix (name : String)
  /-- An extension that no file name can end in; its value is shown. -/
  | badExtension (shown : String)
  deriving DecidableEq, Repr

/-- The words for a problem. -/
def Problem.message : Problem → String
  | .notString sect key kind => "[" ++ sect ++ "] " ++ key ++ " must be a string, got " ++ kind
  | .notBoolean sect key shown => "[" ++ sect ++ "] " ++ key ++ " must be a boolean, got " ++ shown
  | .badRootName name =>
    "[inference] root_name " ++ Text.quoted name ++ " is not a valid type name"
  | .emptyType key => "[types] " ++ key ++ " must not be empty"
  | .unknownType key => "[types] unknown key " ++ Text.quoted key ++ " ignored"
  | .badModulePrefix name =>
    "[output] namespace " ++ Text.quoted name ++ " is not a dotted module prefix"
  | .badExtension shown => "[output] extension " ++ shown ++ " is invalid"

/-- Something wrong with the settings; none of it stops a run. -/
inductive Finding where
  /-- A problem in a table, with the name of its source. -/
  | inTable (source : String) (problem : Problem)
  /-- A file that was named does not hold settings. -/
  | noSection (path : Path)
  /-- A root name from the command line is no type name. -/
  | badRootOption (name : String)
  /-- A module prefix from the command line is none. -/
  | badPrefixOption (name : String)
  deriving DecidableEq, Repr

/-- The words for a finding. -/
def Finding.message : Finding → String
  | .inTable source problem => source ++ ": " ++ problem.message
  | .noSection path => path.text ++ ": no [tool.shapegen] section found, file ignored"
  | .badRootOption name =>
    "--root-name " ++ Text.quoted name ++ " is not a valid type name; ignored"
  | .badPrefixOption name =>
    "--namespace " ++ Text.quoted name ++ " is not a dotted module prefix; ignored"

/-- The finding as it is reported: a warning. -/
def Finding.diagnostic (f : Finding) : Diagnostic :=
  ⟨.warning, f.message⟩

/-! ## Layers -/

/-- A layer of settings; what is `none` is not set by it. -/
structure Layer where
  verbosity : Option Int := none
  /-- Files are written, not only compared. -/
  applyChanges : Option Bool := none
  /-- The name of the record of the document. -/
  rootName : Option String := none
  /-- The document itself is declared, not only its members. -/
  declareRoot : Option Bool := none
  /-- Arrays of scalars have the type of the scalar. -/
  scalarSequences : Option Bool := none
  typeNames : OrderedMap TypeSlot String := .empty
  sampleComments : Option Bool := none
  /-- What the names of generated modules start with. -/
  modulePrefix : Option String := none
  extension : Option String := none
  outputDir : Option Path := none
  /-- The sources that were merged, in order. -/
  sources : List Source := []
  findings : List Finding := []
  deriving DecidableEq

namespace Layer

/-- The layer that sets nothing. -/
def empty : Layer := {}

/-- The values of `high` where it sets them, and those of `low` elsewhere. -/
def merge (low high : Layer) : Layer where
  verbosity := high.verbosity.or low.verbosity
  applyChanges := high.applyChanges.or low.applyChanges
  rootName := high.rootName.or low.rootName
  declareRoot := high.declareRoot.or low.declareRoot
  scalarSequences := high.scalarSequences.or low.scalarSequences
  typeNames := low.typeNames.overlay high.typeNames
  sampleComments := high.sampleComments.or low.sampleComments
  modulePrefix := high.modulePrefix.or low.modulePrefix
  extension := high.extension.or low.extension
  outputDir := high.outputDir.or low.outputDir
  sources := low.sources ++ high.sources
  findings := low.findings ++ high.findings

theorem merge_assoc (a b c : Layer) : (a.merge b).merge c = a.merge (b.merge c) := by
  simp [merge, OrderedMap.overlay_assoc, Option.or_assoc]

theorem merge_empty (l : Layer) : l.merge empty = l := by
  simp [merge, empty, OrderedMap.overlay_empty]

theorem empty_merge (l : Layer) : empty.merge l = l := by
  simp [merge, empty, OrderedMap.empty_overlay]

end Layer

end SampleTypes.Settings
