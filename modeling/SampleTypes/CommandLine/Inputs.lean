/-
What a command works with: the settings that hold for it, the document, and the document's schema.
-/
import SampleTypes.CommandLine.Session
import SampleTypes.Generation
import SampleTypes.Settings.Load
import SampleTypes.Settings.Overrides

namespace SampleTypes.CommandLine

/-! ## Settings -/

/-- What the options of a command say about settings. -/
structure Arguments where
  verbosity : Option Int := none
  applyChanges : Option Bool := none
  rootName : Option String := none
  /-- The document itself is not declared. -/
  noRoot : Bool := false
  scalarSequences : Option Bool := none
  sampleComments : Option Bool := none
  modulePrefix : Option String := none
  outputDir : Option String := none

namespace Arguments

/-- The options of a command that are about settings. -/
def ofOptions (options : Parsed Key) : Arguments where
  applyChanges := if options.has .apply then some true else none
  rootName := options.text? .rootName
  noRoot := options.has .noRoot
  scalarSequences := options.switch? .scalarSequences
  sampleComments := options.switch? .sampleComments
  modulePrefix := options.text? .modulePrefix
  outputDir := options.text? .outputDir

/-- The settings that are overridden; the directory is given as a complete path. -/
def overrides (a : Arguments) (outputDir : Option Path) : Settings.Overrides where
  verbosity := a.verbosity
  applyChanges := a.applyChanges
  rootName := a.rootName
  declareRoot := if a.noRoot then some false else none
  scalarSequences := a.scalarSequences
  sampleComments := a.sampleComments
  modulePrefix := a.modulePrefix
  outputDir := outputDir

end Arguments

namespace RunM

/-- A named settings file, if it is there and holds a table. -/
def settingsFile (text : String) : RunM Path := do
  let p := Path.ofText text
  if ← ask (·.isFile p) then
    let disk := (← get).disk
    match disk.readText p with
    | .ok text =>
      match Toml.parse disk.halves text with
      | .ok _ => return p
      | .error (.breakdown b) => throw (.crashed (.settingsFile b))
      | .error reason => throw (.failed (.badSettingsFile p reason))
    | .error e =>
      match e with
      | .refused _ _ _ => throw (.failed (.unreadableSettingsFile p e))
      | e => throw (.crashed (.file e))
  else throw (.failed (.noSettingsFile p))

/-- The directory for generated modules, if it is given. -/
def outputDir (text : Option String) : RunM (Option Path) := do
  match text with
  | none => return none
  | some text => return some (Files.Disk.pathOf (← ask (·.complete (Path.ofText text))))

/-- The settings that hold for a place: those of the merged layers, and over them the arguments. -/
def resolve (anchor : Option Path) (discovers : Bool) (named : List String) (a : Arguments) :
    RunM Settings := do
  let named ← named.mapM settingsFile
  let disk := (← get).disk
  let layer ← logged (Settings.loadMerged disk anchor discovers named)
  let outputDir ← outputDir a.outputDir
  return Settings.ofLayer (layer.override (a.overrides outputDir))

/-- The settings of a command. -/
def settings (options : Parsed Key) (anchor : Option Path) : RunM Settings :=
  resolve anchor (!options.has .noConfig) (options.texts .config) (.ofOptions options)

/-- Makes the verbosity that of the settings, if they give one, and reports what was found wrong
with them. -/
def adopt (settings : Settings) : RunM Unit := do
  modify (fun s => { s with verbosity := effectiveVerbosity s.verbosity settings.verbosity })
  report settings.diagnostics

/-! ## Documents -/

/-- The word for standard input in the place of a file. -/
def inputWord : String := "-"

/-- Where settings are looked for: at the document, if it is a file. -/
def anchorOf (source : String) : Option Path :=
  if source = inputWord then none else some (Path.ofText source)

/-- The document of standard input. -/
def inputDocument (input : List UInt8) : RunM Value := do
  match Files.Disk.textOf input with
  | .error e => throw (.crashed (.file e))
  | .ok text =>
    match Document.ofText (← get).disk.halves text with
    | .ok document => return document
    | .error (.numberTooLong digits) => throw (.crashed (.numberTooLong digits))
    | .error e => throw (.failed (.badDocument true e))

/-- The document of a file. -/
def fileDocument (p : Path) : RunM Value := do
  if ← ask (·.exists? p) then
    match Document.ofFile (← get).disk p with
    | .ok document => return document
    | .error (.numberTooLong digits) => throw (.crashed (.numberTooLong digits))
    | .error (.invalid origin fault position) =>
      throw (.failed (.badDocument false (.invalid origin fault position)))
    | .error (.unreadable _ .nullCharacter) => throw (.crashed (.file .nullCharacter))
    | .error (.unreadable p reason) => throw (.failed (.unreadableDocument (.unreadable p reason)))
  else throw (.failed (.noDocument p))

/-- The document that is named on the command line. -/
def document (input : List UInt8) (source : String) : RunM Value :=
  if source = inputWord then inputDocument input else fileDocument (Path.ofText source)

/-- The schema of a document; dropped declarations are logged. -/
def schema (settings : Settings) (document : Value) : RunM Schema := do
  match Schema.ofDocument settings document with
  | .error reason => throw (.crashed (.schema reason))
  | .ok schema =>
    (schema.findings.filter Schema.Finding.isCollision).forM (fun finding =>
      log (.warning finding.message))
    return schema

end RunM

end SampleTypes.CommandLine
