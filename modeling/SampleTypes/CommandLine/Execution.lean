/-
What the commands do.
-/
import SampleTypes.CommandLine.Inputs
import SampleTypes.Json.Printer
import SampleTypes.Output.Delivery
import SampleTypes.Patch.Coloured
import SampleTypes.Report.Markdown
import SampleTypes.Report.Summary
import SampleTypes.Toml.Nesting
import SampleTypes.Toml.Printer

namespace SampleTypes.CommandLine.RunM

/-- The form of output that is asked for. -/
def format (options : Parsed Key) : Format :=
  ((options.text? .format).bind Format.words.find?).getD .default

/-! ## Inference -/

/-- Prints the declarations of a document. In the form for programs, diagnostics are part of the
result; else they are reported after it. -/
def infer (input : List UInt8) (options : Parsed Key) (source : String) : RunM Unit := do
  let settings ← settings options (anchorOf source)
  adopt settings
  let document ← document input source
  let schema ← schema settings document
  match format options with
  | .json => printLine (Json.printIndented (Report.Summary.ofSchema schema))
  | .markdown =>
    match Report.Markdown.ofSchema settings.typeNames schema with
    | .ok text => print text
    | .error .rowTooLong => pure ()
    report schema.diagnostics
  | .default =>
    if 0 < (← get).verbosity then
      printLine (← emphasized [.dim] ("-- inferred from " ++ source))
    print (Haskell.Rendered.source (schema.rendered settings))
    report schema.diagnostics

/-! ## Generation -/

/-- The options that name the module. -/
def namingOptions (options : Parsed Key) : List String :=
  [("--module", Key.moduleName), ("--doc-url", .docUrl), ("--doc-path", .docPath)].filterMap
    (fun (name, key) => (ModuleName.given? (options.text? key)).map (fun _ => name))

/-- Refuses options that exclude each other. -/
def checkExclusive (options : Parsed Key) : RunM Unit := do
  let naming := namingOptions options
  if 1 < naming.length then throw (.failed (.exclusive naming))
  if options.has .toOutput && options.has .apply then
    throw (.failed (.exclusive ["--stdout", "--apply"]))

/-- The name of the module: from the options, and else from the name of the document's file. -/
def moduleName (settings : Settings) (options : Parsed Key) (source : String) : RunM String := do
  let explicit := options.text? .moduleName
  let url := options.text? .docUrl
  let derived :=
    if (ModuleName.given? explicit).isSome || (ModuleName.given? url).isSome then none
    else ModuleName.docPathOfSource source
  let path := (ModuleName.given? (options.text? .docPath)).or derived
  match ModuleName.choose settings { path := path, url := url, explicit := explicit } with
  | .ok name => return name
  | .error reason => throw (.crashed (.address reason))

/-- Ends the run when the file of a module cannot be read or written. -/
def fileFailure (target : Output.Target) (e : Files.Error) : Stop :=
  match e with
  | .undecodable _ => .failed (.unreadableTarget target.path e)
  | .refused _ _ _ => .failed (.unwritableTarget target.path e)
  | .nullCharacter => .crashed (.file e)

/-- Prints the patch from the file of a module as it is. -/
def showPatch (target : Output.Target) : RunM Unit := do
  let s ← get
  match target.patch s.disk with
  | .error e => throw (fileFailure target e)
  | .ok patch =>
    requireBytes patch
    print (if s.isColoured then Patch.coloured patch else patch)

/-- Work on the file of a module; the run ends if it fails. -/
def onFile {α : Type} (target : Output.Target) (work : Files.FileM α) : RunM α := do
  match ← attempt work with
  | .error e => throw (fileFailure target e)
  | .ok a => return a

/-- Hands a module that has no bytes to a sink. No file holds its text. The directories for it are
made before the bytes are asked for. -/
def handUnencodable (target : Output.Target) (e : Text.EncodeError) :
    Output.Sink → RunM Output.Receipt
  | .nowhere => do
    let _ ← onFile target (Files.Change.ask target.existing?)
    return { status := .wouldWrite }
  | .standardOutput => throw (.crashed (.unencodable e))
  | .files => do
    let _ ← onFile target (Files.Change.ask target.existing?)
    onFile target (Files.Change.makeDirectories Files.noFaults target.path.parent)
    throw (.crashed (.unencodable e))

/-- Hands a module to a sink. -/
def hand (target : Output.Target) (sink : Output.Sink) : RunM Output.Receipt := do
  match (← get).disk.halves.encode target.text with
  | .ok _ => onFile target (Output.deliver target sink)
  | .error e => handUnencodable target e sink

/-- Hands a module to a sink and logs the outcome. -/
def deliver (target : Output.Target) (sink : Output.Sink) : RunM Output.Receipt := do
  let receipt ← hand target sink
  print receipt.printed
  log (receipt.record target)
  return receipt

/-- The line that tells what became of a module. -/
def receiptLine (target : Output.Target) (receipt : Output.Receipt) : String :=
  target.path.text ++ ": " ++ receipt.status.words ++ " (" ++ target.moduleName ++ ")"

/-- Tells what became of a module. A run that would have changed a file has an exit code of its
own. -/
def reportReceipt (target : Output.Target) (receipt : Output.Receipt) : RunM Unit := do
  let verbosity := (← get).verbosity
  if 0 ≤ verbosity then
    let line := receiptLine target receipt
    requireBytes line
    printLine (← painted receipt.status.looks line)
  if receipt.status = .wouldWrite then
    if 0 < verbosity then printLine "Run again with --apply to write the module."
    throw (.done 2)

/-- The settings for generating a module, and the module with the file it belongs in. Everything is
read that the module is made from, and all diagnostics are reported. -/
def prepare (input : List UInt8) (options : Parsed Key) (source : String) :
    RunM (Settings × Output.Target) := do
  checkExclusive options
  let settings ← settings options (anchorOf source)
  adopt settings
  let document ← document input source
  let name ← moduleName settings options source
  let schema ← schema settings document
  report schema.diagnostics
  return (settings, schema.target settings name)

/-- Generates the module of a document. -/
def generate (input : List UInt8) (options : Parsed Key) (source : String) : RunM Unit := do
  let (settings, target) ← prepare input options source
  let toOutput := options.has .toOutput
  if options.has .patch && !toOutput then showPatch target
  let receipt ← deliver target (.select settings.applyChanges toOutput)
  if toOutput then pure () else reportReceipt target receipt

/-! ## Settings -/

/-- Prints the settings that hold, as a settings file. -/
def dumpConfig (options : Parsed Key) : RunM Unit := do
  let settings ← settings options ((options.text? .anchor).map Path.ofText)
  adopt settings
  if 0 < (← get).verbosity then
    let sources := Text.join ", " (settings.sources.map Settings.Source.name)
    printLine (← emphasized [.dim] ("# Sources: " ++ sources))
  printLine "# === BEGIN ==="
  match Toml.print settings.toTable with
  | .ok text => print text
  | .error reason => throw (.crashed (.unwritableSettings reason))
  printLine "# === END ==="

/-- The table of a project file that holds settings. -/
def projectSection : String := "tool.shapegen"

/-- Prints a settings file to start from. -/
def initConfig (options : Parsed Key) : RunM Unit :=
  if options.has .project then
    match Toml.nest projectSection Settings.defaultText with
    | .ok text => print text
    | .error reason => throw (.crashed (.unnestedSettings reason))
  else print Settings.defaultText

/-! ## Version -/

/-- Prints the version of the program. -/
def version (options : Parsed Key) : RunM Unit := do
  match format options with
  | .json => printLine (Json.print (.object [("version", .string programVersion)]))
  | .markdown =>
    printLine "# ShapeGen Version\n"
    printLine ("**ShapeGen version: " ++ programVersion ++ "**")
  | .default =>
    let text ← emphasized [.bold] programVersion
    if 0 < (← get).verbosity then
      printLine (← emphasized [.bold, .underline] "ShapeGen version:\n")
      printLine ("    " ++ text)
    else printLine text

end SampleTypes.CommandLine.RunM
