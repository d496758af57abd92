/-
The program as a whole: it reads the command line, sets up the run, and does what the command says.
-/
import SampleTypes.CommandLine.Execution
import SampleTypes.CommandLine.Help

namespace SampleTypes.CommandLine

namespace RunM

/-! ## Options -/

/-- Refuses a value that is no word of a choice. -/
def checkWord {α : Type} (names : List String) (words : Words α) (text : Option String) :
    Except Mistake Unit :=
  match text with
  | none => .ok ()
  | some text =>
    if (words.find? text).isSome then .ok () else .error (.badValue names (words.refusal text))

/-- Refuses a directory in the place of a file. -/
def checkFile (disk : Files.Disk) (names : List String) (text : String) :
    Except Stop (Option Mistake) :=
  match disk.lookAt text with
  | .error e => .error (.crashed (.file e))
  | .ok (some .directory) =>
    .ok (some (.badValue names ("File " ++ Text.quoted text ++ " is a directory.")))
  | .ok _ => .ok none

/-- Refuses a file in the place of a directory. -/
def checkDirectory (disk : Files.Disk) (names : List String) (text : String) :
    Except Stop (Option Mistake) :=
  match disk.lookAt text with
  | .error e => .error (.crashed (.file e))
  | .ok (some (.file _ _)) =>
    .ok (some (.badValue names ("Directory " ++ Text.quoted text ++ " is a file.")))
  | .ok _ => .ok none

/-- Ends the run at a mistake in a command line. -/
def refuse {α : Type} (command : Option Command) (result : Except Mistake α) : RunM α :=
  match result with
  | .ok a => pure a
  | .error m => throw (.mistake command m)

/-- Ends the run at a path that cannot be used. -/
def refusePath (command : Option Command) (result : Except Stop (Option Mistake)) : RunM Unit :=
  match result with
  | .ok none => pure ()
  | .ok (some m) => throw (.mistake command m)
  | .error stop => throw stop

/-- Checks the values of an option. -/
def checkOption (command : Option Command) (options : Parsed Key) (key : Key) : RunM Unit := do
  let disk := (← get).disk
  match key with
  | .format => refuse command (checkWord ["--format"] Format.words (options.text? .format))
  | .colour => refuse command (checkWord ["--color"] ColourMode.words (options.text? .colour))
  | .config =>
    (options.texts .config).forM (fun text =>
      refusePath command (checkFile disk ["--config", "-c"] text))
  | .outputDir =>
    (options.text? .outputDir).forM (fun text =>
      refusePath command (checkDirectory disk ["--output-dir", "-o"] text))
  | .anchor => (options.text? .anchor).forM (fun text => do
      let _ ← ask (·.lookAt text))
  | _ => pure ()

/-- Reads the options and arguments of the program or of a command. Help is shown before anything
else is checked. -/
def readOptions (command : Option Command) (specs : List (OptionSpec Key)) (mixed : Bool)
    (words : List String) : RunM (Parsed Key) := do
  let options ← refuse command (parse specs mixed words)
  if options.has .help then
    printLine (Help.text command)
    throw (.done 0)
  options.order.forM (checkOption command options)
  return options

/-- The options before the command. -/
def readGeneral (words : List String) : RunM (Parsed Key) :=
  readOptions none Key.general false words

/-! ## Setting up -/

/-- The mode of colour that the options name. -/
def colourMode (options : Parsed Key) : Option ColourMode :=
  if options.has .noColour then some .never
  else (options.text? .colour).bind ColourMode.words.find?

/-- Decides how the run prints and what its log shows. -/
def begin (environment : Environment) (options : Parsed Key) : RunM Unit := do
  match verbosity? (options.count .verbose) (options.count .quiet) with
  | none => throw (.failed .contraryVerbosity)
  | some verbosity => modify (fun s => { s with verbosity := verbosity })
  match environment.logLevel with
  | none => pure ()
  | some text =>
    match Log.level? text with
    | .error reason => throw (.crashed (.logLevel reason))
    | .ok level => modify (fun s => { s with logLevel := level.getD Log.usualLevel })
  modify (fun s => { s with isColoured := isColoured environment (colourMode options) none })

/-! ## Commands -/

/-- What is printed when there is no command. -/
def noCommand : RunM Unit := do
  printLine "Hint: use 'shapegen infer SAMPLE.json' to print inferred declarations."
  printLine ""
  printLine (Help.text none)

/-- The document among the arguments of a command. -/
def documentArgument (command : Command) (arguments : List String) : RunM String :=
  match arguments with
  | [] => throw (.mistake (some command) (.missingArgument documentPlaceholder))
  | [source] => pure source
  | _ :: extra => throw (.mistake (some command) (.extraArguments extra))

/-- Refuses arguments of a command that has none. -/
def noArguments (command : Command) (arguments : List String) : RunM Unit :=
  if arguments.isEmpty then pure ()
  else throw (.mistake (some command) (.extraArguments arguments))

/-- Does what a command says. -/
def execute (request : Request) (command : Command) (words : List String) : RunM Unit := do
  let options ← readOptions (some command) command.options true words
  match command with
  | .infer => infer request.input options (← documentArgument command options.arguments)
  | .generate => generate request.input options (← documentArgument command options.arguments)
  | .dumpConfig =>
    noArguments command options.arguments
    dumpConfig options
  | .initConfig =>
    noArguments command options.arguments
    initConfig options
  | .version =>
    noArguments command options.arguments
    version options

/-- The whole program. -/
def program (request : Request) : RunM Unit := do
  let options ← readGeneral request.arguments
  match options.arguments with
  | [] =>
    begin request.environment options
    noCommand
  | word :: rest =>
    match Command.ofName? word with
    | some command =>
      begin request.environment options
      execute request command rest
    | none =>
      if isOption word then
        let _ ← readGeneral (word :: rest)
      throw (.mistake none (.noSuchCommand word))

/-- The file of the module that the program is to generate, if it is. -/
def moduleFile (request : Request) : RunM (Option Path) := do
  let options ← readGeneral request.arguments
  match options.arguments with
  | word :: rest =>
    if Command.ofName? word = some .generate then
      let options ← readOptions (some .generate) Command.generate.options true rest
      let source ← documentArgument .generate options.arguments
      return some (← prepare request.input options source).2.path
    else return none
  | [] => return none

end RunM

/-- Runs the program on a disk. -/
def run (disk : Files.Disk) (request : Request) : Outcome :=
  RunM.complete disk (RunM.program request)

/-- The file that a run would look at last, as far as can be told from what the disk holds. -/
def moduleFile? (disk : Files.Disk) (request : Request) : Option Path :=
  match (RunM.moduleFile request).run { disk := disk } with
  | (.ok path, _) => path
  | (.error _, _) => none

end SampleTypes.CommandLine
