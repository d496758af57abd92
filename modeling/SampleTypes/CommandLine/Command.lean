/-
The commands and their options.
-/
import SampleTypes.CommandLine.Option

namespace SampleTypes.CommandLine

/-! ## Options -/

/-- The options of all commands. -/
inductive Key where
  | quiet
  | verbose
  | noColour
  | colour
  | help
  | config
  | noConfig
  | rootName
  | noRoot
  | scalarSequences
  | sampleComments
  | modulePrefix
  | outputDir
  | format
  | moduleName
  | docUrl
  | docPath
  | apply
  | toOutput
  | patch
  | anchor
  | project
  deriving DecidableEq, Repr

namespace Key

/-- The option that shows the help of a command. -/
def helpSpec : OptionSpec Key where
  key := .help
  names := ["-h", "--help"]
  help := "Show this message and exit."

/-- The options that come before a command. -/
def general : List (OptionSpec Key) := [
  { key := .quiet
    names := ["-q", "--quiet"]
    help := "Reduce program output (suppress diagnostics on stderr)." },
  { key := .verbose
    names := ["-v", "--verbose"]
    help := "Increase program output (banners, per-module status)." },
  { key := .noColour
    names := ["--no-color"]
    help := "Disable color output (equivalent to --color=never)." },
  { key := .colour
    names := ["--color"]
    placeholder := some "COLORMODE"
    help := "Color output: auto (default), always, or never." },
  helpSpec]

/-- The options that name settings files. -/
def sources : List (OptionSpec Key) := [
  { key := .noConfig
    names := ["--no-config"]
    help := "Do not discover shapegen.toml / pyproject.toml next to the input." },
  { key := .config
    names := ["--config", "-c"]
    placeholder := some "FILE"
    help := "Merge this TOML config file (shapegen.toml or pyproject.toml); repeatable." }]

/-- The options for inference and for the types in the source. -/
def inference : List (OptionSpec Key) := [
  { key := .sampleComments
    names := ["--sample-comments"]
    contraryNames := ["--no-sample-comments"]
    help := "Annotate text fields with the sample string." },
  { key := .scalarSequences
    names := ["--scalar-sequences"]
    contraryNames := ["--strict-sequences"]
    help := "Let arrays of scalars resolve to a list of the scalar type." },
  { key := .noRoot
    names := ["--no-root"]
    help := "Do not declare the top-level document; declare only its members." },
  { key := .rootName
    names := ["--root-name"]
    placeholder := some "TEXT"
    help := "Name of the record declared for the top-level document." }]

/-- The options for the place of generated modules. -/
def output : List (OptionSpec Key) := [
  { key := .outputDir
    names := ["--output-dir", "-o"]
    placeholder := some "DIRECTORY"
    help := "Directory receiving generated module trees." },
  { key := .modulePrefix
    names := ["--namespace"]
    placeholder := some "TEXT"
    help := "Module namespace prefix (e.g. 'Data.FreeAgent'; empty for none)." }]

/-- The option for the form of the output. -/
def formatSpec : OptionSpec Key where
  key := .format
  names := ["--format"]
  placeholder := some "OUTPUTFORMAT"
  help := "Output format (default, json, markdown)."

/-- The options for generating a module. -/
def generation : List (OptionSpec Key) := [
  { key := .moduleName
    names := ["--module"]
    placeholder := some "TEXT"
    help := "Explicit module name." },
  { key := .docUrl
    names := ["--doc-url"]
    placeholder := some "TEXT"
    help := "Derive the module name from a documentation URL." },
  { key := .docPath
    names := ["--doc-path"]
    placeholder := some "TEXT"
    help := "Derive the module name from a documentation path." },
  { key := .apply
    names := ["--apply"]
    help := "Write the generated module." },
  { key := .toOutput
    names := ["--stdout"]
    help := "Print the module instead of writing." },
  { key := .patch
    names := ["--diff"]
    help := "Show a unified diff against the target." }]

end Key

/-! ## Commands -/

/-- The commands. -/
inductive Command where
  | infer
  | generate
  | dumpConfig
  | initConfig
  | version
  deriving DecidableEq, Repr

namespace Command

/-- All commands in the order of their names. -/
def all : List Command := [.dumpConfig, .generate, .infer, .initConfig, .version]

/-- The word for a command. -/
def name : Command → String
  | .infer => "infer"
  | .generate => "generate"
  | .dumpConfig => "dump-config"
  | .initConfig => "init-config"
  | .version => "version"

/-- The command of a word. -/
def ofName? (name : String) : Option Command :=
  all.find? (fun c => c.name == name)

/-- What a command does. -/
def help : Command → String
  | .infer => "Infer declarations from a JSON document (use '-' to read STDIN)."
  | .generate => "Generate a Haskell module from a JSON document (use '-' to read STDIN)."
  | .dumpConfig => "Dump the merged ShapeGen configuration as TOML."
  | .initConfig => "Print a starter ShapeGen configuration file."
  | .version => "Show the installed ShapeGen version."

/-- The options of a command. -/
def options : Command → List (OptionSpec Key)
  | .infer => Key.sources ++ Key.inference ++ [Key.formatSpec, Key.helpSpec]
  | .generate =>
    Key.generation ++ Key.sources ++ Key.inference ++ Key.output ++ [Key.helpSpec]
  | .dumpConfig =>
    { key := .anchor
      names := ["--anchor"]
      placeholder := some "PATH"
      help := "Start config discovery here instead of the current directory." } ::
      (Key.sources ++ Key.inference ++ Key.output ++ [Key.helpSpec])
  | .initConfig =>
    [{ key := .project
       names := ["--pyproject"]
       help := "Nest the configuration under [tool.shapegen] for pyproject.toml." },
      Key.helpSpec]
  | .version => [Key.formatSpec, Key.helpSpec]

/-- The command reads a document. -/
def readsDocument : Command → Bool
  | .infer | .generate => true
  | _ => false

end Command

/-- Stands for the document on a command line. -/
def documentPlaceholder : String := "JSON_FILE"

/-- The name of the program. -/
def programName : String := "shapegen"

/-- The version of the program. -/
def programVersion : String := "0.1.0"

/-- What the program does. -/
def programHelp : String :=
  "ShapeGen: infer Haskell records and FromJSON decoders from sample JSON."

/-- The command line without its options: of the program, or of one of its commands. -/
def commandPath : Option Command → String
  | none => programName
  | some c => programName ++ " " ++ c.name

/-- The line that shows how the program, or one of its commands, is used. -/
def usage (c : Option Command) : String :=
  "Usage: " ++ commandPath c ++ " [OPTIONS]" ++
    (match c with
    | none => " [COMMAND] [ARGS]..."
    | some c => if c.readsDocument then " " ++ documentPlaceholder else "")

/-- The line that points to the help. -/
def helpHint (c : Option Command) : String :=
  "Try '" ++ commandPath c ++ " --help' for help."

end SampleTypes.CommandLine
