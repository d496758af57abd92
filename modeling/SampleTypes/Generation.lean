/-
From a document to source text, as the settings say: its schema, the rendered declarations, and the
module that holds them.
-/
import SampleTypes.Haskell.Module
import SampleTypes.ModuleName
import SampleTypes.Output.Target
import SampleTypes.Schema
import SampleTypes.Settings.Basic

namespace SampleTypes

/-- The schema of a document. -/
def Schema.ofDocument (s : Settings) (document : Value) : Except Schema.Error Schema :=
  Schema.ofSurvey (Survey.ofDocument s.rootName s.declareRoot document) s.elementPolicy

/-- The declarations of a schema in Haskell. -/
def Schema.rendered (s : Settings) (schema : Schema) : List Haskell.Rendered :=
  schema.declarations.map (Haskell.render s.typeNames)

/-- The module of a schema, below the output directory. -/
def Schema.target (s : Settings) (moduleName : String) (schema : Schema) : Output.Target :=
  Output.Target.below s.outputDir s.extension moduleName
    (Haskell.Module.ofDeclarations s.typeNames moduleName schema.declarations).text

namespace ModuleName

/-- What a module can be named after. -/
structure Origins where
  path : Option String := none
  url : Option String := none
  /-- The name itself. -/
  explicit : Option String := none

/-- A text that is given and not empty. -/
def given? (s : Option String) : Option String :=
  s.filter (· != "")

/-- The name of a module: as it is given, else made from the address of the documentation, else from
its path, else from the name of the document's record. -/
def choose (s : Settings) (origins : Origins) : Except Url.Error String :=
  match given? origins.explicit, given? origins.url, given? origins.path with
  | some name, _, _ => .ok name
  | none, some url, _ => ofUrl s.modulePrefix url
  | none, none, some path => .ok (ofPath s.modulePrefix path)
  | none, none, none => .ok (ofSegments [s.modulePrefix, s.rootName])

end ModuleName

end SampleTypes
