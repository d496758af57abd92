/-
A complete Haskell module: language pragmas, the head with its export list, imports, every type,
and every decoder, with one blank line between blocks.
-/
import SampleTypes.Haskell.Declaration

namespace SampleTypes.Haskell

/-- A module: its name, the records it exports, and its declarations. -/
structure Module where
  name : String
  exports : List String
  typeTexts : List String
  decoderTexts : List String
  deriving DecidableEq, Repr

namespace Module

/-- The module of rendered declarations; only records are exported. -/
def ofRendered (name : String) (rendered : List Rendered) : Module where
  name := name
  exports := (rendered.filter Rendered.isRecord).map Rendered.name
  typeTexts := rendered.map Rendered.typeText
  decoderTexts := rendered.filterMap Rendered.decoderText

/-- The module of declarations. -/
def ofDeclarations (names : TypeNames) (name : String)
    (declarations : List (Declaration FieldType)) : Module :=
  ofRendered name (declarations.map (render names))

/-! ## Text -/

/-- The language extensions that the declarations need. -/
def extensions : List String :=
  ["DeriveDataTypeable", "OverloadedStrings"]

/-- One pragma for every extension, their ends one below the other. -/
def pragmaLines : List String :=
  extensions.map (fun e => "\x7b-# LANGUAGE " ++ Text.padEnd (longest extensions) e ++ " #-\x7d")

/-- The imports that the declarations need. -/
def importLines : List String :=
  ["import           Control.Applicative   (empty, (<$>), (<*>))",
    "import           Data.Aeson",
    "import qualified Data.ByteString       as BS",
    "import           Data.Data"]

/-- The export list of some records, each with all its fields. -/
def exportLines : List String → List String
  | [] => []
  | first :: rest =>
    ("    ( " ++ first ++ "(..)") :: rest.map (fun name => "    , " ++ name ++ "(..)") ++ ["    )"]

/-- The lines before the declarations. -/
def headLines (name : String) (exports : List String) : List String :=
  pragmaLines ++ ["", "module " ++ name] ++ exportLines exports ++
    [if exports.isEmpty then "  where" else "    where", ""] ++ importLines

/-- The source text of a module. -/
def text (m : Module) : String :=
  Text.join "\n"
    (Text.unlines (headLines m.name m.exports) :: m.typeTexts ++ m.decoderTexts)

end Module

end SampleTypes.Haskell
