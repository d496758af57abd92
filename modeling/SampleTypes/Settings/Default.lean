/-
The settings that hold without any others: the settings file that declares them, with its comments,
and the table it holds.
-/
import SampleTypes.Settings.Basic
import SampleTypes.Settings.FromTable

namespace SampleTypes.Settings

/-- The text of the settings file with all settings at their usual values. -/
def defaultText : String :=
  Text.unlines [
    "# ShapeGen default configuration.",
    "#",
    "# Copy this file to \x60shapegen.toml\x60 next to your sample documents, or put the",
    "# tables under \x60[tool.shapegen]\x60 in \x60pyproject.toml\x60.",
    "",
    "[inference]",
    "# Name of the record declared for the top-level document.",
    "root_name = \"Root\"",
    "# Declare the top-level document itself (false: only declare its members).",
    "declare_root = true",
    "# Let arrays of scalars resolve to a list of the scalar type instead of the",
    "# unknown placeholder.",
    "scalar_sequences = false",
    "",
    "[types]",
    "# Haskell type expressions used for the JSON primitives.",
    "text = \"BS.ByteString\"",
    "number = \"Double\"",
    "bool = \"Bool\"",
    "null = \"Maybe a\"",
    "# Placeholder for shapes that could not be resolved (needs manual correction).",
    "unknown = \"UNKNOWN\"",
    "",
    "[formatting]",
    "# Append the sample string as a trailing comment after text fields.",
    "sample_comments = true",
    "",
    "[output]",
    "# Module namespace prefix for generated modules.",
    "namespace = \"Generated\"",
    "# Extension of generated source files.",
    "extension = \"hs\"",
    "# Directory that receives generated module trees (relative to this file).",
    "directory = \".\""]

/-- The table of that file. -/
def defaultTable : Toml.Members :=
  [("inference", .table false [
      ("root_name", .string "Root"),
      ("declare_root", .bool true),
      ("scalar_sequences", .bool false)]),
    ("types", .table false [
      ("text", .string "BS.ByteString"),
      ("number", .string "Double"),
      ("bool", .string "Bool"),
      ("null", .string "Maybe a"),
      ("unknown", .string "UNKNOWN")]),
    ("formatting", .table false [("sample_comments", .bool true)]),
    ("output", .table false [
      ("namespace", .string "Generated"),
      ("extension", .string "hs"),
      ("directory", .string ".")])]

/-- The lowest layer of all. -/
def Layer.default : Layer :=
  (Layer.ofTable none defaultTable).from .defaults

/-- The settings that a table gives over the default ones. -/
def ofTable (table : Toml.Members) : Settings :=
  ofLayer (Layer.default.merge (Layer.ofTable none table))

/-- The settings that hold without any others. -/
def default : Settings :=
  ofLayer Layer.default

end SampleTypes.Settings
