/-
Reading a layer of settings from a table. Every value of the wrong kind, and every name that cannot
be used, is reported and left unset; an extension that has no text is left unset without a word.
Unknown tables are passed over.
-/
import SampleTypes.Naming
import SampleTypes.ModuleName
import SampleTypes.Settings.Layer
import SampleTypes.Text.Blank
import SampleTypes.Toml.Value

namespace SampleTypes.Settings

open Toml (Members)

/-! ## Values of a table -/

/-- A table in a table; empty if there is none under the key. -/
def subtable (table : Members) (key : String) : Members :=
  match table.get? key with
  | some (.table _ members) => members
  | _ => []

/-- A value as a string: strings as they are, numbers and truth values as they are displayed. -/
def stringOf? (table : Members) (key : String) : Option String :=
  match table.get? key with
  | some (.string s) => some s
  | some (.int n) => some (Toml.Value.int n).display
  | some (.float x) => some (Toml.Value.float x).display
  | some (.bool b) => some (Toml.Value.bool b).display
  | _ => none

/-- A value as a truth value: a whole number is true unless it is zero. -/
def boolOf? (table : Members) (key : String) : Option Bool :=
  match table.get? key with
  | some (.bool b) => some b
  | some (.int n) => some (n != 0)
  | _ => none

/-! ## Reading with problems -/

/-- A setting that was read: its value, if it is usable, and the problems. -/
structure Reading (α : Type) where
  value : Option α := none
  problems : List Problem := []

/-- A string under a key. -/
def readString (table : Members) (sect key : String) : Reading String :=
  match table.get? key with
  | none => {}
  | some (.string s) => { value := some s }
  | some v => { problems := [.notString sect key v.kindName] }

/-- A truth value under a key. -/
def readBool (table : Members) (sect key : String) : Reading Bool :=
  match table.get? key with
  | none => {}
  | some v =>
    match boolOf? table key with
    | some b => { value := some b }
    | none => { problems := [.notBoolean sect key v.display] }

/-- Keeps a value that is usable; any other is a problem. -/
def Reading.require {α : Type} (r : Reading α) (usable : α → Bool) (problem : α → Problem) :
    Reading α :=
  match r.value with
  | none => r
  | some a => if usable a then r else { problems := r.problems ++ [problem a] }

/-- The name of the document's record. -/
def readRootName (inference : Members) : Reading String :=
  (readString inference "inference" "root_name").require isTypeName .badRootName

/-- The Haskell name of a type. -/
def readTypeName (types : Members) (slot : TypeSlot) : Reading String :=
  (readString types "types" slot.key).require (fun s => !Text.isAllBlank s)
    (fun _ => .emptyType slot.key)

/-- The keys of the table of types that are not keys of slots. -/
def unknownTypes (types : Members) : List Problem :=
  (types.filter (fun p => (TypeSlot.ofKey? p.1).isNone)).map (fun p => .unknownType p.1)

/-- What the names of generated modules start with. -/
def readModulePrefix (output : Members) : Reading String :=
  (readString output "output" "namespace").require isModulePrefix .badModulePrefix

/-- An extension that a file name can end in. -/
def isExtension (extension : String) : Bool :=
  extension != "" && !('/' ∈ extension.toList)

/-- The extension of generated files. -/
def readExtension (output : Members) : Reading String :=
  match stringOf? output "extension" with
  | none => {}
  | some s =>
    let bare := ModuleName.bareExtension s
    if isExtension bare then { value := some bare }
    else
      { problems := [.badExtension (((output.get? "extension").map Toml.Value.display).getD "")] }

/-- The directory of generated files, as seen from the directory of the file that names it. -/
def readOutputDir (file : Option Path) (output : Members) : Reading Path :=
  let r := readString output "output" "directory"
  { value := r.value.map (fun s => (file.map Path.parent).getD .here ++ Path.ofText s)
    problems := r.problems }

/-! ## The layer of a table -/

/-- The layer that a table gives; `file` is where the table stands, if it stands in a file. -/
def Layer.ofTable (file : Option Path) (table : Members) : Layer :=
  let inference := subtable table "inference"
  let types := subtable table "types"
  let formatting := subtable table "formatting"
  let output := subtable table "output"
  let rootName := readRootName inference
  let declareRoot := readBool inference "inference" "declare_root"
  let scalarSequences := readBool inference "inference" "scalar_sequences"
  let typeNames := TypeSlot.all.map (fun slot => (slot, readTypeName types slot))
  let sampleComments := readBool formatting "formatting" "sample_comments"
  let modulePrefix := readModulePrefix output
  let extension := readExtension output
  let outputDir := readOutputDir file output
  let problems :=
    rootName.problems ++ declareRoot.problems ++ scalarSequences.problems ++
      typeNames.flatMap (fun p => p.2.problems) ++ unknownTypes types ++
      sampleComments.problems ++ modulePrefix.problems ++ extension.problems ++ outputDir.problems
  let source := ((file.map Source.file).getD .defaults).name
  { rootName := rootName.value
    declareRoot := declareRoot.value
    scalarSequences := scalarSequences.value
    typeNames := .ofPairs (typeNames.filterMap (fun p => p.2.value.map (p.1, ·)))
    sampleComments := sampleComments.value
    modulePrefix := modulePrefix.value
    extension := extension.value
    outputDir := outputDir.value
    findings := problems.map (.inTable source) }

/-- A layer that says which source it comes from. -/
def Layer.from (l : Layer) (source : Source) : Layer :=
  { l with sources := [source] }

end SampleTypes.Settings
