/-
What a table says about each setting. A value under the key of a setting is accepted or it is not
(`Field.accept?`); if it is, it is the value of the setting, and if it is not, there is one finding
about it and the setting stays open (`read_eq`). An extension that has no text at all is the one
exception: nothing is said of it.
-/
import SampleTypes.Proofs.Settings.Field
import SampleTypes.Settings.FromTable

namespace SampleTypes

namespace Assoc

variable {κ ν : Type} [DecidableEq κ]

/-- Pairs for some of the keys give each key its own value. -/
theorem get?_filterMap_pair (f : κ → Option ν) (key : κ) (ks : List κ) :
    get? key (ks.filterMap fun k => (f k).map (k, ·)) = if key ∈ ks then f key else none := by
  induction ks with
  | nil => rfl
  | cons k rest ih =>
    by_cases hk : k = key
    · subst hk
      cases hf : f k with
      | none => simp [hf, ih]
      | some v => simp [hf, get?]
    · cases hf : f k with
      | none => simp [hf, ih, Ne.symm hk]
      | some v => simp [hf, ih, get?, hk, Ne.symm hk]

omit [DecidableEq κ] in
theorem keys_filterMap_pair_sublist (f : κ → Option ν) (ks : List κ) :
    (keys (ks.filterMap fun k => (f k).map (k, ·))).Sublist ks := by
  induction ks with
  | nil => exact .slnil
  | cons k rest ih =>
    cases hf : f k with
    | none => simpa [hf] using ih.cons k
    | some v => simpa [hf, keys] using ih

end Assoc

namespace Settings

open Toml (Members)

namespace Field

variable {α : Type}

/-! ## Values -/

/-- The section of a settings file that a setting stands in. -/
def sect : Field α → String
  | .rootName | .declareRoot | .scalarSequences => "inference"
  | .typeName _ => "types"
  | .sampleComments => "formatting"
  | .modulePrefix | .extension | .outputDir => "output"

/-- The key of a setting in its section. -/
def key : Field α → String
  | .rootName => "root_name"
  | .declareRoot => "declare_root"
  | .scalarSequences => "scalar_sequences"
  | .typeName slot => slot.key
  | .sampleComments => "sample_comments"
  | .modulePrefix => "namespace"
  | .extension => "extension"
  | .outputDir => "directory"

/-- The value that a table holds for a setting. -/
def written? (f : Field α) (table : Members) : Option Toml.Value :=
  (subtable table f.sect).get? f.key

/-- A value that is a string. -/
def text? : Toml.Value → Option String
  | .string s => some s
  | _ => none

/-- A value that is true or false; whole numbers are, too. -/
def truth? : Toml.Value → Option Bool
  | .bool b => some b
  | .int n => some (n != 0)
  | _ => none

/-- A string, or a value that is written as one. -/
def shown? : Toml.Value → Option String
  | .string s => some s
  | .bool b => some (Toml.Value.bool b).display
  | .int n => some (Toml.Value.int n).display
  | .float x => some (Toml.Value.float x).display
  | .null | .date _ | .time _ | .moment _ | .array _ | .table _ _ => none

/-- The value of a setting that a value in a table stands for, if it is usable. A directory is seen
from that of the file. -/
def accept? (file : Option Path) : Field α → Toml.Value → Option α
  | .rootName, v => (text? v).filter isTypeName
  | .declareRoot, v | .scalarSequences, v | .sampleComments, v => truth? v
  | .typeName _, v => (text? v).filter (fun s => !Text.isAllBlank s)
  | .modulePrefix, v => (text? v).filter isModulePrefix
  | .extension, v => ((shown? v).map ModuleName.bareExtension).filter isExtension
  | .outputDir, v => (text? v).map (fun s => (file.map Path.parent).getD .here ++ Path.ofText s)

/-- What is wrong with a value that is not usable. -/
def complaint : Field α → Toml.Value → Problem
  | .rootName, .string s => .badRootName s
  | .typeName slot, .string _ => .emptyType slot.key
  | .modulePrefix, .string s => .badModulePrefix s
  | .extension, v => .badExtension v.display
  | f@.declareRoot, v | f@.scalarSequences, v | f@.sampleComments, v =>
    .notBoolean f.sect f.key v.display
  | f, v => .notString f.sect f.key v.kindName

/-- A value that is passed over in silence: an extension that has no text. -/
def passesOver : Field α → Toml.Value → Bool
  | .extension, v => (shown? v).isNone
  | _, _ => false

/-! ## Reading -/

/-- A setting as it is read from a table. -/
def read (file : Option Path) (table : Members) : Field α → Reading α
  | .rootName => readRootName (subtable table "inference")
  | .declareRoot => readBool (subtable table "inference") "inference" "declare_root"
  | .scalarSequences => readBool (subtable table "inference") "inference" "scalar_sequences"
  | .typeName slot => readTypeName (subtable table "types") slot
  | .sampleComments => readBool (subtable table "formatting") "formatting" "sample_comments"
  | .modulePrefix => readModulePrefix (subtable table "output")
  | .extension => readExtension (subtable table "output")
  | .outputDir => readOutputDir file (subtable table "output")

end Field

theorem readBool_eq (table : Members) (sect key : String) :
    readBool table sect key = match table.get? key with
      | none => {}
      | some v =>
        match Field.truth? v with
        | some b => { value := some b }
        | none => { problems := [.notBoolean sect key v.display] } := by
  unfold readBool boolOf?
  cases table.get? key with
  | none => rfl
  | some v => cases v <;> rfl

/-- A string under a key that has to be usable. -/
theorem require_readString_eq (table : Members) (sect key : String) (usable : String → Bool)
    (problem : String → Problem) :
    (readString table sect key).require usable problem = match table.get? key with
      | none => {}
      | some v =>
        { value := (Field.text? v).filter usable
          problems :=
            if ((Field.text? v).filter usable).isSome then []
            else [((Field.text? v).map problem).getD (.notString sect key v.kindName)] } := by
  unfold readString
  cases table.get? key with
  | none => rfl
  | some v =>
    cases v with
    | string s => cases h : usable s <;> simp [Reading.require, Field.text?, Option.filter, h]
    | _ => rfl

theorem readExtension_eq (table : Members) :
    readExtension table = match table.get? "extension" with
      | none => {}
      | some v =>
        match Field.shown? v with
        | none => {}
        | some s =>
          if isExtension (ModuleName.bareExtension s) then
            { value := some (ModuleName.bareExtension s) }
          else { problems := [.badExtension v.display] } := by
  unfold readExtension stringOf?
  cases table.get? "extension" with
  | none => rfl
  | some v => cases v <;> rfl

namespace Field

variable {α : Type}

/-- **A value is taken or complained about, and not both.** -/
theorem read_eq (file : Option Path) (table : Members) (f : Field α) :
    f.read file table = match f.written? table with
      | none => {}
      | some v =>
        { value := f.accept? file v
          problems :=
            if (f.accept? file v).isSome || f.passesOver v then [] else [f.complaint v] } := by
  cases f with
  | rootName =>
    simp only [read, readRootName, require_readString_eq, written?, sect, key]
    cases (subtable table "inference").get? "root_name" with
    | none => rfl
    | some v => cases v <;> simp [accept?, text?, passesOver, complaint, sect, key]
  | declareRoot | scalarSequences | sampleComments =>
    simp only [read, readBool_eq, written?, sect, key]
    cases (subtable table _).get? _ with
    | none => rfl
    | some v => cases h : truth? v <;> simp [accept?, passesOver, complaint, h, sect, key]
  | typeName slot =>
    simp only [read, readTypeName, require_readString_eq, written?, sect, key]
    cases (subtable table "types").get? slot.key with
    | none => rfl
    | some v => cases v <;> simp [accept?, text?, passesOver, complaint, sect, key]
  | modulePrefix =>
    simp only [read, readModulePrefix, require_readString_eq, written?, sect, key]
    cases (subtable table "output").get? "namespace" with
    | none => rfl
    | some v => cases v <;> simp [accept?, text?, passesOver, complaint, sect, key]
  | extension =>
    simp only [read, readExtension_eq, written?, sect, key]
    cases (subtable table "output").get? "extension" with
    | none => rfl
    | some v =>
      cases hs : shown? v with
      | none => simp [accept?, passesOver, hs]
      | some s =>
        cases h : isExtension (ModuleName.bareExtension s) <;>
          simp [accept?, Option.filter, passesOver, complaint, hs, h]
  | outputDir =>
    simp only [read, readOutputDir, readString, written?, sect, key]
    cases (subtable table "output").get? "directory" with
    | none => rfl
    | some v => cases v <;> rfl

end Field

end Settings

end SampleTypes
