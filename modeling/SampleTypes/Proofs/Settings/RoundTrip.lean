/-
Settings written as a settings file and read again. What a source is accepted for is in the form in
which it is written (`Field.accept?_write`); every layer that is reached by merging and overriding
has values of that form only (`usable_of_reached`), so the file that its settings are written to is
read without a finding and gives the same settings (`ofTable_toTable`).
-/
import Mathlib.Data.List.DropRight
import SampleTypes.Proofs.CommandLine.Precedence
import SampleTypes.Proofs.Path
import SampleTypes.Proofs.Settings.Reporting
import SampleTypes.Settings.Default

namespace SampleTypes.Settings

open Files
open Toml (Members)

variable {α : Type}

/-! ## Values that can be written -/

namespace Field

/-- A value in the form that reading gives it. -/
def Usable : Field α → α → Prop
  | .rootName, s => isTypeName s = true
  | .declareRoot, _ | .scalarSequences, _ | .sampleComments, _ => True
  | .typeName _, s => Text.isAllBlank s = false
  | .modulePrefix, s => isModulePrefix s = true
  | .extension, s => isExtension s = true ∧ ModuleName.bareExtension s = s
  | .outputDir, p => p.IsNormal

/-- A value as a settings file has it. -/
def write : Field α → α → Toml.Value
  | .rootName, s | .typeName _, s | .modulePrefix, s | .extension, s => .string s
  | .declareRoot, b | .scalarSequences, b | .sampleComments, b => .bool b
  | .outputDir, p => .string p.text

theorem bareExtension_idem (s : String) :
    ModuleName.bareExtension (ModuleName.bareExtension s) = ModuleName.bareExtension s := by
  simp only [ModuleName.bareExtension, String.toList_ofList, List.dropWhile_idempotent]

theorem usable_of_accept? {file : Option Path} (hfile : ∀ p ∈ file, p.IsNormal) {f : Field α}
    {v : Toml.Value} {a : α} (h : f.accept? file v = some a) : f.Usable a := by
  cases f with
  | declareRoot | scalarSequences | sampleComments => trivial
  | rootName | modulePrefix => exact (Option.filter_eq_some_iff.1 h).2
  | typeName slot => simpa [Usable] using (Option.filter_eq_some_iff.1 h).2
  | extension =>
    obtain ⟨hbare, hextension⟩ := Option.filter_eq_some_iff.1 h
    obtain ⟨s, -, rfl⟩ := Option.map_eq_some_iff.1 hbare
    exact ⟨hextension, bareExtension_idem s⟩
  | outputDir =>
    obtain ⟨s, -, rfl⟩ := Option.map_eq_some_iff.1 h
    refine Path.IsNormal.append ?_ (Path.isNormal_ofText s)
    cases file with
    | none => exact Path.isNormal_here
    | some p => exact (hfile p rfl).parent

/-- A value that is written is accepted as it is. -/
theorem accept?_write {f : Field α} {a : α} (h : f.Usable a) :
    f.accept? none (f.write a) = some a := by
  cases f with
  | declareRoot | scalarSequences | sampleComments => rfl
  | rootName | modulePrefix => simp [accept?, write, text?, Option.filter, show _ = true from h]
  | typeName slot => simp [accept?, write, text?, Option.filter, show _ = false from h]
  | extension => simp [accept?, write, shown?, Option.filter, h.1, h.2]
  | outputDir =>
    have hhere : Path.here ++ a = a := by
      obtain ⟨root, segments⟩ := a
      cases root <;> rfl
    show some (Path.here ++ Path.ofText a.text) = some a
    rw [Path.ofText_text h, hhere]

theorem written?_toTable (f : Field α) (s : Settings) :
    f.written? s.toTable = some (f.write (s.get f)) := by
  cases f with
  | typeName slot => cases slot <;> rfl
  | _ => rfl

end Field

/-! ## Reached layers -/

/-- All values of the layer are in the form that reading gives them. -/
def Layer.Usable (l : Layer) : Prop :=
  ∀ (α : Type) (f : Field α) (a : α), l.get? f = some a → f.Usable a

/-- A layer that is reached from the default one by merging tables and overriding by the command
line; names of directories have no slashes. -/
inductive Layer.Reached : Layer → Prop
  | default : Reached .default
  | merge {l : Layer} (h : Reached l) {file : Option Path} (hfile : ∀ p ∈ file, p.IsNormal)
      (table : Members) : Reached (l.merge (.ofTable file table))
  | override {l : Layer} (h : Reached l) {d : Disk}
      (hd : (Disk.pathOf d.workingDirectory).IsNormal) (a : CommandLine.Arguments) :
      Reached (l.override (a.overrides (a.directoryIn d)))

namespace Layer

/-- A table that no file holds can be merged. -/
theorem Reached.mergeTable {l : Layer} (h : l.Reached) (table : Members) :
    (l.merge (.ofTable none table)).Reached := by
  have hfile : ∀ p ∈ (none : Option Path), p.IsNormal := nofun
  exact h.merge hfile table

theorem usable_ofTable {file : Option Path} (hfile : ∀ p ∈ file, p.IsNormal) (table : Members) :
    (ofTable file table).Usable := by
  intro α f a h
  rw [get?_ofTable_eq_bind] at h
  obtain ⟨v, -, hv⟩ := Option.bind_eq_some_iff.1 h
  exact Field.usable_of_accept? hfile hv

theorem Usable.merge {low high : Layer} (hlow : low.Usable) (hhigh : high.Usable) :
    (low.merge high).Usable :=
  fun α f => forall_get?_merge (hlow α f) (hhigh α f)

theorem usable_overrides {d : Disk} (hd : (Disk.pathOf d.workingDirectory).IsNormal)
    (a : CommandLine.Arguments) : (a.overrides (a.directoryIn d)).layer.Usable := by
  intro α f v h
  rw [CommandLine.Arguments.get?_layer] at h
  cases f with
  | declareRoot | scalarSequences | sampleComments => trivial
  | typeName | extension => cases h
  | rootName | modulePrefix => exact (Option.filter_eq_some_iff.1 h).2
  | outputDir =>
    obtain ⟨text, -, htext⟩ := Option.bind_eq_some_iff.1 h
    cases hc : d.complete (Path.ofText text) with
    | error e =>
      rw [hc] at htext
      cases htext
    | ok location =>
      rw [hc] at htext
      obtain rfl := Option.some.inj htext
      exact Path.isNormal_complete hd (Path.isNormal_ofText text) hc

theorem usable_of_reached {l : Layer} (h : Reached l) : l.Usable := by
  induction h with
  | default =>
    have hfile : ∀ p ∈ (none : Option Path), p.IsNormal := nofun
    exact usable_ofTable hfile defaultTable
  | merge _ hfile table ih => exact ih.merge (usable_ofTable hfile table)
  | override _ hd a ih =>
    rw [override_eq_merge]
    exact ih.merge (usable_overrides hd a)

end Layer

/-- A setting that no layer gives is the same in all settings. -/
theorem get_ofLayer_of_none {l : Layer} {f : Field α} (h : l.get? f = none) :
    (ofLayer l).get f = (ofLayer .empty).get f := by
  cases f with
  | typeName slot =>
    cases slot <;> simp_all [Layer.get?, get, ofLayer, nameOf, Layer.haskellNames, Layer.empty,
      OrderedMap.get?, OrderedMap.empty]
  | _ => simp_all [Layer.get?, get, ofLayer, Layer.haskellNames, Layer.empty]

theorem usable_ofLayer_empty (f : Field α) : f.Usable ((ofLayer .empty).get f) := by
  cases f with
  | declareRoot | scalarSequences | sampleComments => trivial
  | rootName | modulePrefix => exact rfl
  | typeName slot => cases slot <;> exact rfl
  | extension => exact ⟨rfl, rfl⟩
  | outputDir => exact Path.isNormal_here

/-- Settings that are not given have usable values, too. -/
theorem usable_ofLayer {l : Layer} (h : l.Usable) (f : Field α) : f.Usable ((ofLayer l).get f) := by
  cases hget : l.get? f with
  | some a =>
    rw [get_ofLayer hget]
    exact h α f a hget
  | none =>
    rw [get_ofLayer_of_none hget]
    exact usable_ofLayer_empty f

/-! ## Writing and reading -/

theorem ofTable_toTable {s : Settings} (h : ∀ (α : Type) (f : Field α), f.Usable (s.get f)) :
    (Layer.ofTable none s.toTable).findings = [] ∧
    ∀ {α : Type} (f : Field α), (Layer.ofTable none s.toTable).get? f = some (s.get f) := by
  have hread {α : Type} (f : Field α) : f.read none s.toTable = { value := some (s.get f) } := by
    rw [Field.read_eq, Field.written?_toTable]
    simp only [Field.accept?_write (h α f), Option.isSome_some, Bool.true_or, if_true]
  have hproblems (fields : List (Σ α, Field α)) : problemsOf none s.toTable fields = [] :=
    List.flatMap_eq_nil_iff.2 fun f _ => by rw [hread]
  have hunknown : unknownTypes (subtable s.toTable "types") = [] := rfl
  refine ⟨?_, fun f => by rw [get?_ofTable, hread]⟩
  rw [findings_ofTable, hproblems, hproblems, hunknown]
  rfl

theorem typeNames_ext {a b : Haskell.TypeNames} (h : ∀ slot, nameOf a slot = nameOf b slot)
    (hcomments : a.sampleComments = b.sampleComments) : a = b := by
  obtain ⟨text, number, boolean, null, unknown, sampleComments⟩ := a
  obtain ⟨rfl⟩ : text = b.text := h .text
  obtain ⟨rfl⟩ : number = b.number := h .number
  obtain ⟨rfl⟩ : boolean = b.boolean := h .boolean
  obtain ⟨rfl⟩ : null = b.null := h .null
  obtain ⟨rfl⟩ : unknown = b.unknown := h .unknown
  obtain ⟨rfl⟩ : sampleComments = b.sampleComments := hcomments
  rfl

/-- **Settings survive being written as a settings file.** The file of the settings of any layer that
is reached is read without a finding, gives every setting that it holds the value that it had, and
taking settings apart into a layer loses nothing at all. -/
theorem toTable_reread {l : Layer} (h : l.Reached) :
    let c := ofLayer l
    let again := ofLayer (.ofTable none c.toTable)
    (Layer.ofTable none c.toTable).findings = [] ∧
    again.rootName = c.rootName ∧ again.declareRoot = c.declareRoot ∧
    again.scalarSequences = c.scalarSequences ∧ again.typeNames = c.typeNames ∧
    again.modulePrefix = c.modulePrefix ∧ again.extension = c.extension ∧
    again.outputDir = c.outputDir ∧
    ofLayer c.toLayer = c := by
  intro c again
  have husable (α : Type) (f : Field α) := usable_ofLayer (Layer.usable_of_reached h) f
  obtain ⟨hfindings, hget⟩ := ofTable_toTable (s := c) husable
  have hsame {α : Type} (f : Field α) : again.get f = c.get f := get_ofLayer (hget f)
  have htypes : again.typeNames = c.typeNames :=
    typeNames_ext (fun slot => hsame (.typeName slot)) (hsame .sampleComments)
  exact ⟨hfindings, hsame .rootName, hsame .declareRoot, hsame .scalarSequences, htypes,
    hsame .modulePrefix, hsame .extension, hsame .outputDir, ofLayer_toLayer c⟩

/-- A table with an extension that starts with a dot and a directory with needless slashes, and a
root name from the command line. -/
theorem toTable_reread_overridden :
    let table : Members := [("output", .table false
      [("extension", .string "..lhs"), ("directory", .string "gen//./hs/")])]
    let d : Disk := { nodes := [], workingDirectory := ["w"], mask := 0o022, token := "token" }
    let a : CommandLine.Arguments := { rootName := some "Doc" }
    let c := ofLayer ((Layer.default.merge (.ofTable none table)).override
      (a.overrides (a.directoryIn d)))
    let again := ofLayer (.ofTable none c.toTable)
    (c.rootName, c.extension, c.outputDir) = ("Doc", "lhs", ⟨.relative, ["gen", "hs"]⟩) ∧
    (Layer.ofTable none c.toTable).findings = [] ∧
    (again.rootName, again.extension, again.outputDir) =
      ("Doc", "lhs", ⟨.relative, ["gen", "hs"]⟩) := by
  intro table d a c again
  have hd : (Disk.pathOf d.workingDirectory).IsNormal := by
    show ∀ s ∈ ["w"], Path.IsSegment s
    decide
  have hreached := (Layer.Reached.default.mergeTable table).override hd a
  obtain ⟨hfindings, hroot, -, -, -, -, hextension, hdir, -⟩ := toTable_reread hreached
  have hvalues : (c.rootName, c.extension, c.outputDir) =
      ("Doc", "lhs", ⟨.relative, ["gen", "hs"]⟩) := by
    decide +kernel
  refine ⟨hvalues, hfindings, ?_⟩
  rw [hroot, hextension, hdir]
  exact hvalues

end SampleTypes.Settings
