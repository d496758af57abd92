/-
Which files discovery gives, said of the files themselves, and when it gives any. It visits the
directories from the start to the first with a file that says it is the root, and gives the files of
settings in them (`discover_visits`). It has no other end than an error that the system or the text of
a file forces on it; of files of text within the limits of the system only those do on which reading
TOML breaks down, and then nothing is given, not even the files that can be read
(`discover_broken_table`).
-/
import SampleTypes.Proofs.Files.Limits
import SampleTypes.Proofs.Settings.Discovery

namespace SampleTypes.Settings

open Files Work
open Toml (Members)

/-! ## Files of settings -/

/-- The part of a file's table that settings are read from. In a file for a whole project it is the
table `tool.shapegen`, which must not be empty; any other file is for settings alone. -/
def IsPart (name : String) (table part : Members) : Prop :=
  if name = projectName then
    part ≠ [] ∧ ∃ outer inner tool, Assoc.get? "tool" table = some (.table outer tool) ∧
      Assoc.get? "shapegen" tool = some (.table inner part)
  else part = table

/-- The part says that nothing above its directory holds. -/
def SaysRoot (part : Members) : Prop :=
  Assoc.get? "root" part = some (.bool true) ∨ ∃ n, n ≠ 0 ∧ Assoc.get? "root" part = some (.int n)

/-- There is a file at the path, and settings are read from this part of its table. -/
structure HoldsSettings (d : Disk) (p : Path) (part : Members) : Prop where
  isFile : d.isFile p = .ok true
  isPart : IsPart p.name (tableIn d p) part

/-- The path leads to a file of settings. -/
def IsSettingsFile (d : Disk) (p : Path) : Prop :=
  ∃ part, HoldsSettings d p part

/-- The path leads to a file of settings that says it is the root. -/
def IsRootFile (d : Disk) (p : Path) : Prop :=
  ∃ part, HoldsSettings d p part ∧ SaysRoot part

theorem subtable_eq_iff {table part : Members} {key : String} (h : part ≠ []) :
    subtable table key = part ↔ ∃ isInline, Assoc.get? key table = some (.table isInline part) := by
  unfold subtable
  split
  · next isInline members hget => simp [hget]
  · next hget =>
    constructor
    · intro hpart
      exact absurd hpart.symm h
    · rintro ⟨isInline, hpart⟩
      exact absurd hpart (hget isInline part)

theorem settingsPart?_eq_some_iff {name : String} {table part : Members} :
    settingsPart? name table = some part ↔ IsPart name table part := by
  unfold settingsPart? IsPart
  by_cases hname : name = projectName
  · rw [if_pos hname, if_pos hname]
    constructor
    · intro h
      have hpart : subtable (subtable table "tool") "shapegen" = part ∧ part ≠ [] := by
        split at h
        · cases h
        · next hne =>
          obtain rfl := Option.some.inj h
          exact ⟨rfl, hne⟩
      obtain ⟨hpart, hne⟩ := hpart
      have htool : subtable table "tool" ≠ [] := by
        intro hnil
        rw [hnil] at hpart
        exact hne hpart.symm
      obtain ⟨isInner, hinner⟩ := (subtable_eq_iff hne).1 hpart
      obtain ⟨isOuter, houter⟩ := (subtable_eq_iff htool).1 rfl
      exact ⟨hne, isOuter, isInner, _, houter, hinner⟩
    · rintro ⟨hne, isOuter, isInner, tool, houter, hinner⟩
      have htool : tool ≠ [] := by
        rintro rfl
        cases hinner
      rw [(subtable_eq_iff htool).2 ⟨isOuter, houter⟩, (subtable_eq_iff hne).2 ⟨isInner, hinner⟩]
      split
      · next hnil => exact absurd rfl hne
      · rfl
  · rw [if_neg hname, if_neg hname]
    simp [eq_comm]

theorem boolOf?_root_iff {part : Members} :
    boolOf? part "root" = some true ↔ SaysRoot part := by
  unfold boolOf? SaysRoot
  split <;> simp_all

/-- The sheet of a file of settings. -/
def sheetOfFile? (d : Disk) (p : Path) : Option Sheet :=
  match d.isFile p with
  | .ok true => sheetIn? d p
  | _ => none

theorem sheetOfFile?_eq_some_iff {d : Disk} {p : Path} {sheet : Sheet} :
    sheetOfFile? d p = some sheet ↔ sheet.file = some p ∧ HoldsSettings d p sheet.table := by
  obtain ⟨file, table⟩ := sheet
  unfold sheetOfFile?
  constructor
  · intro h
    split at h
    · next hfile =>
      obtain ⟨part, hpart, hsheet⟩ := Option.map_eq_some_iff.1 h
      obtain ⟨rfl, rfl⟩ := Sheet.mk.inj hsheet
      exact ⟨rfl, hfile, settingsPart?_eq_some_iff.1 hpart⟩
    · cases h
  · rintro ⟨rfl, hfile, hpart⟩
    rw [hfile]
    exact Option.map_eq_some_iff.2 ⟨table, settingsPart?_eq_some_iff.2 hpart, rfl⟩

theorem isSome_sheetOfFile?_iff {d : Disk} {p : Path} :
    (sheetOfFile? d p).isSome ↔ IsSettingsFile d p := by
  rw [Option.isSome_iff_exists]
  constructor
  · rintro ⟨sheet, h⟩
    exact ⟨sheet.table, (sheetOfFile?_eq_some_iff.1 h).2⟩
  · rintro ⟨part, h⟩
    exact ⟨⟨some p, part⟩, sheetOfFile?_eq_some_iff.2 ⟨rfl, h⟩⟩

theorem any_isRoot_sheetOfFile?_iff {d : Disk} {p : Path} :
    (sheetOfFile? d p).any Sheet.isRoot ↔ IsRootFile d p := by
  rw [Option.any_eq_true]
  constructor
  · rintro ⟨sheet, h, hroot⟩
    exact ⟨sheet.table, (sheetOfFile?_eq_some_iff.1 h).2,
      boolOf?_root_iff.1 (by simpa [Sheet.isRoot] using hroot)⟩
  · rintro ⟨part, h, hroot⟩
    refine ⟨⟨some p, part⟩, sheetOfFile?_eq_some_iff.2 ⟨rfl, h⟩, ?_⟩
    simp [Sheet.isRoot, boolOf?_root_iff.2 hroot]

instance (d : Disk) (p : Path) : Decidable (IsSettingsFile d p) :=
  decidable_of_iff _ isSome_sheetOfFile?_iff

instance (d : Disk) (p : Path) : Decidable (IsRootFile d p) :=
  decidable_of_iff _ any_isRoot_sheetOfFile?_iff

/-! ## Directories that are visited -/

/-- The directories from one on to the root of the tree, up to the first with a file that says it is
the root of the settings. -/
def visitedFrom (d : Disk) (directory : Location) : List Location :=
  let upward := directory.inits.reverse
  upward.take (upward.findIdx (fun above => ∃ p ∈ candidatesIn above, IsRootFile d p) + 1)

/-- The files of settings in the directories that are visited, those of the last one first. -/
def filesFrom (d : Disk) (directory : Location) : List Path :=
  (visitedFrom d directory).reverse.flatMap fun above =>
    (candidatesIn above).filter fun p => IsSettingsFile d p

theorem sheetsOf_eq_filterMap (d : Disk) (directory : Location) :
    sheetsOf d directory = (candidatesIn directory).filterMap (sheetOfFile? d) := by
  rw [candidatesIn, List.filterMap_map]
  rfl

theorem filterMap_file_sheetsOf (d : Disk) (directory : Location) :
    (sheetsOf d directory).filterMap Sheet.file =
      (candidatesIn directory).filter fun p => IsSettingsFile d p := by
  have hfile (p : Path) : (sheetOfFile? d p).bind Sheet.file =
      if IsSettingsFile d p then some p else none := by
    cases h : sheetOfFile? d p with
    | none =>
      have hnot : ¬ IsSettingsFile d p := by simp [← isSome_sheetOfFile?_iff, h]
      rw [if_neg hnot]
      rfl
    | some sheet =>
      have hfound : IsSettingsFile d p := by simp [← isSome_sheetOfFile?_iff, h]
      rw [if_pos hfound]
      exact (sheetOfFile?_eq_some_iff.1 h).1
  rw [sheetsOf_eq_filterMap, List.filterMap_filterMap, ← List.filterMap_eq_filter]
  refine List.filterMap_congr fun p _ => ?_
  rw [hfile, Option.guard_def]
  simp

theorem any_isRoot_sheetsOf_iff {d : Disk} {directory : Location} :
    (sheetsOf d directory).any Sheet.isRoot ↔ ∃ p ∈ candidatesIn directory, IsRootFile d p := by
  simp only [sheetsOf_eq_filterMap, ← any_isRoot_sheetOfFile?_iff, List.any_filterMap, List.any_eq_true]
  refine exists_congr fun p => and_congr_right fun _ => ?_
  cases sheetOfFile? d p <;> rfl

theorem throughRoot_eq (d : Disk) (directory : Location) :
    throughRoot d directory.inits.reverse = visitedFrom d directory := by
  unfold throughRoot visitedFrom
  congr 2
  refine congrArg (List.findIdx · _) (funext fun above => ?_)
  rw [Bool.eq_iff_iff, any_isRoot_sheetsOf_iff, decide_eq_true_iff]

theorem filesFrom_eq (d : Disk) (directory : Location) :
    (sheetsFrom d directory).filterMap Sheet.file = filesFrom d directory := by
  rw [sheetsFrom, throughRoot_eq, filesFrom, List.filterMap_flatMap]
  exact congrArg (List.flatMap · _) (funext fun above => filterMap_file_sheetsOf d above)

/-! ## What discovery gives -/

/-- A file is in the way exactly if it cannot be read as text, or if its text breaks reading down. -/
theorem escape?_eq_some_iff {d : Disk} {p : Path} (h : d.isFile p = .ok true) {e : Error} :
    escape? d p = some e ↔
      (∃ reason, d.readText p = .error reason ∧ e = .file reason) ∨
        ∃ text b, d.readText p = .ok text ∧ Toml.parse d.halves text = .error (.breakdown b) ∧ e = .toml b := by
  unfold escape?
  cases hread : d.readText p with
  | error reason =>
    obtain ⟨bytes, fault, -, -, rfl⟩ := Disk.undecodable_of_isFile h hread
    simp [eq_comm]
  | ok text =>
    cases hparse : Toml.parse d.halves text with
    | ok table => simp [hparse]
    | error fault => cases fault <;> simp [hparse, eq_comm]

theorem startFault?_eq_none {d : Disk} {p : Path} {location : Location}
    (h : d.complete p = .ok location) (hlimits : Disk.WithinLimits (Disk.pathOf location)) :
    startFault? d p = none := by
  obtain ⟨isFile, hfile⟩ := Disk.exists_isFile (d := d) hlimits
  simp only [startFault?, startOf, h, hfile, Except.map]

/-- **Discovery visits the directories from the start to the first with a root file**, and gives the
files of settings in them, the last directory first, whatever other files hold. Only an error that it
cannot pass over keeps it from that, the first it meets. A path within the limits of the system that
leads to no file, or to a file of text, is the cause of one exactly if reading the text breaks down. -/
theorem discover_visits (d : Disk) (p : Path) :
    let start := startIn d p
    let paths := (visitedFrom d start).flatMap candidatesIn
    (∀ log, (outcome (discover d p) log).1 =
      barring ((startFault? d p).or (paths.findSome? (obstacle? d))) (filesFrom d start)) ∧
    (∀ location, d.complete p = .ok location → Disk.WithinLimits (Disk.pathOf location) →
      startFault? d p = none) ∧
    ∀ q e, Disk.WithinLimits q → (d.isFile q = .ok true → ∃ text, d.readText q = .ok text) →
      (obstacle? d q = some e ↔ d.isFile q = .ok true ∧
        ∃ text b, d.readText q = .ok text ∧ Toml.parse d.halves text = .error (.breakdown b) ∧
          e = .toml b) := by
  refine ⟨fun log => ?_, fun location => startFault?_eq_none, fun q e hlimits htext => ?_⟩
  · rw [← throughRoot_eq, ← filesFrom_eq]
    exact (endsAs_discover d p log trivial).1
  · obtain ⟨isFile, hfile⟩ := Disk.exists_isFile (d := d) hlimits
    unfold obstacle?
    cases isFile with
    | false => simp [hfile]
    | true =>
      obtain ⟨text, hread⟩ := htext hfile
      simp only [hfile, escape?_eq_some_iff hfile, hread, true_and]
      simp

/-- A key that leads through a number breaks reading down: the file is one of settings, and discovery
does not give it. -/
theorem discover_broken_table :
    let d : Disk :=
      { nodes := [
          (["w"], .directory),
          (["w", "shapegen.toml"], .file (Text.Utf8.encode "a = 1\na.b.c = 2\n") 0o644)]
        workingDirectory := ["w"], mask := 0o022, token := "token" }
    let p : Path := .here
    (outcome (discover d p) []).1.mapError Error.message =
        .error "argument of type 'int' is not iterable" ∧
      filesFrom d (startIn d p) = [Disk.pathOf ["w", "shapegen.toml"]] := by
  intro d p
  decide +kernel

end SampleTypes.Settings
