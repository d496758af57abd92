/-
Which source decides a setting. The settings of a command are those of its arguments over those of
the sheets that hold for its place; of these a named one is over a discovered one, a later one over
an earlier, and a nearer one over one that is farther away (`resolve_precedence`). What is not
usable does not hide what is below it.
-/
import SampleTypes.CommandLine.Inputs
import SampleTypes.Proofs.Settings.Loading

namespace SampleTypes.CommandLine

open Files Settings Work

variable {α : Type}

/-! ## Arguments -/

namespace Arguments

/-- The directory for generated modules, as seen from the working directory. -/
def directoryIn (a : Arguments) (d : Disk) : Option Path :=
  a.outputDir.bind fun text => (d.complete (Path.ofText text)).toOption.map Disk.pathOf

/-- The value that the arguments give a setting, if it is usable. -/
def value? (a : Arguments) (d : Disk) : Settings.Field α → Option α
  | .rootName => a.rootName.filter isTypeName
  | .declareRoot => if a.noRoot then some false else none
  | .scalarSequences => a.scalarSequences
  | .sampleComments => a.sampleComments
  | .modulePrefix => a.modulePrefix.filter isModulePrefix
  | .outputDir => a.directoryIn d
  | .typeName _ | .extension => none

/-- The names that are given and cannot be used. -/
def findings (a : Arguments) : List Finding :=
  (a.rootName.toList.filter fun s => !isTypeName s).map .badRootOption ++
    (a.modulePrefix.toList.filter fun s => !isModulePrefix s).map .badPrefixOption

theorem get?_layer (a : Arguments) (d : Disk) (f : Settings.Field α) :
    (a.overrides (a.directoryIn d)).layer.get? f = a.value? d f := by
  cases f <;> rfl

theorem findings_layer (a : Arguments) (directory : Option Path) :
    (a.overrides directory).layer.findings = a.findings := by
  have hmisuse (usable : String → Bool) (finding : String → Finding) (given : Option String) :
      misuse usable finding given =
        (given.toList.filter fun s => !usable s).map finding := by
    cases given with
    | none => rfl
    | some s => cases h : usable s <;> simp [misuse, h]
  rw [findings, ← hmisuse, ← hmisuse]
  rfl

end Arguments

/-! ## Runs on a disk -/

/-- Work in a run on a disk that leaves the disk as it is. -/
abbrev GivesOn {β : Type} (d : Disk) (work : RunM β) (b : β) : Prop :=
  Gives (fun s => s.disk = d) work b

namespace RunM

theorem givesOn_ask_bind {β γ : Type} {d : Disk} {question : Disk → Except Files.Error β}
    {f : β → RunM γ} {c : γ} (h : ∀ b, question d = .ok b → GivesOn d (f b) c) :
    GivesOn d (ask question >>= f) c := by
  refine gives_get_bind (f := fun s => _ >>= f) fun s hs => ?_
  rw [hs]
  cases hq : question d with
  | ok b => exact (gives_pure b).bind (h b hq)
  | error e => exact gives_throw_bind _ c

theorem givesOn_settingsFile (d : Disk) (text : String) :
    GivesOn d (settingsFile text) (Path.ofText text) := by
  refine givesOn_ask_bind fun isFile _ => ?_
  cases isFile with
  | false => exact gives_throw _ _
  | true =>
    refine gives_get_bind fun s _ => ?_
    dsimp only
    cases s.disk.readText (Path.ofText text) with
    | ok text' =>
      dsimp only
      cases Toml.parse s.disk.halves text' with
      | ok table => exact gives_pure _
      | error e => cases e <;> exact gives_throw _ _
    | error e => cases e <;> exact gives_throw _ _

theorem givesOn_logged (d : Disk) {β : Type} {work : LogM β} {b : β} (h : Tells work b) :
    GivesOn d (logged work) b := by
  have hlog (record : Log.Record) : GivesOn d (log record) () :=
    gives_modify fun s hs => by split <;> exact hs
  unfold logged
  cases hrun : work.run [] with
  | mk result records =>
    refine (Gives.forM hlog records).bind ?_
    cases result with
    | ok c =>
      obtain ⟨rfl, _⟩ := h [] c records trivial hrun
      exact gives_pure c
    | error e => cases e <;> exact gives_throw _ b

theorem givesOn_outputDir (d : Disk) (a : Arguments) :
    GivesOn d (outputDir a.outputDir) (a.directoryIn d) := by
  unfold outputDir Arguments.directoryIn
  cases a.outputDir with
  | none => exact gives_pure none
  | some text =>
    refine givesOn_ask_bind fun location h => ?_
    rw [Option.bind_some, h]
    exact gives_pure _

theorem givesOn_resolve (d : Disk) (anchor : Option Path) (discovers : Bool) (named : List String)
    (a : Arguments) :
    GivesOn d (resolve anchor discovers named a)
      (Settings.ofLayer ((Layer.mergeAll
        (layersOver d anchor discovers (named.map Path.ofText))).merge
          (a.overrides (a.directoryIn d)).layer)) := by
  refine (Gives.mapM (givesOn_settingsFile d) named).bind ?_
  refine gives_get_bind fun s hs => ?_
  rw [hs, ← override_eq_merge]
  refine (givesOn_logged d (tells_loadMerged d anchor discovers _)).bind ?_
  exact (givesOn_outputDir d a).bind (gives_pure _)

end RunM

/-- Reporting only adds to what is printed beside the results, and does not fail. -/
theorem RunM.keeps_report {P : Session → Prop} {E : Stop → Prop}
    (h : ∀ s errors, P s → P { s with errors := errors }) (diagnostics : List Diagnostic) :
    Keeps P E (RunM.report diagnostics) := by
  refine keeps_get_bind fun s _ => ?_
  split
  · refine Keeps.forM (fun diagnostic => ?_) diagnostics
    refine Keeps.bind (keeps_get_bind fun _ _ => keeps_pure _) fun _ => ?_
    exact keeps_modify fun s hs => h s _ hs
  · exact keeps_pure ()

/-! ## Precedence -/

/-- **The highest source with a usable value decides**, setting by setting. The sources are listed as
they are merged, the command line last, and every finding of each of them is kept, once. -/
theorem resolve_precedence {anchor : Option Path} {discovers : Bool} {named : List String}
    {a : Arguments} {s : Session} {settings : Settings}
    (h : (outcome (RunM.resolve anchor discovers named a) s).1 = .ok settings) :
    let d := s.disk
    let paths := named.map Path.ofText
    let sheets := sheetsOver d anchor discovers paths
    (∀ {α : Type} (f : Settings.Field α), some (settings.get f) =
      (a.value? d f).or (sheets.reverse.findSome? fun sheet => sheet.value? f)) ∧
    settings.sources = sheets.map Sheet.source ++ [.commandLine] ∧
    settings.findings =
      (Sheet.default :: sheetsFor d anchor discovers).flatMap Sheet.findings ++
        paths.flatMap (namedFindings d) ++ a.findings := by
  intro d paths sheets
  obtain ⟨rfl, -⟩ := RunM.givesOn_resolve d anchor discovers named a s settings _ rfl
    (Prod.ext h rfl)
  let merged := Layer.mergeAll (layersOver d anchor discovers paths)
  let above := (a.overrides (a.directoryIn d)).layer
  refine ⟨fun f => ?_, ?_, ?_⟩
  · have hget : (merged.merge above).get? f =
        (a.value? d f).or (sheets.reverse.findSome? fun sheet => sheet.value? f) := by
      rw [Layer.get?_merge, Arguments.get?_layer, get?_layersOver]
    obtain ⟨v, hv⟩ := Option.isSome_iff_exists.1 (isSome_sheetsOver d anchor discovers paths f)
    obtain ⟨w, hw⟩ : ∃ w, (merged.merge above).get? f = some w := by
      rw [hget, hv]
      cases a.value? d f <;> simp
    rw [← hget, hw, get_ofLayer hw]
  · show merged.sources ++ above.sources = _
    rw [sources_layersOver]
    rfl
  · show merged.findings ++ above.findings = _
    rw [findings_layersOver, Arguments.findings_layer]

/-- Half of the settings stand in the directory above, and the name that the command line gives
cannot be used. -/
theorem resolve_precedence_twoDirectories :
    let far := "[inference]\nroot_name = \"Far\"\n"
    let near := "[tool.shapegen.output]\nnamespace = \"Near\"\n"
    let d : Disk :=
      { nodes := [
          (["shapegen.toml"], .file (Text.Utf8.encode far) 0o644),
          (["w"], .directory),
          (["w", "pyproject.toml"], .file (Text.Utf8.encode near) 0o644)]
        workingDirectory := ["w"], mask := 0o022, token := "token" }
    let a : Arguments := { rootName := some "lower", noRoot := true }
    ∃ settings, (outcome (RunM.resolve none true [] a) { disk := d }).1 = .ok settings ∧
      (settings.rootName, settings.declareRoot, settings.modulePrefix, settings.findings) =
        ("Far", false, "Near", [.badRootOption "lower"]) ∧
      some (settings.get .rootName) = (a.value? d .rootName).or
        ((sheetsOver d none true []).reverse.findSome? fun sheet => sheet.value? .rootName) ∧
      settings.sources = (sheetsOver d none true []).map Sheet.source ++ [.commandLine] := by
  intro far near d a
  have hrun : ((outcome (RunM.resolve none true [] a) { disk := d }).1.toOption.map fun settings =>
      (settings.rootName, settings.declareRoot, settings.modulePrefix, settings.findings)) =
        some ("Far", false, "Near", [.badRootOption "lower"]) := by
    decide +kernel
  cases hresult : (outcome (RunM.resolve none true [] a) { disk := d }).1 with
  | error e =>
    rw [hresult] at hrun
    cases hrun
  | ok settings =>
    rw [hresult] at hrun
    obtain ⟨hvalues, hsources, -⟩ := resolve_precedence hresult
    exact ⟨settings, rfl, Option.some.inj hrun, hvalues .rootName, hsources⟩

end SampleTypes.CommandLine
