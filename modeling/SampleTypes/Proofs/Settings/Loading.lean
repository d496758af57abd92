/-
The layers that hold for a place. Loading gives the layers of the sheets that hold, merged in order
over the default ones (`tells_loadMerged`); a named file without settings adds nothing but the
finding that it has none. The command line is one more layer on top (`override_eq_merge`).
-/
import SampleTypes.Proofs.Settings.Discovery
import SampleTypes.Proofs.Settings.Reporting
import SampleTypes.Settings.Overrides

namespace SampleTypes.Settings

open Files Work

variable {α : Type}

/-! ## Layers of sheets -/

namespace Sheet

/-- The sheet of the settings that hold without any others. -/
def default : Sheet :=
  ⟨none, defaultTable⟩

/-- The value that a sheet gives a setting, if it is usable. -/
def value? (sheet : Sheet) (f : Field α) : Option α :=
  (f.written? sheet.table).bind (f.accept? sheet.file)

def findings (sheet : Sheet) : List Finding :=
  (Layer.ofTable sheet.file sheet.table).findings

theorem get?_layer (sheet : Sheet) (f : Field α) : sheet.layer.get? f = sheet.value? f := by
  have hfrom : sheet.layer.get? f = (Layer.ofTable sheet.file sheet.table).get? f := by
    cases f <;> rfl
  rw [hfrom, get?_ofTable_eq_bind, value?]

theorem layer_default : default.layer = Layer.default := by
  unfold layer Layer.default
  rfl

/-- Every setting is decided without any files. -/
theorem isSome_value?_default (f : Field α) : (default.value? f).isSome := by
  cases f with
  | typeName slot => cases slot <;> rfl
  | _ => rfl

end Sheet

/-- What a named file adds. -/
def namedLayer (d : Disk) (p : Path) : Layer :=
  match sheetIn? d p with
  | some sheet => sheet.layer
  | none => { findings := [.noSection p] }

theorem get?_namedLayer (d : Disk) (p : Path) (f : Field α) :
    (namedLayer d p).get? f = (sheetIn? d p).bind fun sheet => sheet.value? f := by
  unfold namedLayer
  cases sheetIn? d p with
  | none => cases f <;> rfl
  | some sheet => exact sheet.get?_layer f

/-! ## The layers for a place -/

section Layers

variable (d : Disk) (anchor : Option Path) (discovers : Bool) (named : List Path)

/-- The sheets that are discovered for a place; without one, for the working directory. -/
def sheetsFor : List Sheet :=
  if discovers then sheetsFrom d (startIn d (anchor.getD (Disk.pathOf d.workingDirectory))) else []

/-- The sheets that hold for a place, the lowest first: the default one, those that are discovered,
and those that are named. -/
def sheetsOver : List Sheet :=
  Sheet.default :: (sheetsFor d anchor discovers ++ named.filterMap (sheetIn? d))

/-- The layers of these sheets, and those of the named files that hold no settings. -/
def layersOver : List Layer :=
  Sheet.default.layer ::
    ((sheetsFor d anchor discovers).map Sheet.layer ++ named.map (namedLayer d))

/-- **The highest sheet with a usable value decides.** -/
theorem get?_layersOver (f : Field α) :
    (Layer.mergeAll (layersOver d anchor discovers named)).get? f =
      (sheetsOver d anchor discovers named).reverse.findSome? (fun sheet => sheet.value? f) := by
  have hsheet : (fun l : Layer => l.get? f) ∘ Sheet.layer = fun sheet => sheet.value? f :=
    funext fun sheet => sheet.get?_layer f
  have hnamed : (fun l : Layer => l.get? f) ∘ namedLayer d =
      fun p => (sheetIn? d p).bind fun sheet => sheet.value? f :=
    funext fun p => get?_namedLayer d p f
  have hfilter : (named.reverse.findSome? fun p => (sheetIn? d p).bind fun sheet => sheet.value? f) =
      (named.filterMap (sheetIn? d)).reverse.findSome? fun sheet => sheet.value? f := by
    rw [← List.head?_filterMap, ← List.head?_filterMap, ← List.filterMap_reverse,
      List.filterMap_filterMap]
  simp only [Layer.get?_mergeAll, layersOver, sheetsOver, List.reverse_cons, List.reverse_append,
    ← List.map_reverse, List.findSome?_append, List.findSome?_map, hsheet, hnamed, hfilter,
    List.findSome?_singleton, Sheet.get?_layer]

/-- Some sheet gives every setting a value: the default one does. -/
theorem isSome_sheetsOver (f : Field α) :
    ((sheetsOver d anchor discovers named).reverse.findSome? fun sheet => sheet.value? f).isSome := by
  rw [List.findSome?_isSome_iff]
  exact ⟨Sheet.default, by simp [sheetsOver], Sheet.isSome_value?_default f⟩

theorem sources_layersOver :
    (Layer.mergeAll (layersOver d anchor discovers named)).sources =
      (sheetsOver d anchor discovers named).map Sheet.source := by
  have hnamed : (named.map (namedLayer d)).flatMap Layer.sources =
      (named.filterMap (sheetIn? d)).map Sheet.source := by
    induction named with
    | nil => rfl
    | cons p rest ih =>
      rw [List.map_cons, List.flatMap_cons, ih, List.filterMap_cons, namedLayer]
      cases sheetIn? d p <;> rfl
  have hsheets (sheets : List Sheet) :
      (sheets.map Sheet.layer).flatMap Layer.sources = sheets.map Sheet.source := by
    induction sheets with
    | nil => rfl
    | cons sheet rest ih =>
      rw [List.map_cons, List.flatMap_cons, ih]
      rfl
  rw [Layer.sources_mergeAll, layersOver, List.flatMap_cons, List.flatMap_append, hsheets, hnamed,
    sheetsOver, List.map_cons, List.map_append]
  rfl

/-- What is found wrong with a named file. -/
def namedFindings (p : Path) : List Finding :=
  match sheetIn? d p with
  | some sheet => sheet.findings
  | none => [.noSection p]

theorem findings_layersOver :
    (Layer.mergeAll (layersOver d anchor discovers named)).findings =
      (Sheet.default :: sheetsFor d anchor discovers).flatMap Sheet.findings ++
        named.flatMap (namedFindings d) := by
  have hnamed (p : Path) : (namedLayer d p).findings = namedFindings d p := by
    rw [namedLayer, namedFindings]
    cases sheetIn? d p <;> rfl
  have hsheet (sheet : Sheet) : sheet.layer.findings = sheet.findings := rfl
  simp only [Layer.findings_mergeAll, layersOver, List.flatMap_cons, List.flatMap_append,
    List.flatMap_map, hsheet, hnamed, List.append_assoc]

end Layers

/-! ## Loading -/

theorem tells_readLayer (d : Disk) (p : Path) :
    Tells (readLayer d p) ((sheetIn? d p).map Sheet.layer) := by
  unfold readLayer sheetIn?
  refine (tells_readTable d p).bind ?_
  cases settingsPart? p.name (tableIn d p) with
  | none => exact gives_pure none
  | some part => exact (Gives.forM (fun _ => tells_note _) _).bind (gives_pure _)

theorem tells_mergeFound (d : Disk) (below : Layer) {p : Path} {sheet : Sheet}
    (h : sheetIn? d p = some sheet) : Tells (mergeFound d below p) (below.merge sheet.layer) := by
  have hread := tells_readLayer d p
  rw [h] at hread
  exact hread.bind (gives_pure _)

theorem tells_mergeNamed (d : Disk) (below : Layer) (p : Path) :
    Tells (mergeNamed d below p) (below.merge (namedLayer d p)) := by
  refine (tells_readLayer d p).bind ?_
  unfold namedLayer
  cases sheetIn? d p with
  | none =>
    have hadd : below.merge { findings := [.noSection p] } =
        { below with findings := below.findings ++ [.noSection p] } := by
      simp only [Layer.merge, List.append_nil]
      rfl
    rw [hadd]
    exact gives_pure _
  | some sheet => exact gives_pure _

theorem tells_foldlM_mergeFound (d : Disk) {sheets : List Sheet}
    (h : ∀ sheet ∈ sheets, ∃ p, sheet.file = some p ∧ sheetIn? d p = some sheet) (below : Layer) :
    Tells ((sheets.filterMap Sheet.file).foldlM (mergeFound d) below)
      ((sheets.map Sheet.layer).foldl Layer.merge below) := by
  induction sheets generalizing below with
  | nil => exact gives_pure below
  | cons sheet rest ih =>
    obtain ⟨p, hfile, hin⟩ := h sheet List.mem_cons_self
    rw [List.filterMap_cons_some hfile, List.foldlM_cons, List.map_cons, List.foldl_cons]
    exact (tells_mergeFound d below hin).bind
      (ih (fun sheet hsheet => h sheet (List.mem_cons_of_mem _ hsheet)) _)

theorem tells_mergeSheets (d : Disk) (sheets : List Sheet)
    (h : ∀ sheet ∈ sheets, ∃ p, sheet.file = some p ∧ sheetIn? d p = some sheet)
    (named : List Path) :
    Tells
      (do
        let merged ← (sheets.filterMap Sheet.file).foldlM (mergeFound d) Layer.default
        named.foldlM (mergeNamed d) merged)
      (Layer.mergeAll
        (Sheet.default.layer :: (sheets.map Sheet.layer ++ named.map (namedLayer d)))) := by
  have hmerged : Layer.mergeAll
      (Sheet.default.layer :: (sheets.map Sheet.layer ++ named.map (namedLayer d))) =
        named.foldl (fun below p => below.merge (namedLayer d p))
          ((sheets.map Sheet.layer).foldl Layer.merge Layer.default) := by
    rw [Layer.mergeAll, List.foldl_cons, Layer.empty_merge, List.foldl_append, Sheet.layer_default,
      List.foldl_map (l := named)]
  rw [hmerged]
  exact (tells_foldlM_mergeFound d h Layer.default).bind
    (Gives.foldlM (fun below p _ => tells_mergeNamed d below p) _)

/-- **Loading merges the layers for a place.** -/
theorem tells_loadMerged (d : Disk) (anchor : Option Path) (discovers : Bool)
    (named : List Path) :
    Tells (loadMerged d anchor discovers named)
      (Layer.mergeAll (layersOver d anchor discovers named)) := by
  unfold loadMerged layersOver sheetsFor
  cases discovers with
  | false =>
    simp only [Bool.false_eq_true, if_false]
    exact (gives_pure []).bind (tells_mergeSheets d [] (by simp) named)
  | true =>
    simp only [if_true]
    exact (tells_discover d _).bind
      (tells_mergeSheets d _ (fun sheet hsheet => sheetIn?_of_mem hsheet) named)

/-! ## The command line -/

/-- The settings of the command line as a layer of their own. -/
def Overrides.layer (o : Overrides) : Layer where
  verbosity := o.verbosity
  applyChanges := o.applyChanges
  rootName := o.rootName.filter isTypeName
  declareRoot := o.declareRoot
  scalarSequences := o.scalarSequences
  sampleComments := o.sampleComments
  modulePrefix := o.modulePrefix.filter isModulePrefix
  extension := o.extension.bind givenExtension?
  outputDir := o.outputDir
  sources := [.commandLine]
  findings :=
    misuse isTypeName .badRootOption o.rootName ++
      misuse isModulePrefix .badPrefixOption o.modulePrefix

theorem override_eq_merge (l : Layer) (o : Overrides) : l.override o = l.merge o.layer := by
  simp only [Layer.override, Layer.merge, Overrides.layer, List.append_assoc]
  rfl

end SampleTypes.Settings
