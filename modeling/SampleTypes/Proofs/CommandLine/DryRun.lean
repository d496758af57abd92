/-
A run that only compares, and the run that writes. Both read the same and prepare the same module;
only the last step differs, so the first run foretells the second (`generate_foretold`). No settings
file can make a run write: `--apply` alone does.

What the first run does not see is whether the module has bytes. If a half of a surrogate pair stands
in it, the second run ends when the directories are made (`half_key_not_written`).
-/
import Mathlib
import SampleTypes.Proofs.CommandLine.Generating
import SampleTypes.Proofs.Haskell.Bytes

namespace SampleTypes

open Files Work

namespace Settings

/-- The settings with changes applied. -/
def applying (s : Settings) : Settings :=
  { s with applyChanges := some true }

theorem Layer.applyChanges_mergeAll {layers : List Layer}
    (h : ∀ l ∈ layers, l.applyChanges = none) : (Layer.mergeAll layers).applyChanges = none := by
  induction layers using List.reverseRecOn with
  | nil => rfl
  | append_singleton layers l ih =>
    have hl : l.applyChanges = none := h l (by simp)
    have hlayers := ih fun l' hl' => h l' (List.mem_append_left _ hl')
    rw [mergeAll_append_singleton, merge, hl, hlayers]
    rfl

theorem applyChanges_layersOver (d : Disk) (anchor : Option Path) (discovers : Bool)
    (named : List Path) :
    (Layer.mergeAll (layersOver d anchor discovers named)).applyChanges = none := by
  apply Layer.applyChanges_mergeAll
  intro l hl
  simp only [layersOver, List.mem_cons, List.mem_append, List.mem_map] at hl
  rcases hl with rfl | ⟨sheet, -, rfl⟩ | ⟨p, -, rfl⟩
  · rfl
  · rfl  -- no table has a key for it
  · unfold namedLayer
    cases sheetIn? d p <;> rfl

end Settings

namespace CommandLine

/-! ## Two runs -/

/-- The second command line is the first with `--apply`. -/
structure AddsApply (dry wet : Parsed Key) : Prop where
  without : dry.has .apply = false
  given : wet.has .apply = true
  /-- Nothing is printed in the place of being written. -/
  toFile : dry.has .toOutput = false
  settings : ∀ key, key ≠ .apply → wet.settings key = dry.settings key

namespace AddsApply

/-- The command lines with a document only. -/
theorem ofSource (source : String) :
    AddsApply { arguments := [source] } { given := [⟨.apply, .on⟩], arguments := [source] } := by
  refine ⟨rfl, rfl, rfl, fun key hkey => ?_⟩
  cases key <;> first | rfl | exact absurd rfl hkey

variable {dry wet : Parsed Key} (h : AddsApply dry wet)

include h

theorem has {key : Key} (hkey : key ≠ .apply) : wet.has key = dry.has key := by
  rw [Parsed.has, Parsed.has, h.settings key hkey]

theorem texts {key : Key} (hkey : key ≠ .apply) : wet.texts key = dry.texts key := by
  rw [Parsed.texts, Parsed.texts, h.settings key hkey]

theorem text? {key : Key} (hkey : key ≠ .apply) : wet.text? key = dry.text? key := by
  rw [Parsed.text?, Parsed.text?, h.texts hkey]

theorem arguments :
    Arguments.ofOptions wet = { Arguments.ofOptions dry with applyChanges := some true } := by
  have hswitch {key : Key} (hkey : key ≠ .apply) : wet.switch? key = dry.switch? key := by
    rw [Parsed.switch?, Parsed.switch?, h.settings key hkey]
  simp [Arguments.ofOptions, h.given, h.without, h.text?, h.has, hswitch]

theorem checkExclusive : RunM.checkExclusive wet = RunM.checkExclusive dry := by
  have hnaming : RunM.namingOptions wet = RunM.namingOptions dry := by
    simp [RunM.namingOptions, List.filterMap_cons, h.text?]
  simp [RunM.checkExclusive, hnaming, h.has, h.toFile]

theorem moduleName (settings : Settings) (source : String) :
    RunM.moduleName settings wet source = RunM.moduleName settings dry source := by
  simp [RunM.moduleName, h.text?]

theorem resolve (anchor : Option Path) :
    RunM.settings wet anchor = Settings.applying <$> RunM.settings dry anchor := by
  simp only [RunM.settings, h.arguments, h.has, h.texts, ne_eq, reduceCtorEq, not_false_eq_true,
    RunM.resolve, map_bind, map_pure]
  rfl

/-- **Both runs prepare the same module**, with the same messages, and differ in whether changes are
applied. -/
theorem prepare (input : List UInt8) (source : String) :
    RunM.prepare input wet source =
      (fun prepared => (prepared.1.applying, prepared.2)) <$> RunM.prepare input dry source := by
  simp only [RunM.prepare, h.checkExclusive, h.resolve, bind_map_left, map_bind, map_pure,
    h.moduleName]
  rfl

end AddsApply

/-! ## What the first run foretells -/

variable {input : List UInt8} {source : String} {s t : Session} {options dry wet : Parsed Key}

/-- No settings file asks for changes to be applied. -/
theorem applyChanges_prepare (h : options.has .apply = false) {settings : Settings}
    {target : Output.Target}
    (hrun : outcome (RunM.prepare input options source) s = (.ok (settings, target), t)) :
    settings.applyChanges = none := by
  simp only [RunM.prepare, outcome_bind_eq_ok] at hrun
  obtain ⟨_, s₁, -, settings', s₂, hsettings, _, _, -, _, _, -, _, _, -, _, _, -, _, _, -, hend⟩ :=
    hrun
  obtain rfl : settings' = settings := by
    have hpair := congrArg Prod.fst hend
    exact (Prod.mk.inj (Except.ok.inj hpair)).1
  obtain ⟨rfl, -⟩ := RunM.givesOn_resolve s₁.disk _ _ _ _ s₁ settings' s₂ rfl hsettings
  have hlayers := Settings.applyChanges_layersOver s₁.disk (RunM.anchorOf source)
    (!options.has .noConfig) ((options.texts .config).map Path.ofText)
  have hoptions : (Arguments.ofOptions options).applyChanges = none := by
    simp [Arguments.ofOptions, h]
  show (Arguments.ofOptions options).applyChanges.or (Settings.Layer.mergeAll _).applyChanges = none
  rw [hoptions, hlayers]
  rfl

/-- **A run without `--apply` leaves the disk as it is**, whatever the settings files hold. -/
theorem disk_generate_of_not_apply (h : options.has .apply = false) :
    (outcome (RunM.generate input options source) s).2.disk = s.disk := by
  have hprepare := (RunM.leavesDisk_prepare s.disk input options source s rfl).1
  rw [RunM.generate, outcome_bind]
  rcases hrun : outcome (RunM.prepare input options source) s with ⟨stop | ⟨settings, target⟩, t⟩ <;>
    rw [hrun] at hprepare
  · exact hprepare
  · have hsink : Output.Sink.select settings.applyChanges (options.has .toOutput) ≠ .files := by
      rw [applyChanges_prepare h hrun]
      cases options.has .toOutput <;> simp [Output.Sink.select]
    have hrest : LeavesDisk s.disk (RunM.deliver target
        (.select settings.applyChanges (options.has .toOutput)) >>= fun receipt =>
          if options.has .toOutput then pure () else RunM.reportReceipt target receipt) := by
      refine (leavesDisk_deliver s.disk target hsink).bind fun receipt => ?_
      split
      · exact keeps_pure ()
      · exact leavesDisk_reportReceipt s.disk target receipt
    dsimp only
    split
    · exact ((leavesDisk_showPatch s.disk target).bind fun _ => hrest) t hprepare |>.1
    · exact (hrest t hprepare).1

/-- What two runs from a disk have to do with each other, up to their reports. -/
inductive Foretells (d : Disk) :
    (first second : Except Stop (Output.Target × Output.Receipt) × Session) → Prop
  | fails (stop : Stop) (s : Session) : Foretells d (.error stop, s) (.error stop, s)
  | upToDate {receipt : Output.Receipt} (h : receipt.status = .unchanged) (target : Output.Target)
      {s : Session} (hs : s.disk = d) :
      Foretells d (.ok (target, receipt), s) (.ok (target, receipt), s)
  | writes {receipt receipt' : Output.Receipt} (h : receipt.status = .wouldWrite)
      (h' : receipt'.status = .written) {target : Output.Target}
      (hbytes : d.halves.HasBytes target.text)
      {s s' : Session} (hs : s.disk = d) (hs' : s'.disk.halves = d.halves) :
      Foretells d (.ok (target, receipt), s) (.ok (target, receipt'), s')
  /-- The module has no bytes. -/
  | crashes {receipt : Output.Receipt} (h : receipt.status = .wouldWrite) {target : Output.Target}
      {e : Text.EncodeError} (he : d.halves.encode target.text = .error e) {s s' : Session}
      (hs : s.disk = d)
      (hs' : Disk.GrowsBy (Change.IsOnTheWay d target.path.parent) d s'.disk) :
      Foretells d (.ok (target, receipt), s) (.error (.crashed (.unencodable e)), s')
  /-- The file cannot be written, because the system refuses if there is no other reason. -/
  | stops {receipt : Output.Receipt} {stop : Stop} (h : receipt.status = .wouldWrite)
      (target : Output.Target)
      (h' : d.AvoidsNull → target.path.AvoidsNull →
        ∃ failure : Failure, stop = .failed failure ∧ failure.exitCode = 74) {s : Session}
      (hs : s.disk = d) (s' : Session) : Foretells d (.ok (target, receipt), s) (.error stop, s')

/-- The delivery of a module as bytes. -/
theorem foretells_deliver_of_hasBytes {target : Output.Target} {s : Session}
    (h : s.disk.halves.HasBytes target.text) :
    Foretells s.disk
      (outcome (RunM.deliver target .nowhere >>= fun receipt => pure (target, receipt)) s)
      (outcome (RunM.deliver target .files >>= fun receipt => pure (target, receipt)) s) := by
  simp only [outcome_bind, outcome_deliver_of_hasBytes _ h, outcome_onFile,
    Output.outcome_deliver_nowhere, Output.outcome_deliver_files, Output.comparison]
  cases target.wouldChange s.disk with
  | error e => exact .fails _ _
  | ok changes =>
    cases changes with
    | false =>
      obtain ⟨t, htells, ht⟩ := outcome_announce target { status := .unchanged } s
      simp only [Except.map, Except.mapError, Bool.false_eq_true, if_false, htells, outcome_pure]
      exact .upToDate rfl target ht
    | true =>
      obtain ⟨t, htells, ht⟩ := outcome_announce target { status := .wouldWrite } s
      simp only [Except.map, Except.mapError, htells, outcome_pure, if_true]
      have hplace := Change.outcome_replaceFile noFaults target.path
        (Text.Utf8.encode target.text) s.disk
      rcases hreplace : outcome (Change.replaceFile noFaults target.path
        (Text.Utf8.encode target.text)) s.disk with ⟨e | _, d'⟩ <;> rw [hreplace] at hplace <;>
        dsimp only
      · refine .stops rfl target (fun hdisk hpath => exitCode_fileFailure ?_) ht _
        have hrefusal := Change.isRefusable_replaceFile noFaults hpath (Text.Utf8.encode target.text)
        exact (hrefusal s.disk hdisk).2 e (by rw [hreplace])
      · obtain ⟨place, hplaced⟩ := hplace
        obtain ⟨t', htells', ht'⟩ := outcome_announce target
          { status := .written, bytes := (Text.Utf8.encode target.text).length }
          { s with disk := d' }
        rw [htells']
        exact .writes rfl rfl h ht (ht' ▸ hplaced.halves)

/-- The delivery of a module that has no bytes. -/
theorem foretells_deliver_of_unencodable {target : Output.Target} {s : Session}
    {e : Text.EncodeError} (h : s.disk.halves.encode target.text = .error e) :
    Foretells s.disk
      (outcome (RunM.deliver target .nowhere >>= fun receipt => pure (target, receipt)) s)
      (outcome (RunM.deliver target .files >>= fun receipt => pure (target, receipt)) s) := by
  simp only [outcome_bind, outcome_deliver_of_unencodable _ h, RunM.handUnencodable, outcome_onFile,
    Change.outcome_ask]
  cases target.existing? s.disk with
  | error e' => exact .fails _ _
  | ok _ =>
    obtain ⟨t, htells, ht⟩ := outcome_announce target { status := .wouldWrite } s
    simp only [Except.mapError, htells, outcome_pure]
    have hgrows := Change.growsBy_makeDirectories noFaults target.path.parent s.disk
    rcases hmake : outcome (Change.makeDirectories noFaults target.path.parent) s.disk with
      ⟨e' | _, d'⟩ <;> rw [hmake] at hgrows <;> dsimp only
    · refine .stops rfl target (fun hdisk hpath => exitCode_fileFailure ?_) ht _
      have hrefusal := Change.isRefusable_makeDirectoriesFrom noFaults target.path.parent.root
        fun name hname => hpath.parent name (List.mem_reverse.1 hname)
      exact (hrefusal s.disk hdisk).2 e' (by rw [← Change.makeDirectories, hmake])
    · exact .crashes rfl h ht hgrows

theorem foretells_deliver (target : Output.Target) (s : Session) :
    Foretells s.disk
      (outcome (RunM.deliver target .nowhere >>= fun receipt => pure (target, receipt)) s)
      (outcome (RunM.deliver target .files >>= fun receipt => pure (target, receipt)) s) := by
  cases h : s.disk.halves.encode target.text with
  | ok bytes => exact foretells_deliver_of_hasBytes (Text.Halves.encode_eq_ok_iff.1 h).1
  | error e => exact foretells_deliver_of_unencodable h

theorem AddsApply.foretells (h : AddsApply dry wet) (input : List UInt8) (source : String)
    (s : Session) :
    Foretells s.disk (outcome (RunM.delivery input dry source) s)
      (outcome (RunM.delivery input wet source) s) := by
  have hdry := (RunM.leavesDisk_prepare s.disk input dry source s rfl).1
  rw [RunM.delivery, RunM.delivery, h.prepare, bind_map_left, outcome_bind, outcome_bind]
  rcases hrun : outcome (RunM.prepare input dry source) s with ⟨stop | ⟨settings, target⟩, t⟩ <;>
    rw [hrun] at hdry
  · exact .fails stop t
  · have hnone := applyChanges_prepare h.without hrun
    have hwet : wet.has .toOutput = false := by rw [h.has (by decide), h.toFile]
    have hpatch : wet.has .patch = dry.has .patch := h.has (by decide)
    simp only [h.toFile, hwet, hpatch, hnone, Settings.applying, Output.Sink.select, Bool.not_false,
      Bool.and_true]
    split
    · rw [outcome_bind, outcome_bind]
      have hshow := (leavesDisk_showPatch t.disk target t rfl).1
      rcases hpatch : outcome (RunM.showPatch target) t with ⟨stop | _, t'⟩ <;> rw [hpatch] at hshow
      · exact .fails stop t'
      · rw [← hdry, ← hshow]
        exact foretells_deliver target t'
    · rw [← hdry]
      exact foretells_deliver target t

/-- **A dry run is harmless and foretells the run that writes.** A run without `--apply` leaves the
disk as it is, whatever the settings files hold. If it would write a module, the run with `--apply`
writes it or fails with the code for files, at least where no name holds the null character and the
module has bytes. Without bytes it ends when no more than directories are made. If the module is up
to date or the run fails, the other run does the same. What is told of a module has bytes if its
name and its path do. -/
theorem generate_foretold (h : AddsApply dry wet) (input : List UInt8) (source : String)
    (s : Session) :
    let run (options : Parsed Key) := outcome (RunM.generate input options source) s
    let delivered (options : Parsed Key) := (outcome (RunM.delivery input options source) s).1
    let halves := s.disk.halves
    (∀ options : Parsed Key, options.has .apply = false → (run options).2.disk = s.disk) ∧
    (∀ target receipt, delivered dry = .ok (target, receipt) →
      halves.HasBytes target.path.text → halves.HasBytes target.moduleName →
      (receipt.status = .wouldWrite ∧ (run dry).1 = .error (.done 2) ∧
        (s.disk.AvoidsNull → target.path.AvoidsNull →
          (∃ failure, (run wet).1 = .error (.failed failure) ∧ failure.exitCode = 74) ∨
          if halves.HasBytes target.text then
            ∃ receipt', delivered wet = .ok (target, receipt') ∧ receipt'.status = .written ∧
              (run wet).1 = .ok ()
          else
            Disk.GrowsBy (Change.IsOnTheWay s.disk target.path.parent) s.disk (run wet).2.disk ∧
            ∃ e, halves.encode target.text = .error e ∧
              (run wet).1 = .error (.crashed (.unencodable e)))) ∨
      (receipt.status = .unchanged ∧ (run dry).1 = .ok () ∧
        delivered wet = .ok (target, receipt) ∧ run wet = run dry)) ∧
    (∀ stop, delivered dry = .error stop → (run dry).1 = .error stop ∧ run wet = run dry) := by
  intro run delivered halves
  have hwet : wet.has .toOutput = false := by rw [h.has (by decide), h.toFile]
  have hforetells := h.foretells input source s
  simp only [run, delivered, outcome_generate input source s h.toFile,
    outcome_generate input source s hwet]
  generalize outcome (RunM.delivery input dry source) s = first at hforetells ⊢
  generalize outcome (RunM.delivery input wet source) s = second at hforetells ⊢
  refine ⟨fun options hoptions => disk_generate_of_not_apply hoptions, ?_, ?_⟩
  · intro target receipt hfirst hpath hname
    have hreport {receipt : Output.Receipt} {t : Session} (ht : t.disk.halves = halves) :
        (reported (.ok (target, receipt), t)).1 =
          if receipt.status = .wouldWrite then .error (.done 2) else .ok () :=
      outcome_reportReceipt (ht ▸ hasBytes_receiptLine hpath hname)
    cases hforetells with
    | fails => cases hfirst
    | upToDate h _ ht =>
      cases hfirst
      refine .inr ⟨h, ?_, rfl, rfl⟩
      rw [hreport (ht ▸ rfl), h]
      rfl
    | writes h h' hbytes ht ht' =>
      cases hfirst
      refine .inl ⟨h, by rw [hreport (ht ▸ rfl), if_pos h], fun _ _ => .inr ?_⟩
      rw [if_pos hbytes]
      refine ⟨_, rfl, h', ?_⟩
      rw [hreport ht', h']
      rfl
    | crashes h he ht hgrows =>
      cases hfirst
      refine .inl ⟨h, by rw [hreport (ht ▸ rfl), if_pos h], fun _ _ => .inr ?_⟩
      rw [if_neg (Text.Halves.not_hasBytes_iff.2 ⟨_, he⟩)]
      exact ⟨hgrows, _, he, rfl⟩
    | stops h _ h' ht =>
      cases hfirst
      refine .inl ⟨h, by rw [hreport (ht ▸ rfl), if_pos h], fun hdisk hpath => .inl ?_⟩
      obtain ⟨failure, rfl, hcode⟩ := h' hdisk hpath
      exact ⟨failure, rfl, hcode⟩
  · intro stop hfirst
    cases hforetells with
    | fails =>
      cases hfirst
      exact ⟨rfl, rfl⟩
    | upToDate | writes | crashes | stops => cases hfirst

/-! ## Runs on a document that is known -/

/-- A module that has no file yet would be written. -/
theorem outcome_delivery_of_missing (happly : options.has .apply = false)
    (hpatch : options.has .patch = false) (houtput : options.has .toOutput = false)
    {settings : Settings} {target : Output.Target}
    (hprepare : outcome (RunM.prepare input options source) s = (.ok (settings, target), t))
    (hmissing : target.existing? s.disk = .ok none) :
    ∃ t', outcome (RunM.delivery input options source) s =
      (.ok (target, { status := .wouldWrite }), t') ∧ t'.disk = s.disk := by
  have hdisk := (RunM.leavesDisk_prepare s.disk input options source s rfl).1
  rw [hprepare] at hdisk
  rw [← hdisk] at hmissing
  obtain ⟨t', htells, ht'⟩ := outcome_announce target { status := .wouldWrite } t
  have hdeliver : outcome (RunM.deliver target .nowhere) t = (.ok { status := .wouldWrite }, t') := by
    cases hencode : t.disk.halves.encode target.text with
    | ok bytes =>
      have hchange : target.wouldChange t.disk = .ok true := by
        rw [Output.Target.wouldChange, hmissing]
        rfl
      rw [outcome_deliver_of_hasBytes _ (Text.Halves.encode_eq_ok_iff.1 hencode).1, outcome_bind,
        outcome_onFile, Output.outcome_deliver_nowhere, Output.comparison, hchange]
      exact htells
    | error e =>
      rw [outcome_deliver_of_unencodable _ hencode, outcome_bind, RunM.handUnencodable, outcome_bind,
        outcome_onFile, Change.outcome_ask, hmissing]
      exact htells
  refine ⟨t', ?_, ht'.trans hdisk⟩
  rw [RunM.delivery, outcome_bind, hprepare]
  simp only [hpatch, houtput, applyChanges_prepare happly hprepare, Output.Sink.select,
    Bool.false_and, Bool.false_eq_true, if_false, reduceCtorEq]
  rw [outcome_bind, hdeliver]
  rfl

/-- A module without bytes leaves the directories for it. -/
theorem AddsApply.outcome_delivery_of_unencodable (h : AddsApply dry wet)
    (hpatch : dry.has .patch = false) {settings : Settings} {target : Output.Target}
    (hprepare : outcome (RunM.prepare input dry source) s = (.ok (settings, target), t))
    (hmissing : target.existing? s.disk = .ok none) {e : Text.EncodeError}
    (hencode : s.disk.halves.encode target.text = .error e) {d : Disk}
    (hmake : outcome (Change.makeDirectories noFaults target.path.parent) s.disk = (.ok (), d)) :
    ∃ t', outcome (RunM.delivery input wet source) s =
      (.error (.crashed (.unencodable e)), t') ∧ t'.disk = d := by
  have hdisk := (RunM.leavesDisk_prepare s.disk input dry source s rfl).1
  rw [hprepare] at hdisk
  rw [← hdisk] at hmissing hencode hmake
  have houtput : wet.has .toOutput = false := by rw [h.has (by decide), h.toFile]
  have hpatch : wet.has .patch = false := by rw [h.has (by decide), hpatch]
  have hdeliver : outcome (RunM.deliver target .files) t =
      (.error (.crashed (.unencodable e)), { t with disk := d }) := by
    rw [outcome_deliver_of_unencodable _ hencode, outcome_bind, RunM.handUnencodable, outcome_bind,
      outcome_onFile, Change.outcome_ask, hmissing]
    dsimp only [Except.mapError]
    rw [outcome_bind, outcome_onFile, hmake]
    rfl
  refine ⟨{ t with disk := d }, ?_, rfl⟩
  rw [RunM.delivery, h.prepare, bind_map_left, outcome_bind, hprepare]
  simp only [hpatch, houtput, Settings.applying, Output.Sink.select, Bool.false_and,
    Bool.false_eq_true, if_false, if_true]
  rw [outcome_bind, hdeliver]

/-- A document beside a settings file: the first run would write its module, and the second one
writes it or is refused. -/
theorem generate_foretold_besideSettings :
    let content := "[output]\nnamespace = \"Docs\"\n"
    let d : Disk :=
      { nodes := [
          (["shapegen.toml"], .file (Text.Utf8.encode content) 0o644),
          (["doc.json"], .file (Text.Utf8.encode "\x7b\"id\": 1\x7d") 0o644)]
        workingDirectory := [], mask := 0o022, token := "token" }
    let dry : Parsed Key := { arguments := ["doc.json"] }
    let wet : Parsed Key := { given := [⟨.apply, .on⟩], arguments := ["doc.json"] }
    let run (options : Parsed Key) := outcome (RunM.generate [] options "doc.json") { disk := d }
    (run dry).1 = .error (.done 2) ∧ (run dry).2.disk = d ∧
    ((run wet).1 = .ok () ∨
      ∃ failure, (run wet).1 = .error (.failed failure) ∧ failure.exitCode = 74) := by
  intro content d dry wet run
  have hadds : AddsApply dry wet := .ofSource "doc.json"
  let s : Session := { disk := d }
  let written : List Char := ['\x7b', '"', 'i', 'd', '"', ':', ' ', '1', '\x7d']
  let document : Value := .object [(String.ofList ['i', 'd'], .int 1)]
  have hread : (d.exists? (Path.ofText "doc.json"), d.readText (Path.ofText "doc.json")) =
      (.ok true, .ok (String.ofList written)) := by
    decide +kernel
  obtain ⟨hexists, htext⟩ := Prod.mk.inj hread
  have hdocument : ∀ t : Session, t.disk = s.disk → outcome (RunM.document [] "doc.json") t =
      (.ok document, t) := by
    refine outcome_document_of_file (by decide) hexists htext ?_ []
    cbv
  let ds : List (Declaration FieldType) := [.record ⟨"Root", [("id", .number)]⟩]
  let path : Path := ⟨.relative, ["Docs", "Doc.hs"]⟩
  have hmade : ((outcome (RunM.prepareFrom document dry "doc.json") s).1.toOption.map fun p =>
      (p.1.typeNames, p.2.moduleName, p.2.path)) = some ({}, "Docs.Doc", path) := by
    decide +kernel
  have hdeclared : ((outcome (RunM.prepareFrom document dry "doc.json") s).1.toOption.bind fun p =>
      (Schema.ofDocument p.1 document).toOption.map Schema.declarations) = some ds := by
    decide +kernel
  obtain ⟨settings, t, hprepare⟩ := outcome_prepare_of_declarations hdocument hmade hdeclared
  obtain ⟨t', hdelivery, -⟩ := outcome_delivery_of_missing rfl rfl rfl hprepare
    (show Output.Target.existing? ⟨"Docs.Doc", path, ""⟩ d = .ok none by decide +kernel)
  have hbytes : d.halves.HasBytes (Haskell.Module.ofDeclarations {} "Docs.Doc" ds).text :=
    Text.Halves.hasBytes_text_iff (by rintro (_ | _ | _ | _ | _) <;> decide) |>.2 (by decide)
  have hpath : path.AvoidsNull := by
    show ∀ name ∈ path.segments, Text.Avoids '\x00' name
    decide
  obtain ⟨hharmless, hdelivered, -⟩ := generate_foretold hadds [] "doc.json" s
  have htold := hdelivered _ _ (congrArg Prod.fst hdelivery) (by decide +kernel) (by decide)
  rw [if_pos hbytes] at htold
  rcases htold with ⟨-, hfirst, hsecond⟩ | ⟨hunchanged, -⟩
  · refine ⟨hfirst, hharmless dry rfl, ?_⟩
    rcases hsecond ⟨by decide, by simp [s, d]⟩ hpath with hfailed | ⟨_, -, -, hok⟩
    · exact .inr hfailed
    · exact .inl hok
  · cases hunchanged

/-- A document with a key that is half of a surrogate pair. The first run would write its module; the
second one neither writes it nor fails with the code for files, and leaves a directory. -/
theorem half_key_not_written :
    let d : Disk :=
      { nodes := [(["doc.json"], .file (Text.Utf8.encode "\x7b\"\\ud800\": 1\x7d") 0o644)]
        workingDirectory := [], mask := 0o022, token := "token" }
    let dry : Parsed Key := { arguments := ["doc.json"] }
    let wet : Parsed Key := { given := [⟨.apply, .on⟩], arguments := ["doc.json"] }
    let run (options : Parsed Key) := outcome (RunM.generate [] options "doc.json") { disk := d }
    AddsApply dry wet ∧ d.AvoidsNull ∧
    (run dry).1 = .error (.done 2) ∧ (run dry).2.disk = d ∧
    (∃ e, (run wet).1 = .error (.crashed (.unencodable e))) ∧
    (run wet).2.disk = d.put ["Generated"] .directory := by
  intro d dry wet run
  have hadds : AddsApply dry wet := .ofSource "doc.json"
  let s : Session := { disk := d }
  let key : String := String.ofList [d.halves.char 0xD800]
  let written : List Char :=
    ['\x7b', '"', '\\', 'u', 'd', '8', '0', '0', '"', ':', ' ', '1', '\x7d']
  let document : Value := .object [(key, .int 1)]
  have hread : (d.exists? (Path.ofText "doc.json"), d.readText (Path.ofText "doc.json")) =
      (.ok true, .ok (String.ofList written)) := by
    decide +kernel
  obtain ⟨hexists, htext⟩ := Prod.mk.inj hread
  have hdocument : ∀ t : Session, t.disk = s.disk → outcome (RunM.document [] "doc.json") t =
      (.ok document, t) := by
    refine outcome_document_of_file (by decide) hexists htext ?_ []
    show _ = Except.ok (Value.object [(String.ofList [Char.ofNat 0xF4800], .int 1)])
    cbv
  let ds : List (Declaration FieldType) := [.record ⟨"Root", [(key, .number)]⟩]
  let path : Path := ⟨.relative, ["Generated", "Doc.hs"]⟩
  have hmade : ((outcome (RunM.prepareFrom document dry "doc.json") s).1.toOption.map fun p =>
      (p.1.typeNames, p.2.moduleName, p.2.path)) = some ({}, "Generated.Doc", path) := by
    decide +kernel
  have hdeclared : ((outcome (RunM.prepareFrom document dry "doc.json") s).1.toOption.bind fun p =>
      (Schema.ofDocument p.1 document).toOption.map Schema.declarations) = some ds := by
    decide +kernel
  obtain ⟨settings, t, hprepare⟩ := outcome_prepare_of_declarations hdocument hmade hdeclared
  have hmissing : Output.Target.existing? ⟨"Generated.Doc", path, ""⟩ d = .ok none := by
    decide +kernel
  have hmake : outcome (Change.makeDirectories noFaults path.parent) d =
      (.ok (), d.put ["Generated"] .directory) := by
    decide +kernel
  obtain ⟨t', hfirst, ht'⟩ := outcome_delivery_of_missing rfl rfl rfl hprepare hmissing
  have hbytes : ¬ d.halves.HasBytes (Haskell.Module.ofDeclarations {} "Generated.Doc" ds).text := by
    rw [Text.Halves.hasBytes_text_iff (by rintro (_ | _ | _ | _ | _) <;> decide)]
    decide
  obtain ⟨e, he⟩ := Text.Halves.not_hasBytes_iff.1 hbytes
  obtain ⟨t'', hsecond, ht''⟩ :=
    hadds.outcome_delivery_of_unencodable rfl hprepare hmissing he hmake
  have hline : d.halves.HasBytes (RunM.receiptLine
      ⟨"Generated.Doc", path, (Haskell.Module.ofDeclarations {} "Generated.Doc" ds).text⟩
      { status := .wouldWrite }) :=
    hasBytes_receiptLine (by decide +kernel) (by decide)
  have hdry : run dry = reported (outcome (RunM.delivery [] dry "doc.json") s) :=
    outcome_generate [] "doc.json" s rfl
  have hwet : run wet = reported (outcome (RunM.delivery [] wet "doc.json") s) :=
    outcome_generate [] "doc.json" s rfl
  rw [hfirst] at hdry
  rw [hsecond] at hwet
  have hcrash : (run wet).1 = .error (.crashed (.unencodable e)) := by
    rw [hwet]
    rfl
  refine ⟨hadds, ⟨by decide, by simp [d]⟩, ?_, disk_generate_of_not_apply rfl, ⟨e, hcrash⟩, ?_⟩
  · rw [hdry, reported, outcome_reportReceipt (ht' ▸ hline), if_pos rfl]
  · rw [hwet, ← ht'']
    rfl

end CommandLine

end SampleTypes
