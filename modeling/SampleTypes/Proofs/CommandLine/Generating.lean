/-
The steps of generation. A run prepares a module, delivers it and reports what became of it
(`outcome_generate`). Only a sink for files changes the disk (`leavesDisk_deliver`), a delivery is
told by whether the module has bytes (`outcome_deliver_of_hasBytes`,
`outcome_deliver_of_unencodable`), and the report by the status of the delivery
(`outcome_reportReceipt`).
-/
import SampleTypes.Proofs.CommandLine.Reading
import SampleTypes.Proofs.Files.Refusals
import SampleTypes.Proofs.Output.Delivering

namespace SampleTypes

open Files Work

namespace CommandLine

variable {input : List UInt8} {source : String} {options : Parsed Key} {s : Session}

/-! ## Preparing -/

/-- Preparing, once the document is read. -/
def RunM.prepareFrom (document : Value) (options : Parsed Key) (source : String) :
    RunM (Settings × Output.Target) := do
  checkExclusive options
  let settings ← settings options (anchorOf source)
  adopt settings
  let name ← moduleName settings options source
  let schema ← schema settings document
  report schema.diagnostics
  return (settings, schema.target settings name)

theorem outcome_prepare_of_document {v : Value}
    (h : ∀ t : Session, t.disk = s.disk → outcome (RunM.document input source) t = (.ok v, t)) :
    outcome (RunM.prepare input options source) s =
      outcome (RunM.prepareFrom v options source) s := by
  refine outcome_bind_congr (RunM.leavesDisk_checkExclusive s.disk options) rfl fun _ t ht => ?_
  refine outcome_bind_congr (RunM.leavesDisk_resolve s.disk _ _ _ _) ht fun settings t ht => ?_
  refine outcome_bind_congr (RunM.leavesDisk_adopt s.disk settings) ht fun _ t ht => ?_
  rw [outcome_bind, h t ht]

/-- The module of a run, told by the declarations of the document. -/
theorem outcome_prepare_of_declarations {v : Value} {names : Haskell.TypeNames} {name : String}
    {path : Path} {ds : List (Declaration FieldType)}
    (hdocument : ∀ t : Session, t.disk = s.disk → outcome (RunM.document input source) t = (.ok v, t))
    (hmade : ((outcome (RunM.prepareFrom v options source) s).1.toOption.map fun p =>
      (p.1.typeNames, p.2.moduleName, p.2.path)) = some (names, name, path))
    (hdeclared : ((outcome (RunM.prepareFrom v options source) s).1.toOption.bind fun p =>
      (Schema.ofDocument p.1 v).toOption.map Schema.declarations) = some ds) :
    ∃ settings t, outcome (RunM.prepare input options source) s =
      (.ok (settings, ⟨name, path, (Haskell.Module.ofDeclarations names name ds).text⟩), t) := by
  rw [outcome_prepare_of_document hdocument]
  rcases hrun : outcome (RunM.prepareFrom v options source) s with ⟨stop | ⟨settings, target⟩, t⟩ <;>
    rw [hrun] at hmade hdeclared
  · cases hmade
  · simp only [Except.toOption, Option.map_some, Option.some.injEq, Prod.mk.injEq] at hmade
    obtain ⟨rfl, rfl, rfl⟩ := hmade
    refine ⟨settings, t, ?_⟩
    simp only [RunM.prepareFrom, outcome_bind_eq_ok] at hrun
    obtain ⟨_, _, -, settings', _, -, _, _, -, name, _, -, schema, _, hinferred, _, _, -, hend⟩ := hrun
    obtain ⟨rfl, rfl⟩ : settings' = settings ∧ schema.target settings' name = target := by
      simpa using congrArg Prod.fst hend
    obtain rfl : schema.declarations = ds := by
      simpa [Except.toOption, ofDocument_of_schema hinferred] using hdeclared
    rfl

/-! ## Deliveries -/

namespace RunM

/-- A run of generation up to the report of what became of the module. -/
def delivery (input : List UInt8) (options : Parsed Key) (source : String) :
    RunM (Output.Target × Output.Receipt) := do
  let (settings, target) ← prepare input options source
  let toOutput := options.has .toOutput
  if options.has .patch && !toOutput then showPatch target
  let receipt ← deliver target (.select settings.applyChanges toOutput)
  return (target, receipt)

/-- What a run tells of what a sink did. -/
def announce (target : Output.Target) (receipt : Output.Receipt) : RunM Output.Receipt := do
  print receipt.printed
  log (receipt.record target)
  return receipt

/-- The end of a run after the report, which has an exit code of its own if a file would be
changed. -/
def conclude (receipt : Output.Receipt) (verbosity : Int) : RunM Unit := do
  if receipt.status = .wouldWrite then
    if 0 < verbosity then printLine "Run again with --apply to write the module."
    throw (.done 2)

end RunM

/-- How a run ends after a delivery. -/
def reported : Except Stop (Output.Target × Output.Receipt) × Session → Except Stop Unit × Session
  | (.error stop, s) => (.error stop, s)
  | (.ok (target, receipt), s) => outcome (RunM.reportReceipt target receipt) s

theorem outcome_generate (input : List UInt8) (source : String) (s : Session)
    (h : options.has .toOutput = false) :
    outcome (RunM.generate input options source) s =
      reported (outcome (RunM.delivery input options source) s) := by
  have heq : RunM.generate input options source =
      RunM.delivery input options source >>= fun delivered =>
        RunM.reportReceipt delivered.1 delivered.2 := by
    simp only [RunM.generate, RunM.delivery, bind_assoc, h, Bool.false_eq_true, if_false]
    congr 1
    funext p
    split <;> simp
  rw [heq, outcome_bind]
  rcases outcome (RunM.delivery input options source) s with ⟨_ | _, t⟩ <;> rfl

theorem outcome_onFile {α : Type} (target : Output.Target) (work : FileM α) (s : Session) :
    outcome (RunM.onFile target work) s =
      ((outcome work s.disk).1.mapError (RunM.fileFailure target),
        { s with disk := (outcome work s.disk).2 }) := by
  rw [RunM.onFile, outcome_bind]
  have hattempt : outcome (RunM.attempt work) s =
      (.ok (outcome work s.disk).1, { s with disk := (outcome work s.disk).2 }) := rfl
  rw [hattempt]
  cases (outcome work s.disk).1 <;> rfl

/-- Telling what a sink did always goes well, and leaves the disk. -/
theorem outcome_announce (target : Output.Target) (receipt : Output.Receipt) (s : Session) :
    ∃ t, outcome (RunM.announce target receipt) s = (.ok receipt, t) ∧ t.disk = s.disk := by
  refine ⟨_, rfl, ?_⟩
  dsimp only
  split <;> rfl

theorem outcome_requireBytes {text : String} (h : s.disk.halves.HasBytes text) :
    outcome (RunM.requireBytes text) s = (.ok (), s) := by
  rw [RunM.requireBytes, outcome_bind, outcome_get]
  dsimp only
  rw [Text.Halves.encode_eq_ok_iff.2 ⟨h, rfl⟩]
  rfl

theorem hasBytes_receiptLine {halves : Text.Halves} {target : Output.Target}
    {receipt : Output.Receipt} (hpath : halves.HasBytes target.path.text)
    (hname : halves.HasBytes target.moduleName) :
    halves.HasBytes (RunM.receiptLine target receipt) := by
  have hfixed {s : String} (h : s.toList.all (fun c => c.toNat < 0xF0000) = true) :
      halves.HasBytes s :=
    Text.Halves.hasBytes_of_lt fun c hc => of_decide_eq_true (List.all_eq_true.1 h c hc)
  have hwords : halves.HasBytes receipt.status.words := by
    cases receipt.status <;> exact hfixed (by decide)
  simp only [RunM.receiptLine, Text.Halves.hasBytes_append, hpath, hname, hwords, true_and, and_true]
  exact ⟨⟨hfixed (by decide), hfixed (by decide)⟩, hfixed (by decide)⟩

theorem outcome_conclude (receipt : Output.Receipt) (verbosity : Int) (s : Session) :
    (outcome (RunM.conclude receipt verbosity) s).1 =
      if receipt.status = .wouldWrite then .error (.done 2) else .ok () := by
  unfold RunM.conclude
  split
  · split <;> rfl
  · rfl

/-- If its line can be printed, a report ends by the status of the delivery. -/
theorem outcome_reportReceipt {target : Output.Target} {receipt : Output.Receipt}
    (h : s.disk.halves.HasBytes (RunM.receiptLine target receipt)) :
    (outcome (RunM.reportReceipt target receipt) s).1 =
      if receipt.status = .wouldWrite then .error (.done 2) else .ok () := by
  rw [RunM.reportReceipt, outcome_bind, outcome_get]
  dsimp only
  split
  · rw [outcome_bind, outcome_requireBytes h]
    exact outcome_conclude receipt s.verbosity _
  · exact outcome_conclude receipt s.verbosity s

section Sinks

variable (d : Disk)

theorem leavesDisk_showPatch (target : Output.Target) : LeavesDisk d (RunM.showPatch target) := by
  refine keeps_get_bind fun s _ => ?_
  split
  · exact RunM.leavesDisk_throw d _
  · exact (RunM.leavesDisk_requireBytes d _).bind fun _ => RunM.leavesDisk_print d _

theorem leavesDisk_announce (target : Output.Target) (receipt : Output.Receipt) :
    LeavesDisk d (RunM.announce target receipt) := by
  refine (RunM.leavesDisk_print d _).bind fun _ => ?_
  exact (RunM.leavesDisk_log d _).bind fun _ => keeps_pure receipt

theorem leavesDisk_conclude (receipt : Output.Receipt) (verbosity : Int) :
    LeavesDisk d (RunM.conclude receipt verbosity) := by
  unfold RunM.conclude
  split
  · split
    · exact (RunM.leavesDisk_print d _).bind fun _ => RunM.leavesDisk_throw d _
    · exact RunM.leavesDisk_throw d _
  · exact keeps_pure ()

theorem leavesDisk_reportReceipt (target : Output.Target) (receipt : Output.Receipt) :
    LeavesDisk d (RunM.reportReceipt target receipt) := by
  refine keeps_get_bind fun s _ => ?_
  dsimp only
  split
  · refine (RunM.leavesDisk_requireBytes d _).bind fun _ => ?_
    refine (RunM.leavesDisk_painted d _ _).bind fun line => ?_
    exact (RunM.leavesDisk_print d _).bind fun _ =>
      leavesDisk_conclude d receipt s.verbosity
  · exact leavesDisk_conclude d receipt s.verbosity

theorem leavesDisk_onFile {α : Type} (target : Output.Target) {work : FileM α}
    (h : (outcome work d).2 = d) : LeavesDisk d (RunM.onFile target work) := by
  rintro s rfl
  rw [outcome_onFile]
  exact ⟨h, fun _ _ => trivial⟩

/-- Only one sink changes the disk. -/
theorem leavesDisk_deliver (target : Output.Target) {sink : Output.Sink} (h : sink ≠ .files) :
    LeavesDisk d (RunM.deliver target sink) := by
  have hask : LeavesDisk d (RunM.onFile target (Change.ask target.existing?)) :=
    leavesDisk_onFile d target (by rw [Change.outcome_ask])
  have hunencodable (e : Text.EncodeError) : LeavesDisk d (RunM.handUnencodable target e sink) := by
    cases sink with
    | nowhere => exact hask.bind fun _ => keeps_pure _
    | standardOutput => exact RunM.leavesDisk_throw d _
    | files => exact absurd rfl h
  have hdeliver : (outcome (Output.deliver target sink) d).2 = d := by
    cases sink with
    | nowhere => rw [Output.outcome_deliver_nowhere]
    | standardOutput =>
      show (outcome (if target.text = "" then _ else _) d).2 = d
      split <;> rfl
    | files => exact absurd rfl h
  refine Keeps.bind ?_ fun receipt => leavesDisk_announce d target receipt
  refine keeps_get_bind fun s _ => ?_
  split
  · exact leavesDisk_onFile d target hdeliver
  · exact hunencodable _

end Sinks
theorem outcome_deliver_of_hasBytes {target : Output.Target} (sink : Output.Sink)
    (h : s.disk.halves.HasBytes target.text) :
    outcome (RunM.deliver target sink) s =
      outcome (RunM.onFile target (Output.deliver target sink) >>= RunM.announce target) s := by
  have hhand : outcome (RunM.hand target sink) s =
      outcome (RunM.onFile target (Output.deliver target sink)) s := by
    rw [RunM.hand, outcome_bind, outcome_get]
    dsimp only
    rw [Text.Halves.encode_eq_ok_iff.2 ⟨h, rfl⟩]
  show outcome (RunM.hand target sink >>= RunM.announce target) s = _
  rw [outcome_bind, outcome_bind, hhand]

theorem outcome_deliver_of_unencodable {target : Output.Target} (sink : Output.Sink)
    {e : Text.EncodeError} (h : s.disk.halves.encode target.text = .error e) :
    outcome (RunM.deliver target sink) s =
      outcome (RunM.handUnencodable target e sink >>= RunM.announce target) s := by
  have hhand : outcome (RunM.hand target sink) s =
      outcome (RunM.handUnencodable target e sink) s := by
    rw [RunM.hand, outcome_bind, outcome_get]
    dsimp only
    rw [h]
  show outcome (RunM.hand target sink >>= RunM.announce target) s = _
  rw [outcome_bind, outcome_bind, hhand]

theorem exitCode_fileFailure {target : Output.Target} {e : Files.Error} (h : e.IsRefusal) :
    ∃ failure, RunM.fileFailure target e = .failed failure ∧ failure.exitCode = 74 := by
  obtain ⟨cause, p, other, rfl⟩ := h
  exact ⟨_, rfl, rfl⟩

end CommandLine

end SampleTypes
