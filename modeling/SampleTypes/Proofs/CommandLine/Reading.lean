/-
What a run does before it hands its results over: it finds its settings, reads its document and
infers the schema. All of that leaves the disk as it is (`leavesDisk_prepare`), whether or not it
fails, so that each of these steps can be told from the disk at the start
(`outcome_document_of_file`).
-/
import SampleTypes.CommandLine.Execution
import SampleTypes.Proofs.CommandLine.Precedence

namespace SampleTypes

open Files Work

namespace CommandLine

/-! ## Runs that leave the disk -/

/-- Work that leaves the disk as it is, whether or not it fails. -/
abbrev LeavesDisk {α : Type} (d : Disk) (work : RunM α) : Prop :=
  Keeps (fun s => s.disk = d) (fun _ => True) work

namespace RunM

section

variable (d : Disk)

theorem leavesDisk_throw {α : Type} (stop : Stop) : LeavesDisk d (throw stop : RunM α) :=
  keeps_throw trivial

theorem leavesDisk_print (text : String) : LeavesDisk d (print text) :=
  keeps_modify fun _ hs => hs

theorem leavesDisk_requireBytes (text : String) : LeavesDisk d (requireBytes text) := by
  refine keeps_get_bind fun s _ => ?_
  split
  · exact keeps_pure ()
  · exact leavesDisk_throw d _

theorem leavesDisk_log (record : Log.Record) : LeavesDisk d (log record) :=
  keeps_modify fun s hs => by split <;> exact hs

theorem leavesDisk_painted (looks : List Terminal.Look) (text : String) :
    LeavesDisk d (painted looks text) :=
  keeps_get_bind fun _ _ => keeps_pure _

theorem leavesDisk_report (diagnostics : List Diagnostic) : LeavesDisk d (report diagnostics) :=
  keeps_report (fun _ _ hs => hs) diagnostics

theorem leavesDisk_ask {α : Type} (question : Disk → Except Files.Error α) :
    LeavesDisk d (ask question) := by
  refine keeps_get_bind fun s _ => ?_
  split
  · exact keeps_pure _
  · exact leavesDisk_throw d _

theorem leavesDisk_logged {α : Type} (work : Settings.LogM α) : LeavesDisk d (logged work) := by
  unfold logged
  refine (Keeps.forM (leavesDisk_log d) _).bind fun _ => ?_
  split
  · exact keeps_pure _
  · exact leavesDisk_throw d _
  · exact leavesDisk_throw d _

/-! ## Preparing -/

theorem leavesDisk_settingsFile (text : String) : LeavesDisk d (settingsFile text) := by
  refine (leavesDisk_ask d _).bind fun isFile => ?_
  cases isFile with
  | false => exact leavesDisk_throw d _
  | true =>
    refine keeps_get_bind fun s _ => ?_
    dsimp only
    split
    · split
      · exact keeps_pure _
      · exact leavesDisk_throw d _
      · exact leavesDisk_throw d _
    · split <;> exact leavesDisk_throw d _

theorem leavesDisk_resolve (anchor : Option Path) (discovers : Bool) (named : List String)
    (a : Arguments) : LeavesDisk d (resolve anchor discovers named a) := by
  refine (Keeps.mapM (leavesDisk_settingsFile d) named).bind fun files => ?_
  refine keeps_get_bind fun s _ => ?_
  refine (leavesDisk_logged d _).bind fun layer => ?_
  refine Keeps.bind ?_ fun _ => keeps_pure _
  unfold outputDir
  split
  · exact keeps_pure _
  · exact (leavesDisk_ask d _).bind fun _ => keeps_pure _

theorem leavesDisk_document (input : List UInt8) (source : String) :
    LeavesDisk d (document input source) := by
  unfold document
  split
  · unfold inputDocument
    split
    · exact leavesDisk_throw d _
    · refine keeps_get_bind fun s _ => ?_
      split
      · exact keeps_pure _
      · exact leavesDisk_throw d _
      · exact leavesDisk_throw d _
  · refine (leavesDisk_ask d _).bind fun exists? => ?_
    cases exists? with
    | false => exact leavesDisk_throw d _
    | true =>
      refine keeps_get_bind fun s _ => ?_
      split
      · exact keeps_pure _
      all_goals exact leavesDisk_throw d _

theorem leavesDisk_schema (settings : Settings) (document : Value) :
    LeavesDisk d (schema settings document) := by
  unfold schema
  split
  · exact leavesDisk_throw d _
  · exact (Keeps.forM (fun _ => leavesDisk_log d _) _).bind fun _ => keeps_pure _

theorem leavesDisk_checkExclusive (options : Parsed Key) :
    LeavesDisk d (checkExclusive options) := by
  have hrest : LeavesDisk d (if (options.has .toOutput && options.has .apply) = true then
      throw (.failed (.exclusive ["--stdout", "--apply"])) else pure ()) := by
    split
    · exact leavesDisk_throw d _
    · exact keeps_pure ()
  unfold checkExclusive
  dsimp only
  split
  · exact (leavesDisk_throw d _).bind fun _ => hrest
  · exact hrest

theorem leavesDisk_adopt (settings : Settings) : LeavesDisk d (adopt settings) := by
  refine Keeps.bind ?_ fun _ => leavesDisk_report d _
  exact keeps_modify fun _ hs => hs

theorem leavesDisk_moduleName (settings : Settings) (options : Parsed Key) (source : String) :
    LeavesDisk d (moduleName settings options source) := by
  unfold moduleName
  dsimp only
  split
  · exact keeps_pure _
  · exact leavesDisk_throw d _

theorem leavesDisk_prepare (input : List UInt8) (options : Parsed Key) (source : String) :
    LeavesDisk d (prepare input options source) := by
  refine (leavesDisk_checkExclusive d options).bind fun _ => ?_
  refine (leavesDisk_resolve d _ _ _ _).bind fun settings => ?_
  refine (leavesDisk_adopt d settings).bind fun _ => ?_
  refine (leavesDisk_document d input source).bind fun document => ?_
  refine (leavesDisk_moduleName d settings options source).bind fun name => ?_
  refine (leavesDisk_schema d settings document).bind fun schema => ?_
  exact (leavesDisk_report d _).bind fun _ => keeps_pure _

end

end RunM

theorem outcome_bind_congr {α β : Type} {x : RunM α} {f g : α → RunM β} {s : Session} {d : Disk}
    (hx : LeavesDisk d x) (hs : s.disk = d)
    (h : ∀ a t, t.disk = d → outcome (f a) t = outcome (g a) t) :
    outcome (x >>= f) s = outcome (x >>= g) s := by
  have hdisk := (hx s hs).1
  rw [outcome_bind, outcome_bind]
  rcases hrun : outcome x s with ⟨stop | a, t⟩
  · rfl
  · rw [hrun] at hdisk
    exact h a t hdisk

/-- A document is read from its file in the same way at any time before the disk changes. -/
theorem outcome_document_of_file {d : Disk} {source : String} {text : List Char} {v : Value}
    (hsource : source ≠ RunM.inputWord) (hexists : d.exists? (Path.ofText source) = .ok true)
    (htext : d.readText (Path.ofText source) = .ok (String.ofList text))
    (hparse : Json.document d.halves text = .ok v)
    (input : List UInt8) (t : Session) (ht : t.disk = d) :
    outcome (RunM.document input source) t = (.ok v, t) := by
  subst ht
  have hask : outcome (RunM.ask (·.exists? (Path.ofText source))) t = (.ok true, t) := by
    rw [RunM.ask, outcome_bind, outcome_get]
    simp only [hexists, outcome_pure]
  have hfile : Document.ofFile t.disk (Path.ofText source) = .ok v := by
    simp only [Document.ofFile, htext, Document.parse, Json.parse, String.toList_ofList, hparse]
    rfl
  rw [RunM.document, if_neg hsource, RunM.fileDocument, outcome_bind, hask]
  simp only [if_true]
  rw [outcome_bind, outcome_get]
  simp only [hfile, outcome_pure]

/-- The schema of a run is that of its document. -/
theorem ofDocument_of_schema {settings : Settings} {document : Value} {schema : Schema}
    {s t : Session} (h : outcome (RunM.schema settings document) s = (.ok schema, t)) :
    Schema.ofDocument settings document = .ok schema := by
  unfold RunM.schema at h
  cases hdocument : Schema.ofDocument settings document with
  | error reason =>
    rw [hdocument] at h
    cases h
  | ok schema =>
    simp only [hdocument, outcome_bind_eq_ok] at h
    obtain ⟨_, _, -, hpure⟩ := h
    rw [outcome_pure] at hpure
    exact congrArg Except.ok (Except.ok.inj (congrArg Prod.fst hpure))

end CommandLine

end SampleTypes
