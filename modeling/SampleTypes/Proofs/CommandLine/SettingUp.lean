/-
Setting up a run. Every command comes after it, and the level of the log is read in it: a level that
cannot be read ends the run there, before a command has done anything (`unreadable_level_ends_run`).
That is the only way in which a level can do so; a name that no level has sets the usual one.
-/
import SampleTypes.CommandLine.Program
import SampleTypes.Proofs.Log
import SampleTypes.Proofs.Work

namespace SampleTypes.CommandLine

open Work

namespace RunM

/-! ## Reading options -/

/-- Work that leaves the session as it is, whether or not it fails. -/
abbrev LeavesSession {α : Type} (s : Session) (work : RunM α) : Prop :=
  Keeps (· = s) (fun _ => True) work

theorem LeavesSession.eq {α : Type} {s t : Session} {work : RunM α} {result : Except Stop α}
    (h : LeavesSession s work) (hrun : Work.outcome work s = (result, t)) : t = s := by
  simpa [hrun] using (h s rfl).1

theorem leavesSession_refuse {α : Type} (s : Session) (command : Option Command)
    (result : Except Mistake α) : LeavesSession s (refuse command result) := by
  cases result with
  | ok a => exact keeps_pure a
  | error m => exact keeps_throw trivial

theorem leavesSession_refusePath (s : Session) (command : Option Command)
    (result : Except Stop (Option Mistake)) : LeavesSession s (refusePath command result) := by
  unfold refusePath
  split
  · exact keeps_pure ()
  · exact keeps_throw trivial
  · exact keeps_throw trivial

theorem leavesSession_ask {α : Type} (s : Session) (question : Files.Disk → Except Files.Error α) :
    LeavesSession s (ask question) := by
  refine keeps_get_bind fun t _ => ?_
  split
  · exact keeps_pure _
  · exact keeps_throw trivial

theorem leavesSession_checkOption (s : Session) (command : Option Command) (options : Parsed Key)
    (key : Key) : LeavesSession s (checkOption command options key) := by
  refine keeps_get_bind fun t _ => ?_
  cases key with
  | format | colour => exact leavesSession_refuse s command _
  | config => exact Keeps.forM (fun text => leavesSession_refusePath s command _) _
  | outputDir =>
    cases options.text? .outputDir with
    | none => exact keeps_pure ()
    | some text => exact leavesSession_refusePath s command _
  | anchor =>
    cases options.text? .anchor with
    | none => exact keeps_pure ()
    | some text => exact (leavesSession_ask s _).bind fun _ => keeps_pure ()
  | _ => exact keeps_pure ()

/-- Only help changes the session, and it ends the run. -/
theorem session_of_readOptions {command : Option Command} {specs : List (OptionSpec Key)}
    {mixed : Bool} {words : List String} {options : Parsed Key} {s t : Session}
    (h : Work.outcome (readOptions command specs mixed words) s = (.ok options, t)) : t = s := by
  obtain ⟨parsed, u, hparse, hrest⟩ := outcome_bind_eq_ok.1 h
  obtain rfl := (leavesSession_refuse s command _).eq hparse
  have hchecks : LeavesSession u (do
      parsed.order.forM (checkOption command parsed)
      return parsed) :=
    (Keeps.forM (leavesSession_checkOption u command parsed) parsed.order).bind fun _ =>
      keeps_pure parsed
  by_cases hhelp : parsed.has .help = true
  · simp only [hhelp, if_true, outcome_bind_eq_ok, outcome_throw] at hrest
    obtain ⟨_, _, _, _, _, hthrow, _⟩ := hrest
    cases hthrow
  · simp only [hhelp] at hrest
    exact hchecks.eq hrest

/-! ## Setting up -/

theorem outcome_begin_unreadable {environment : Environment} {options : Parsed Key} {v : Int}
    (hverbosity : verbosity? (options.count .verbose) (options.count .quiet) = some v) {text : String}
    (htext : environment.logLevel = some text) {reason : Log.LevelError}
    (hlevel : Log.level? text = .error reason) (s : Session) :
    Work.outcome (begin environment options) s =
      (.error (.crashed (.logLevel reason)), { s with verbosity := v }) := by
  simp only [begin, hverbosity, htext, hlevel]
  rfl

theorem outcome_begin_readable {environment : Environment} {options : Parsed Key} {v : Int}
    (hverbosity : verbosity? (options.count .verbose) (options.count .quiet) = some v) {text : String}
    (htext : environment.logLevel = some text) {level : Option Nat}
    (hlevel : Log.level? text = .ok level) (s : Session) :
    (Work.outcome (begin environment options) s).1 = .ok () := by
  simp only [begin, hverbosity, htext, hlevel]
  rfl

end RunM

/-- The command line leads to setting up: its general options are read and do not contradict each
other, and behind them stands a command or nothing. -/
structure SetsUp (disk : Files.Disk) (request : Request) (options : Parsed Key) : Prop where
  reads : ∃ s, Work.outcome (RunM.readGeneral request.arguments) { disk := disk } = (.ok options, s)
  verbosity : (verbosity? (options.count .verbose) (options.count .quiet)).isSome
  command : ∀ word, options.arguments.head? = some word → (Command.ofName? word).isSome

theorem run_of_unreadable {disk : Files.Disk} {request : Request} {options : Parsed Key}
    (h : SetsUp disk request options) {text : String} (htext : request.environment.logLevel = some text)
    {reason : Log.LevelError} (hlevel : Log.level? text = .error reason) :
    run disk request =
      { exitCode := 1, output := "", errors := "", disk := disk, crash := some (.logLevel reason) } := by
  obtain ⟨t, hreads⟩ := h.reads
  obtain rfl := RunM.session_of_readOptions hreads
  obtain ⟨v, hverbosity⟩ := Option.isSome_iff_exists.1 h.verbosity
  have hbegin := RunM.outcome_begin_unreadable hverbosity htext hlevel { disk := disk }
  have hprogram : Work.outcome (RunM.program request) { disk := disk } =
      (.error (.crashed (.logLevel reason)), { disk := disk, verbosity := v }) := by
    rw [RunM.program, outcome_bind, hreads]
    cases hwords : options.arguments with
    | nil => simp only [hwords, outcome_bind, hbegin]
    | cons word rest =>
      obtain ⟨command, hcommand⟩ := Option.isSome_iff_exists.1 (h.command word (by simp [hwords]))
      simp only [hwords, hcommand, outcome_bind, hbegin]
  have hrun : run disk request =
      RunM.outcome { disk := disk, verbosity := v } (.crashed (.logLevel reason)) := by
    rw [run, RunM.complete]
    rw [Work.outcome] at hprogram
    rw [hprogram]
  rw [hrun]
  rfl

/-- **A level that cannot be read ends every run.** Reading a level fails exactly for digits, blanks at
the ends apart, that write no number; else it gives the level that the text stands for, if any. Setting
up fails because of the level exactly then, and else it does not fail at all, unless the general options
contradict each other. So a run with any command ends there with an error that nothing expects, and has
done nothing. -/
theorem unreadable_level_ends_run (text : String) :
    ((∃ reason, Log.level? text = .error reason) ↔ Log.IsUnreadable text) ∧
    (¬ Log.IsUnreadable text → Log.level? text = .ok (Log.levelOf? text)) ∧
    (∀ (environment : Environment) (options : Parsed Key) (s : Session),
      environment.logLevel = some text →
      (verbosity? (options.count .verbose) (options.count .quiet)).isSome →
        ((∃ stop, (Work.outcome (RunM.begin environment options) s).1 = .error stop) ↔
          Log.IsUnreadable text)) ∧
    ∀ (disk : Files.Disk) (request : Request) (options : Parsed Key), SetsUp disk request options →
      request.environment.logLevel = some text → Log.IsUnreadable text →
        ∃ reason, run disk request = {
          exitCode := 1, output := "", errors := "", disk := disk, crash := some (.logLevel reason) } := by
  obtain ⟨hfails, hreads⟩ := Log.level?_eq text
  have hiff : (∃ reason, Log.level? text = .error reason) ↔ Log.IsUnreadable text := by
    refine ⟨fun ⟨reason, hreason⟩ => ?_, hfails⟩
    by_contra hnot
    rw [hreads hnot] at hreason
    cases hreason
  refine ⟨hiff, hreads, ?_, ?_⟩
  · intro environment options s htext hverbosity
    obtain ⟨v, hv⟩ := Option.isSome_iff_exists.1 hverbosity
    constructor
    · rintro ⟨stop, hstop⟩
      by_contra hnot
      rw [RunM.outcome_begin_readable hv htext (hreads hnot) s] at hstop
      cases hstop
    · intro hunreadable
      obtain ⟨reason, hreason⟩ := hfails hunreadable
      exact ⟨_, by rw [RunM.outcome_begin_unreadable hv htext hreason s]⟩
  · intro disk request options hsetsUp htext hunreadable
    obtain ⟨reason, hreason⟩ := hfails hunreadable
    exact ⟨reason, run_of_unreadable hsetsUp htext hreason⟩

/-- A superscript, when only the version is asked for. -/
theorem unreadable_level_ends_run_version :
    let disk : Files.Disk := { nodes := [], workingDirectory := [], mask := 0o022, token := "token" }
    let request : Request := { arguments := ["version"], environment := { logLevel := some "²" } }
    SetsUp disk request { arguments := ["version"] } ∧ Log.IsUnreadable "²" ∧
      ∃ reason, run disk request = {
        exitCode := 1, output := "", errors := "", disk := disk, crash := some (.logLevel reason) } := by
  intro disk request
  have hsetsUp : SetsUp disk request { arguments := ["version"] } :=
    ⟨⟨_, rfl⟩, rfl, by decide⟩
  have hunreadable : Log.IsUnreadable "²" := by decide +kernel
  exact ⟨hsetsUp, hunreadable,
    (unreadable_level_ends_run "²").2.2.2 disk request _ hsetsUp rfl hunreadable⟩

/-- Digits that are not decimal are not taken for an unknown name; and a name that no level has is
passed over. -/
theorem superscript_level_fails :
    Log.level? "²" = .error (.notDecimal "²") ∧ Log.level? "loud" = .ok none := by
  decide +kernel

end SampleTypes.CommandLine
