/-
What becomes of settings files that are broken. A file that is named on the command line is checked
before anything is read from it: a file that is missing, or is no table, is reported as a failure of
the configuration. Some broken files get past that, and past the reader that should take them for
empty tables: those that are no text, and those whose text breaks reading down (`Escapes`). The check
then ends with an error that nothing expects (`settingsFiles_checked`).
-/
import SampleTypes.CommandLine.Inputs
import SampleTypes.Proofs.Settings.Visiting

namespace SampleTypes

open Files Work

namespace Settings

/-! ## The reader -/

/-- Reading the table of a file ends with an error. -/
inductive Escapes (d : Disk) (p : Path) : Prop where
  /-- No file has such a path, and the system is not even asked. -/
  | nullCharacter (h : '\x00' ∈ p.text.toList)
  | undecodable {bytes : List UInt8} {reason : Text.Utf8.DecodeError}
    (hread : d.readBytes p = .ok bytes) (h : Text.Utf8.decode bytes = .error reason)
  | breakdown {text : String} {b : Toml.Breakdown} (hread : d.readText p = .ok text)
    (h : Toml.parse d.halves text = .error (.breakdown b))

theorem isSome_escape?_iff {d : Disk} {p : Path} : (escape? d p).isSome ↔ Escapes d p := by
  constructor
  · intro h
    unfold escape? at h
    cases hread : d.readText p with
    | ok text =>
      cases hparse : Toml.parse d.halves text with
      | ok table => simp [hread, hparse] at h
      | error fault =>
        cases fault with
        | breakdown b => exact .breakdown hread hparse
        | _ => simp [hread, hparse] at h
    | error e =>
      rw [Disk.readText] at hread
      cases hbytes : d.readBytes p with
      | error e' =>
        rw [hbytes] at hread
        obtain rfl : e' = e := by simpa using hread
        rcases Disk.readBytes_error hbytes with ⟨cause, q, target, rfl⟩ | ⟨-, hnull⟩
        · simp [Disk.readText, hbytes] at h
        · exact .nullCharacter hnull
      | ok bytes =>
        simp only [hbytes, Disk.textOf] at hread
        cases hdecode : Text.Utf8.decode bytes with
        | error reason => exact .undecodable hbytes hdecode
        | ok text =>
          rw [hdecode] at hread
          cases hread
  · rintro (hnull | ⟨hread, hdecode⟩ | ⟨hread, hparse⟩)
    · simp [escape?, Disk.readText, Disk.readBytes_of_null hnull]
    · simp [escape?, Disk.readText, hread, Disk.textOf, hdecode]
    · simp [escape?, hread, hparse]

end Settings

namespace CommandLine

open Settings

/-! ## Named files -/

/-- There is a file at the path, and its text is a table. -/
def HoldsTable (d : Disk) (p : Path) : Prop :=
  d.isFile p = .ok true ∧
    ∃ text table, d.readText p = .ok text ∧ Toml.parse d.halves text = .ok table

/-- The check of a named file ends with an error that nothing expects. -/
inductive Unforeseen (d : Disk) (p : Path) : Prop where
  /-- The system does not look the path up. -/
  | refused {e : Files.Error} (hlimits : ¬ Disk.WithinLimits p) (h : d.isFile p = .error e)
  | escapes (hfile : d.isFile p = .ok true) (h : Escapes d p)

/-- What the check of a named file ends a run with, if it does. -/
def rejection? (d : Disk) (p : Path) : Option Stop :=
  match d.isFile p with
  | .error e => some (.crashed (.file e))
  | .ok false => some (.failed (.noSettingsFile p))
  | .ok true =>
    match d.readText p with
    | .error e => some (.crashed (.file e))
    | .ok text =>
      match Toml.parse d.halves text with
      | .ok _ => none
      | .error (.breakdown b) => some (.crashed (.settingsFile b))
      | .error reason => some (.failed (.badSettingsFile p reason))

theorem ends_settingsFile (s : Session) (text : String) :
    Ends (· = s) (RunM.settingsFile text)
      (barring (rejection? s.disk (Path.ofText text)) (Path.ofText text)) := by
  unfold RunM.settingsFile rejection?
  dsimp only [RunM.ask]
  rw [bind_assoc]
  refine ends_get_bind fun t ht => ?_
  subst ht
  cases hfile : t.disk.isFile (Path.ofText text) with
  | error e => exact ends_throw_bind (Stop.crashed (.file e)) _
  | ok isFile =>
    refine (ends_pure isFile).bind fun _ => ?_
    cases isFile with
    | false => exact ends_throw _ _
    | true =>
      refine ends_get_bind fun u hu => ?_
      subst hu
      cases hread : u.disk.readText (Path.ofText text) with
      | error e =>
        -- what the system refuses to read is no file
        obtain ⟨bytes, reason, -, -, rfl⟩ := Disk.undecodable_of_isFile hfile hread
        exact ends_throw _ _
      | ok text' =>
        simp only
        cases Toml.parse u.disk.halves text' with
        | ok table => exact ends_pure _
        | error fault => cases fault <;> exact ends_throw _ _

/-- The failures that the check of a file reports. -/
def IsFailureOf (p : Path) (failure : Failure) : Prop :=
  failure = .noSettingsFile p ∨ ∃ reason, failure = .badSettingsFile p reason

theorem IsFailureOf.exitCode {p : Path} {failure : Failure} (h : IsFailureOf p failure) :
    failure.exitCode = 78 := by
  rcases h with rfl | ⟨reason, rfl⟩ <;> rfl

theorem not_unforeseen {d : Disk} {p : Path} (hfile : d.isFile p = .ok true)
    (h : escape? d p = none) : ¬ Unforeseen d p := by
  rintro (⟨-, hrefused⟩ | ⟨-, hescapes⟩)
  · rw [hfile] at hrefused
    cases hrefused
  · have hsome := isSome_escape?_iff.2 hescapes
    rw [h] at hsome
    cases hsome

theorem not_holdsTable {d : Disk} {p : Path} {text : String} {fault : Toml.Error}
    (hread : d.readText p = .ok text) (hparse : Toml.parse d.halves text = .error fault) :
    ¬ HoldsTable d p := by
  rintro ⟨-, text', table, hread', hparse'⟩
  obtain rfl : text = text' := Except.ok.inj (hread.symm.trans hread')
  rw [hparse] at hparse'
  cases hparse'

/-- A named file is a table, is reported, or is not foreseen. -/
theorem rejection?_cases (d : Disk) (p : Path) :
    (HoldsTable d p ∧ rejection? d p = none) ∨
    (¬ HoldsTable d p ∧ ¬ Unforeseen d p ∧
      ∃ failure, rejection? d p = some (.failed failure) ∧ IsFailureOf p failure) ∨
    (¬ HoldsTable d p ∧ Unforeseen d p ∧ ∃ crash, rejection? d p = some (.crashed crash)) := by
  unfold rejection?
  cases hfile : d.isFile p with
  | error e =>
    refine .inr (.inr ⟨?_, .refused (Disk.not_withinLimits hfile) hfile, _, rfl⟩)
    rintro ⟨h, -⟩
    rw [hfile] at h
    cases h
  | ok isFile =>
    cases isFile with
    | false =>
      refine .inr (.inl ⟨?_, fun h => ?_, _, rfl, .inl rfl⟩)
      · rintro ⟨h, -⟩
        rw [hfile] at h
        cases h
      · rcases h with ⟨-, h⟩ | ⟨h, -⟩ <;> rw [hfile] at h <;> cases h
    | true =>
      cases hread : d.readText p with
      | error e =>
        obtain ⟨bytes, reason, hbytes, hdecode, -⟩ := Disk.undecodable_of_isFile hfile hread
        refine .inr (.inr ⟨?_, .escapes hfile (.undecodable hbytes hdecode), _, rfl⟩)
        rintro ⟨-, text, table, hread', -⟩
        rw [hread] at hread'
        cases hread'
      | ok text =>
        cases hparse : Toml.parse d.halves text with
        | ok table =>
          simp only [hparse]
          exact .inl ⟨⟨hfile, text, table, hread, hparse⟩, trivial⟩
        | error fault =>
          have hnot := not_holdsTable hread hparse
          cases fault with
          | breakdown b =>
            simp only [hparse]
            exact .inr (.inr ⟨hnot, .escapes hfile (.breakdown hread hparse), _, rfl⟩)
          | _ =>
            have hnone : escape? d p = none := by simp only [escape?, hread, hparse]
            simp only [hparse]
            exact .inr (.inl ⟨hnot, not_unforeseen hfile hnone, _, rfl, .inr ⟨_, rfl⟩⟩)

/-- The first file that is rejected ends the check. -/
theorem findSome?_rejection? (d : Disk) (paths : List Path) :
    (paths.findSome? (rejection? d) = none ∧ ∀ p ∈ paths, HoldsTable d p) ∨
    ∃ before p after, paths = before ++ p :: after ∧ (∀ q ∈ before, HoldsTable d q) ∧
      ¬ HoldsTable d p ∧ paths.findSome? (rejection? d) = rejection? d p := by
  induction paths with
  | nil => exact .inl ⟨rfl, nofun⟩
  | cons p rest ih =>
    rcases rejection?_cases d p with ⟨htable, hnone⟩ | ⟨htable, -, failure, hsome, -⟩ |
      ⟨htable, -, crash, hsome⟩
    · rw [List.findSome?_cons, hnone]
      rcases ih with ⟨hrest, hall⟩ | ⟨before, q, after, rfl, hbefore, hq, hfirst⟩
      · exact .inl ⟨hrest, List.forall_mem_cons.2 ⟨htable, hall⟩⟩
      · exact .inr ⟨p :: before, q, after, rfl, List.forall_mem_cons.2 ⟨htable, hbefore⟩, hq, hfirst⟩
    all_goals exact .inr ⟨[], p, rest, rfl, nofun, htable, by rw [List.findSome?_cons, hsome]⟩

/-- **What broken settings files end in.** The reader takes a file that it cannot read for an empty
table, unless the file escapes it. The check gives all the paths if every file is a table; otherwise
the first that is none is reported as a failure of the configuration, unless it is not foreseen. -/
theorem settingsFiles_checked (d : Disk) :
    (∀ p log, (¬ Escapes d p → (outcome (readTable d p) log).1 = .ok (tableIn d p)) ∧
      (Escapes d p → ∃ e, (outcome (readTable d p) log).1 = .error e)) ∧
    ∀ (named : List String) (s : Session), s.disk = d →
      let paths := named.map Path.ofText
      let run := outcome (named.mapM RunM.settingsFile) s
      run.2 = s ∧
      ((run.1 = .ok paths ∧ ∀ p ∈ paths, HoldsTable d p) ∨
        ∃ before p after, paths = before ++ p :: after ∧ (∀ q ∈ before, HoldsTable d q) ∧
          ¬ HoldsTable d p ∧
          ((¬ Unforeseen d p ∧ ∃ failure, run.1 = .error (.failed failure) ∧
              IsFailureOf p failure ∧ failure.exitCode = 78) ∨
            (Unforeseen d p ∧ ∃ crash, run.1 = .error (.crashed crash)))) := by
  refine ⟨fun p log => ?_, ?_⟩
  · have hread := (endsAs_readTable d p log trivial).1
    rw [hread, ← isSome_escape?_iff]
    cases escape? d p <;> simp [barring]
  · rintro named s rfl paths run
    obtain ⟨hrun, hstate⟩ := Ends.mapM (ends_settingsFile s) named s rfl
    have hbar : named.findSome? (fun text => rejection? s.disk (Path.ofText text)) =
        paths.findSome? (rejection? s.disk) := by
      rw [List.findSome?_map]
      rfl
    rw [hbar] at hrun
    refine ⟨hstate, ?_⟩
    rcases findSome?_rejection? s.disk paths with
      ⟨hnone, hall⟩ | ⟨before, p, after, hpaths, hbefore, hp, hfirst⟩
    · rw [hnone] at hrun
      exact .inl ⟨hrun, hall⟩
    refine .inr ⟨before, p, after, hpaths, hbefore, hp, ?_⟩
    rw [hfirst] at hrun
    rcases rejection?_cases s.disk p with ⟨htable, -⟩ | ⟨-, hforeseen, failure, hsome, hfailure⟩ |
      ⟨-, hunforeseen, crash, hsome⟩
    · exact absurd htable hp
    · rw [hsome] at hrun
      exact .inl ⟨hforeseen, failure, hrun, hfailure, hfailure.exitCode⟩
    · rw [hsome] at hrun
      exact .inr ⟨hunforeseen, crash, hrun⟩

/-- A file with a byte that starts no character: the reader does not take it for an empty table, and
the check does not report it. -/
theorem settingsFiles_undecodable :
    let d : Disk :=
      { nodes := [(["bad.toml"], .file [0xff] 0o644)]
        workingDirectory := [], mask := 0o022, token := "token" }
    (outcome (readTable d (Path.ofText "bad.toml")) []).1.toOption = none ∧
      (outcome (["bad.toml"].mapM RunM.settingsFile) { disk := d }).1.mapError Stop.exitCode =
        .error 1 := by
  intro d
  decide +kernel

end CommandLine

end SampleTypes
