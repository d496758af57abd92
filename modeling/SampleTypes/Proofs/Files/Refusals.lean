/-
The errors of placing a file. Where no name holds the null character, all of them are refusals of
the system (`isRefusable_replaceFile`).
-/
import SampleTypes.Proofs.Files.Growth
import SampleTypes.Proofs.Text.Avoids
import SampleTypes.Proofs.Work

namespace SampleTypes

open Text

/-- A character that no root of a path is written with is in the text of a path only if it is in a
segment. -/
theorem Path.avoids_text {x : Char} (hslash : x ≠ '/') (hdot : x ≠ '.') {p : Path} :
    Avoids x p.text ↔ ∀ name ∈ p.segments, Avoids x name := by
  have hsep : Avoids x "/" := by simpa [Avoids] using hslash
  obtain ⟨root, segments⟩ := p
  rw [Path.text.eq_def]
  split
  · next hroot hsegments =>
    simp only at hsegments
    subst hsegments
    simpa [Avoids] using hdot
  · next hroot =>
    have hroot : Avoids x root.text := by
      cases root <;> simp [Path.Root.text, Avoids, hslash]
    simp only [avoids_append, hroot, true_and, avoids_join hsep]

/-- No name in the path holds the null character. -/
def Path.AvoidsNull (p : Path) : Prop :=
  ∀ name ∈ p.segments, Avoids '\x00' name

theorem Path.avoidsNull_iff {p : Path} : p.AvoidsNull ↔ '\x00' ∉ p.text.toList :=
  (Path.avoids_text (by decide) (by decide)).symm

theorem Path.AvoidsNull.parent {p : Path} (h : p.AvoidsNull) : p.parent.AvoidsNull :=
  fun name hname => h name (List.dropLast_subset _ hname)

namespace Files

open Work

/-- The system refuses. -/
def Error.IsRefusal (e : Error) : Prop :=
  ∃ cause p target, e = .refused cause p target

namespace Disk

/-- No name that the disk gives to a path holds the null character. -/
structure AvoidsNull (d : Disk) : Prop where
  token : Avoids '\x00' d.token
  workingDirectory : ∀ name ∈ d.workingDirectory, Avoids '\x00' name

variable {d : Disk} {p : Path} {e : Error}

theorem AvoidsNull.put (h : d.AvoidsNull) (location : Location) (node : Node) :
    (d.put location node).AvoidsNull :=
  ⟨h.token, h.workingDirectory⟩

theorem AvoidsNull.remove (h : d.AvoidsNull) (location : Location) :
    (d.remove location).AvoidsNull :=
  ⟨h.token, h.workingDirectory⟩

theorem isRefusal_refuse (p : Path) (cause : Cause) : (refuse p cause).IsRefusal :=
  ⟨cause, p, none, rfl⟩

theorem locate_error (h : d.locate p = .error e) :
    e.IsRefusal ∨ e = .nullCharacter ∧ ¬ p.AvoidsNull := by
  rw [locate] at h
  split at h
  · next hnull =>
    obtain rfl := Except.error.inj h
    exact .inr ⟨rfl, fun hp => Path.avoidsNull_iff.1 hp hnull⟩
  split at h
  · obtain rfl := Except.error.inj h
    exact .inl (isRefusal_refuse p _)
  · cases hfollow : d.follow (d.start p) p.segments with
    | error cause =>
      rw [hfollow] at h
      obtain rfl := Except.error.inj h
      exact .inl (isRefusal_refuse p cause)
    | ok location =>
      rw [hfollow] at h
      cases h

theorem isRefusal_locate (hp : p.AvoidsNull) (h : d.locate p = .error e) : e.IsRefusal :=
  (locate_error h).resolve_right fun hnull => hnull.2 hp

/-- Looking passes over a null character. -/
theorem isRefusal_look (h : d.look p = .error e) : e.IsRefusal := by
  unfold look at h
  split at h
  all_goals try cases h
  next hnull _ _ hfind =>
  unfold find at hfind
  split at hfind
  · next hlocate =>
    obtain rfl := Except.error.inj hfind
    exact (locate_error hlocate).resolve_right fun h => hnull (h.1 ▸ rfl)
  · split at hfind
    · obtain rfl := Except.error.inj hfind
      exact isRefusal_refuse p _
    · cases hfind

theorem complete_avoidsNull (hd : d.AvoidsNull) (hp : p.AvoidsNull) :
    ∃ location, d.complete p = .ok location ∧ ∀ name ∈ location, Avoids '\x00' name := by
  have hok : d.complete p = .ok (p.segments.foldl stepTo (d.start p)) := by
    rw [complete, if_neg (Path.avoidsNull_iff.1 hp)]
  exact ⟨_, hok, forall_mem_complete hd.workingDirectory hp hok⟩

end Disk

namespace Change

variable {α β : Type} {P : Disk → Prop} {E : Error → Prop}

theorem keeps_ask_bind {question : Disk → Except Error α} {f : α → FileM β}
    (he : ∀ d e, P d → question d = .error e → E e)
    (hf : ∀ d a, P d → question d = .ok a → Keeps P E (f a)) : Keeps P E (ask question >>= f) := by
  intro d hd
  rw [outcome_bind, outcome_ask]
  cases hq : question d with
  | error e =>
    refine ⟨hd, fun e' h => ?_⟩
    obtain rfl : e = e' := Except.error.inj h
    exact he d e hd hq
  | ok a => exact hf d a hd hq d hd

/-- Work that keeps the names of the disk free of the null character, and that only the system
refuses. -/
abbrev IsRefusable (work : FileM α) : Prop :=
  Keeps Disk.AvoidsNull Error.IsRefusal work

theorem isRefusable_check (faults : Faults) (step : Step) (p : Path) (target : Option Path) :
    IsRefusable (check faults step p target) := by
  unfold check
  cases faults step with
  | none => exact keeps_pure ()
  | some cause => exact keeps_throw ⟨cause, p, target, rfl⟩

/-! ## Directories -/

theorem isRefusable_makeDirectory (faults : Faults) {p : Path} (hp : p.AvoidsNull) (again : Bool) :
    IsRefusable (makeDirectory faults p again) := by
  refine (isRefusable_check faults _ p none).bind fun _ => ?_
  refine keeps_ask_bind (fun d e _ h => Disk.isRefusal_locate hp h) fun _ location _ _ => ?_
  refine keeps_get_bind fun d hd => ?_
  cases d.node? location with
  | some node => exact keeps_throw (Disk.isRefusal_refuse p _)
  | none => exact keeps_set (hd.put location .directory)

theorem isRefusable_unlessDirectory (p : Path) {e : Error} (he : e.IsRefusal) :
    IsRefusable (unlessDirectory p e) := by
  unfold unlessDirectory
  split
  · exact keeps_throw he
  · refine keeps_ask_bind (fun d e' _ h => ?_) fun _ isDirectory _ _ => ?_
    · rw [Disk.isDirectory] at h
      cases hlook : d.look p with
      | error cause =>
        rw [hlook] at h
        obtain rfl : cause = e' := Except.error.inj h
        exact Disk.isRefusal_look hlook
      | ok node =>
        rw [hlook] at h
        cases h
    · cases isDirectory with
      | true => exact keeps_pure ()
      | false => exact keeps_throw he
  · exact keeps_throw he

theorem isRefusable_makeDirectoriesFrom (faults : Faults) (root : Path.Root) {names : List String}
    (hnames : ∀ name ∈ names, Avoids '\x00' name) :
    IsRefusable (makeDirectoriesFrom faults root names) := by
  have hpath {names : List String} (hnames : ∀ name ∈ names, Avoids '\x00' name) :
      Path.AvoidsNull ⟨root, names.reverse⟩ :=
    fun name hname => hnames name (List.mem_reverse.1 hname)
  induction names with
  | nil =>
    exact (isRefusable_makeDirectory faults (hpath hnames) false).tryCatch
      fun e he => isRefusable_unlessDirectory _ he
  | cons name above ih =>
    refine (isRefusable_makeDirectory faults (hpath hnames) false).tryCatch fun e he => ?_
    split
    · refine (ih fun name hname => hnames name (List.mem_cons_of_mem _ hname)).bind fun _ => ?_
      exact (isRefusable_makeDirectory faults (hpath hnames) true).tryCatch
        fun e he => isRefusable_unlessDirectory _ he
    · exact isRefusable_unlessDirectory _ he

/-! ## Files -/

theorem isRefusable_createFile {p : Path} (hp : p.AvoidsNull) : IsRefusable (createFile p) := by
  refine keeps_ask_bind (fun d e _ h => Disk.isRefusal_locate hp h) fun _ location _ _ => ?_
  refine keeps_get_bind fun d hd => ?_
  cases d.node? location with
  | some node => exact keeps_throw (Disk.isRefusal_refuse p _)
  | none => exact (keeps_set (hd.put location _)).bind fun _ => keeps_pure location

theorem isRefusable_moveFile (location : Location) (p : Path) {target : Path}
    (htarget : target.AvoidsNull) : IsRefusable (moveFile location p target) := by
  refine keeps_get_bind fun d hd => ?_
  split
  · exact keeps_throw ⟨_, _, _, rfl⟩
  · next h _ hlocate => exact keeps_throw (Disk.isRefusal_locate htarget hlocate)
  · split
    · split
      · exact keeps_throw ⟨_, _, _, rfl⟩
      · exact keeps_set ((hd.put _ _).remove location)
      · exact keeps_throw ⟨_, _, _, rfl⟩
    · exact keeps_throw ⟨_, _, _, rfl⟩

theorem isRefusable_fillAndMove (faults : Faults) (location : Location) (temporary : Path)
    {p : Path} (hp : p.AvoidsNull) (bytes : List UInt8) (mode : Nat) :
    IsRefusable (fillAndMove faults location temporary p bytes mode) := by
  have hput (mode : Nat) : IsRefusable (modify (·.put location (.file bytes mode))) :=
    keeps_modify fun d hd => hd.put location _
  refine (isRefusable_check faults _ _ _).bind fun _ => ?_
  refine (hput privateMode).bind fun _ => ?_
  refine (isRefusable_check faults _ _ _).bind fun _ => ?_
  refine (hput mode).bind fun _ => ?_
  refine (isRefusable_check faults _ _ _).bind fun _ => ?_
  exact isRefusable_moveFile location temporary hp

theorem isRefusable_orRemove (location : Location) {work : FileM Unit} (h : IsRefusable work) :
    IsRefusable (orRemove location work) :=
  h.tryCatch fun _ he => (keeps_modify fun _ hd => hd.remove location).bind fun _ => keeps_throw he

theorem isRefusal_modeFor {d : Disk} {p : Path} {e : Error} (h : modeFor d p = .error e) :
    e.IsRefusal := by
  unfold modeFor at h
  split at h
  · next hlook =>
    obtain rfl := Except.error.inj h
    exact Disk.isRefusal_look hlook
  all_goals cases h

/-- **Placing a file fails only where the system refuses**, whatever the disk holds, if no name holds
the null character. -/
theorem isRefusable_replaceFile (faults : Faults) {p : Path} (hp : p.AvoidsNull)
    (bytes : List UInt8) : IsRefusable (replaceFile faults p bytes) := by
  have hparents : IsRefusable (makeDirectories faults p.parent) :=
    isRefusable_makeDirectoriesFrom faults _ fun name hname =>
      hp.parent name (List.mem_reverse.1 hname)
  refine hparents.bind fun _ => ?_
  refine keeps_ask_bind (fun d e _ h => isRefusal_modeFor h) fun _ mode _ _ => ?_
  refine keeps_ask_bind (fun d e hd h => ?_) fun d beside hd hbeside => ?_
  · obtain ⟨location, hlocation, -⟩ := Disk.complete_avoidsNull hd hp.parent
    rw [hlocation] at h
    cases h
  refine keeps_get_bind fun d' hd' => ?_
  have hname : Avoids '\x00' p.name := by
    unfold Path.name
    cases hlast : p.segments.getLast? with
    | none => decide
    | some name => exact hp name (List.mem_of_getLast? hlast)
  have htemporary : Path.AvoidsNull ((Disk.pathOf beside).child (temporaryName d' p.name)) := by
    obtain ⟨location, hlocation, havoids⟩ := Disk.complete_avoidsNull hd hp.parent
    obtain rfl : location = beside := Except.ok.inj (hlocation.symm.trans hbeside)
    intro name hmem
    rcases List.mem_append.1 hmem with hmem | hmem
    · exact havoids name hmem
    · obtain rfl := List.mem_singleton.1 hmem
      simp +decide [temporaryName, hname, hd'.token]
  refine (isRefusable_check faults _ _ _).bind fun _ => ?_
  refine (isRefusable_createFile htemporary).bind fun location => ?_
  exact isRefusable_orRemove location (isRefusable_fillAndMove faults location _ hp bytes mode)

end Change

end Files

end SampleTypes
