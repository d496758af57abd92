/-
What writing a module leaves behind, whichever step of it fails. The file is written in full under a
name that nothing had, beside its place, and only the last step touches the place itself; a failure
before it takes the new file away again. So there are two ends: the disk has grown by directories on
the way to the file (`Disk.GrowsBy`), or it has also got the file (`Placed`).
-/
import SampleTypes.Output.Delivery
import SampleTypes.Proofs.Files.Growth
import SampleTypes.Proofs.Text.Utf8

namespace SampleTypes.Files

open Work

namespace Disk

/-- The permission bits of the file at a place once it is written: those that it has, or those of a
new file. -/
def modeAt (d : Disk) (place : Location) : Nat :=
  match d.node? place with
  | some (.file _ mode) => mode
  | _ => 0o666 - (0o666 &&& d.mask)

/-- The second disk has the same as the first but at one place. -/
structure AgreesBut (place : Location) (d d' : Disk) : Prop where
  workingDirectory : d'.workingDirectory = d.workingDirectory
  mask : d'.mask = d.mask
  token : d'.token = d.token
  halves : d'.halves = d.halves
  node? : ∀ l, l ≠ place → d'.node? l = d.node? l

namespace AgreesBut

variable {place : Location} {d d' d'' : Disk}

theorem refl (place : Location) (d : Disk) : AgreesBut place d d :=
  ⟨rfl, rfl, rfl, rfl, fun _ _ => rfl⟩

theorem trans (h : AgreesBut place d d') (h' : AgreesBut place d' d'') : AgreesBut place d d'' :=
  ⟨h'.workingDirectory.trans h.workingDirectory, h'.mask.trans h.mask, h'.token.trans h.token,
    h'.halves.trans h.halves, fun l hl => (h'.node? l hl).trans (h.node? l hl)⟩

theorem put (h : AgreesBut place d d') (node : Node) : AgreesBut place d (d'.put place node) :=
  ⟨h.workingDirectory, h.mask, h.token, h.halves,
    fun l hl => (node?_put_other d' hl node).trans (h.node? l hl)⟩

end AgreesBut

end Disk

namespace Change

open Disk

/-! ## Single steps -/

theorem outcome_createFile (p : Path) (d : Disk) :
    (∃ e, outcome (createFile p) d = (.error e, d)) ∨
    ∃ l, outcome (createFile p) d = (.ok l, d.put l (.file [] privateMode)) ∧
      d.locate p = .ok l ∧ d.node? l = none := by
  rw [createFile, outcome_bind, outcome_ask]
  cases hl : d.locate p with
  | error e => exact .inl ⟨e, rfl⟩
  | ok l =>
    dsimp only
    rw [outcome_bind, outcome_get]
    dsimp only
    cases hnode : d.node? l with
    | some node => exact .inl ⟨_, rfl⟩
    | none => exact .inr ⟨l, rfl, rfl, hnode⟩

theorem outcome_moveFile (l : Location) (p target : Path) (d : Disk) :
    (∃ e, outcome (moveFile l p target) d = (.error e, d)) ∨
    ∃ place node, outcome (moveFile l p target) d = (.ok (), (d.put place node).remove l) ∧
      d.locate target = .ok place ∧ endsInName target = true ∧
      d.node? place ≠ some .directory ∧ d.node? l = some node := by
  rw [moveFile, outcome_bind, outcome_get]
  dsimp only
  split
  · exact .inl ⟨_, rfl⟩
  · exact .inl ⟨_, rfl⟩
  · next place hplace =>
    split
    · next hname =>
      split
      · exact .inl ⟨_, rfl⟩
      · next node hnode hdir => exact .inr ⟨place, node, rfl, hplace, hname, hdir, hnode⟩
      · exact .inl ⟨_, rfl⟩
    · exact .inl ⟨_, rfl⟩

/-- Until the file is moved, only the new file changes; a failure leaves it at that. -/
theorem outcome_fillAndMove (faults : Faults) {l : Location} (temporary p : Path)
    (bytes : List UInt8) (mode : Nat) (d : Disk) (hl : l ≠ []) :
    (∃ e d', outcome (fillAndMove faults l temporary p bytes mode) d = (.error e, d') ∧
      AgreesBut l d d') ∨
    ∃ place d', outcome (fillAndMove faults l temporary p bytes mode) d =
        (.ok (), (d'.put place (.file bytes mode)).remove l) ∧
      AgreesBut l d d' ∧ d'.node? l = some (.file bytes mode) ∧
      d'.locate p = .ok place ∧ endsInName p = true ∧ d'.node? place ≠ some .directory := by
  rw [fillAndMove, outcome_bind, outcome_check]
  cases verdict faults .writeTemporary temporary none with
  | error e => exact .inl ⟨e, d, rfl, .refl l d⟩
  | ok _ =>
  have hwritten := (AgreesBut.refl l d).put (.file bytes privateMode)
  dsimp only
  rw [outcome_bind, outcome_modify]
  dsimp only
  rw [outcome_bind, outcome_check]
  cases verdict faults .setMode temporary none with
  | error e => exact .inl ⟨e, _, rfl, hwritten⟩
  | ok _ =>
  have hset := hwritten.put (.file bytes mode)
  dsimp only
  rw [outcome_bind, outcome_modify]
  dsimp only
  rw [outcome_bind, outcome_check]
  cases verdict faults .replaceTarget temporary (some p) with
  | error e => exact .inl ⟨e, _, rfl, hset⟩
  | ok _ =>
  dsimp only
  generalize hd' : (d.put l (.file bytes privateMode)).put l (.file bytes mode) = d' at hset ⊢
  have hfile : d'.node? l = some (.file bytes mode) := hd' ▸ node?_put_self _ hl _
  rcases outcome_moveFile l temporary p d' with ⟨e, h⟩ | ⟨place, node, h, hplace, hname, hdir, hnode⟩
  · exact .inl ⟨e, d', h, hset⟩
  · obtain rfl : Node.file bytes mode = node := Option.some.inj (hfile.symm.trans hnode)
    exact .inr ⟨place, d', h, hset, hfile, hplace, hname, hdir⟩

/-! ## Names -/

theorem length_temporaryName (d : Disk) (name : String) :
    name.length < (temporaryName d name).length := by
  simp only [temporaryName, String.length_append]
  have h : ".tmp".length = 4 := rfl
  omega

theorem temporaryName_ne_up (d : Disk) (name : String) : temporaryName d name ≠ ".." := by
  intro h
  have hlength := congrArg String.length h
  have h₁ : ".tmp".length = 4 := rfl
  have h₂ : "..".length = 2 := rfl
  simp only [temporaryName, String.length_append] at hlength
  omega

theorem placeOf_temporary (d : Disk) (beside : Location) (name : String) :
    d.placeOf ((pathOf beside).child (temporaryName d name)) =
      beside.foldl stepTo [] ++ [temporaryName d name] := by
  rw [placeOf, Path.child, pathOf, List.foldl_append, List.foldl_cons, List.foldl_nil, stepTo,
    if_neg (temporaryName_ne_up d name)]
  rfl

theorem placeOf_eq_append {d : Disk} {p : Path} (h : endsInName p = true) :
    d.placeOf p = d.placeOf p.parent ++ [p.name] := by
  rw [endsInName] at h
  cases hlast : p.segments.getLast? with
  | none => rw [hlast] at h; cases h
  | some name =>
    rw [hlast, Option.any_some, bne_iff_ne] at h
    obtain ⟨above, habove⟩ := List.getLast?_eq_some_iff.1 hlast
    have hparent : p.parent = ⟨p.root, above⟩ := by rw [Path.parent, habove, List.dropLast_concat]
    have hname : p.name = name := by rw [Path.name, hlast, Option.getD_some]
    rw [placeOf, habove, List.foldl_append, List.foldl_cons, List.foldl_nil, stepTo, if_neg h,
      hparent, hname]
    rfl

/-- The new file does not lie at the place of the file that it is to become. -/
theorem placeOf_ne_temporary {d d' : Disk} {p : Path} (beside : Location) (h : endsInName p = true) :
    d.placeOf p ≠ d'.placeOf ((pathOf beside).child (temporaryName d' p.name)) := by
  rw [placeOf_temporary, placeOf_eq_append h]
  intro heq
  have hname := (List.append_inj' heq rfl).2
  have hlength := length_temporaryName d' p.name
  rw [← (List.cons.inj hname).1] at hlength
  omega

/-! ## Placing a file -/

theorem modeFor_of_locate {d : Disk} {p : Path} {place : Location} (h : d.locate p = .ok place)
    (hdir : d.node? place ≠ some .directory) : modeFor d p = .ok (d.modeAt place) := by
  rw [modeFor, look, find, h, modeAt]
  dsimp only
  cases hnode : d.node? place with
  | none => rfl
  | some node =>
    cases node with
    | directory => exact absurd hnode hdir
    | file bytes mode => rfl

variable {l : Location} {p : Path} {bytes : List UInt8} {mode : Nat}

/-- The second disk is the first with a file at the place of a path, and perhaps new directories on
the way to it. -/
structure Placed (p : Path) (bytes : List UInt8) (place : Location) (d d' : Disk) : Prop where
  located : d'.locate p = .ok place
  halves : d'.halves = d.halves
  file : d'.node? place = some (.file bytes (d.modeAt place))
  others : ∀ l, l ≠ place → d'.node? l = d.node? l ∨
    IsOnTheWay d p.parent l ∧ d.node? l = none ∧ d'.node? l = some .directory

/-- The file was written beside its place, where nothing was, and then moved there. -/
theorem placed_of_moved {d d₁ d₂ : Disk} {place : Location}
    (hgrown : GrowsBy (IsOnTheWay d p.parent) d d₁) (hl : d₁.node? l = none)
    (hagree : AgreesBut l d₁ d₂) (hfile : d₂.node? l = some (.file bytes mode))
    (hplace : d₂.locate p = .ok place) (hdir : d₂.node? place ≠ some .directory)
    (hne : place ≠ l) (hmode : modeFor d₁ p = .ok mode) :
    Placed p bytes place d ((d₂.put place (.file bytes mode)).remove l) := by
  have hroot : place ≠ [] := ne_root hdir
  have hback : d₁.locate p = .ok place := by
    refine locate_of_directories hagree.workingDirectory.symm (fun m hm => ?_) hplace
    have hml : m ≠ l := by
      rintro rfl
      rw [hfile] at hm
      cases hm
    rwa [← hagree.node? m hml]
  have hsame : d₂.node? place = d.node? place := by
    rw [hagree.node? place hne]
    rcases hgrown.node? place with h | ⟨-, -, h⟩
    · exact h
    · rw [hagree.node? place hne] at hdir
      exact absurd h hdir
  have hmodeAt : mode = d.modeAt place := by
    have hnode : d₁.node? place = d.node? place := (hagree.node? place hne).symm.trans hsame
    have h := modeFor_of_locate hback (by rwa [hnode, ← hsame])
    rw [hmode] at h
    rw [Except.ok.inj h, modeAt, modeAt, hnode, hgrown.mask]
  refine ⟨?_, hagree.halves.trans hgrown.halves, ?_, fun m hm => ?_⟩
  · refine locate_of_directories (d := d₂) rfl (fun m hm => ?_) hplace
    have hmplace : m ≠ place := by
      rintro rfl
      exact hdir hm
    have hml : m ≠ l := by
      rintro rfl
      rw [hfile] at hm
      cases hm
    rw [node?_remove_other _ hml, node?_put_other _ hmplace, hm]
  · rw [node?_remove_other _ hne, node?_put_self _ hroot, hmodeAt]
  · by_cases hml : m = l
    · subst hml
      have hnone : d.node? m = none := by
        rcases hgrown.node? m with h | ⟨-, h, -⟩
        · exact h.symm.trans hl
        · exact h
      exact .inl ((node?_remove_self _ (ne_root (d := d₁) (by simp [hl]))).trans hnone.symm)
    · rw [node?_remove_other _ hml, node?_put_other _ hm, hagree.node? m hml]
      exact hgrown.node? m

theorem growsBy_of_removed {places : Location → Prop} {d d₁ d₂ : Disk} (hgrown : GrowsBy places d d₁)
    (hl : d₁.node? l = none) (hagree : AgreesBut l d₁ d₂) : GrowsBy places d (d₂.remove l) := by
  refine hgrown.trans ⟨hagree.workingDirectory, hagree.mask, hagree.token, hagree.halves,
    fun m => .inl ?_⟩
  by_cases hm : m = l
  · subst hm
    rw [node?_remove_self _ (ne_root (d := d₁) (by simp [hl])), hl]
  · rw [node?_remove_other _ hm, hagree.node? m hm]

theorem outcome_replaceFile (faults : Faults) (p : Path) (bytes : List UInt8) (d : Disk) :
    match outcome (replaceFile faults p bytes) d with
    | (.error _, d') => GrowsBy (IsOnTheWay d p.parent) d d'
    | (.ok (), d') => ∃ place, Placed p bytes place d d' := by
  have hmade := growsBy_makeDirectories faults p.parent d
  rw [replaceFile, outcome_bind]
  rcases h₁ : outcome (makeDirectories faults p.parent) d with ⟨e | _, d₁⟩ <;> rw [h₁] at hmade
  · exact hmade
  dsimp only
  rw [outcome_bind, outcome_ask]
  cases hmode : modeFor d₁ p with
  | error e => exact hmade
  | ok mode =>
  dsimp only
  rw [outcome_bind, outcome_ask]
  cases hbeside : d₁.complete p.parent with
  | error e => exact hmade
  | ok beside =>
  dsimp only
  rw [outcome_bind, outcome_get]
  dsimp only
  rw [outcome_bind, outcome_check]
  cases verdict faults .createTemporary ((pathOf beside).child (temporaryName d₁ p.name)) none with
  | error e => exact hmade
  | ok _ =>
  dsimp only
  rw [outcome_bind]
  rcases outcome_createFile ((pathOf beside).child (temporaryName d₁ p.name)) d₁ with
    ⟨e, hcreate⟩ | ⟨l, hcreate, hlocate, hl⟩ <;> rw [hcreate]
  · exact hmade
  dsimp only
  have hroot : l ≠ [] := ne_root (d := d₁) (by simp [hl])
  have hput := (AgreesBut.refl l d₁).put (.file [] privateMode)
  rw [orRemove, outcome_tryCatch]
  rcases outcome_fillAndMove faults ((pathOf beside).child (temporaryName d₁ p.name)) p bytes mode
      (d₁.put l (.file [] privateMode)) hroot with
    ⟨e, d₂, hfill, hagree⟩ | ⟨place, d₂, hfill, hagree, hfile, hplace, hname, hdir⟩ <;> rw [hfill]
  · exact growsBy_of_removed hmade hl (hput.trans hagree)
  · refine ⟨place, placed_of_moved hmade hl (hput.trans hagree) hfile hplace hdir ?_ hmode⟩
    rw [placeOf_of_locate hplace, placeOf_of_locate hlocate]
    exact placeOf_ne_temporary beside hname

end Change

end SampleTypes.Files

namespace SampleTypes.Output

open Files Work

/-- **A module is written in full or not at all**, whichever steps fail. After an error the files
are those that there were, with their contents and permission bits, and all that was added are
directories on the way to the file of the module. A module that is reported as written lies at its
place in UTF-8, with the permission bits that its file had before or that a new file gets, and
nothing else has changed. A module that is reported as unchanged leaves the disk as it was. -/
theorem writeFile_allOrNothing (faults : Faults) (t : Target) (d : Disk) :
    match outcome (writeFile faults t) d with
    | (.error _, d') =>
      (∀ l bytes mode, d'.node? l = some (.file bytes mode) ↔ d.node? l = some (.file bytes mode)) ∧
      Disk.GrowsBy (Change.IsOnTheWay d t.path.parent) d d'
    | (.ok receipt, d') =>
      (receipt.status = .unchanged ∧ d' = d) ∨
      (receipt.status = .written ∧ receipt.bytes = t.text.utf8ByteSize ∧
        ∃ place, Change.Placed t.path t.text.toUTF8.data.toList place d d') := by
  have hsame : ∀ l bytes mode,
      d.node? l = some (.file bytes mode) ↔ d.node? l = some (.file bytes mode) :=
    fun _ _ _ => Iff.rfl
  rw [writeFile, outcome_bind, Change.outcome_check]
  cases Change.verdict faults .readTarget t.path none with
  | error e => exact ⟨hsame, .refl _ d⟩
  | ok _ =>
  dsimp only
  rw [outcome_bind, Change.outcome_ask]
  rcases t.wouldChange d with e | b
  · exact ⟨hsame, .refl _ d⟩
  cases b with
  | false => exact .inl ⟨rfl, rfl⟩
  | true =>
  have h := Change.outcome_replaceFile faults t.path (Text.Utf8.encode t.text) d
  simp only [if_true]
  rw [outcome_bind]
  rcases houtcome : outcome (Change.replaceFile faults t.path (Text.Utf8.encode t.text)) d with
    ⟨e | _, d'⟩ <;> rw [houtcome] at h
  · exact ⟨h.file_iff, h⟩
  · rw [Text.Utf8.encode_eq_toUTF8] at h
    exact .inr ⟨rfl, Text.Utf8.length_encode t.text, h⟩

/-- A module is written, and one whose permission bits cannot be set leaves a directory only. -/
example :
    let d : Disk := ⟨[(["w"], .directory)], ["w"], 0o022, "token", {}⟩
    let t : Target := ⟨"A", ⟨.relative, ["out", "A.hs"]⟩, "x"⟩
    (outcome (writeFile noFaults t) d).2 =
      (d.put ["w", "out"] .directory).put ["w", "out", "A.hs"] (.file [120] 0o644) ∧
    (outcome (writeFile (fun s => if s = .setMode then some .busy else none) t) d).2 =
      d.put ["w", "out"] .directory := by
  decide +kernel

end SampleTypes.Output
