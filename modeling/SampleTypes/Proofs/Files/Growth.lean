/-
Disks that grow by directories. Making a directory with those above it, whichever step of it fails,
adds directories at places where nothing was and leaves everything else as it is
(`growsBy_makeDirectories`). The places are told by the words of the path: there are no links, so
following a path leads where its words say (`follow_eq`).
-/
import Mathlib.Data.List.Basic
import SampleTypes.Files.Change
import SampleTypes.Proofs.Work

namespace SampleTypes.Files

open Work

namespace Disk

/-- The root is a directory. -/
theorem ne_root {d : Disk} {l : Location} (h : d.node? l ≠ some .directory) : l ≠ [] := by
  rintro rfl
  exact h (if_pos rfl)

/-! ## Following -/

/-- Where the words of a path lead. -/
def placeOf (d : Disk) (p : Path) : Location :=
  p.segments.foldl stepTo (d.start p)

theorem follow_eq {d : Disk} {location place : Location} {names : List String}
    (h : d.follow location names = .ok place) : place = names.foldl stepTo location := by
  induction names generalizing location with
  | nil => simpa [follow, eq_comm] using h
  | cons name rest ih =>
    rw [follow] at h
    split at h
    · cases h
    · cases h
    · rw [List.foldl_cons, stepTo]
      split at h
      · next hname => rw [if_pos hname]; exact ih h
      · next hname =>
        rw [if_neg hname]
        split at h
        · cases h
        · exact ih h

/-- A path is followed in the same way where all directories on the way are still there. -/
theorem follow_of_directories {d d' : Disk} {location place : Location} {names : List String}
    (hd : ∀ l, d.node? l = some .directory → d'.node? l = some .directory)
    (h : d.follow location names = .ok place) : d'.follow location names = .ok place := by
  induction names generalizing location with
  | nil => exact h
  | cons name rest ih =>
    rw [follow] at h ⊢
    split at h
    · cases h
    · cases h
    · next hnode =>
      simp only [hd location hnode]
      split at h
      · next hname => rw [if_pos hname]; exact ih h
      · next hname =>
        rw [if_neg hname]
        split at h
        · cases h
        · next hlong => rw [if_neg hlong]; exact ih h

theorem locate_eq_ok {d : Disk} {p : Path} {place : Location} :
    d.locate p = .ok place ↔
      '\x00' ∉ p.text.toList ∧ p.text.utf8ByteSize ≤ maxPath ∧
        d.follow (d.start p) p.segments = .ok place := by
  rw [locate]
  split
  · next h => simp [h]
  · next h =>
    split
    · next hlong => simp only [reduceCtorEq, false_iff]; omega
    · next hlong =>
      have hlong : p.text.utf8ByteSize ≤ maxPath := by omega
      simp only [h, not_false_eq_true, hlong, true_and]
      cases d.follow (d.start p) p.segments <;> simp [Except.mapError]

theorem placeOf_of_locate {d : Disk} {p : Path} {place : Location} (h : d.locate p = .ok place) :
    place = d.placeOf p :=
  follow_eq (locate_eq_ok.1 h).2.2

theorem locate_of_directories {d d' : Disk} {p : Path} {place : Location}
    (hw : d'.workingDirectory = d.workingDirectory)
    (hd : ∀ l, d.node? l = some .directory → d'.node? l = some .directory)
    (h : d.locate p = .ok place) : d'.locate p = .ok place := by
  rw [locate_eq_ok] at h ⊢
  have hs : d'.start p = d.start p := by rw [start, start, hw]
  rw [hs]
  exact ⟨h.1, h.2.1, follow_of_directories hd h.2.2⟩

/-- What holds of the names in a path and of those of the working directory holds of the names of the
place that the words of the path name. -/
theorem forall_mem_complete {d : Disk} {p : Path} {P : String → Prop}
    (hd : ∀ name ∈ d.workingDirectory, P name) (hp : ∀ name ∈ p.segments, P name)
    {location : Location} (h : d.complete p = .ok location) : ∀ name ∈ location, P name := by
  have hfold (names : List String) (hnames : ∀ name ∈ names, P name) (l : Location)
      (hl : ∀ name ∈ l, P name) : ∀ name ∈ names.foldl stepTo l, P name := by
    induction names generalizing l with
    | nil => exact hl
    | cons first rest ih =>
      rw [List.forall_mem_cons] at hnames
      refine ih hnames.2 _ fun name hname => ?_
      unfold stepTo at hname
      split at hname
      · exact hl name (List.dropLast_subset _ hname)
      · rcases List.mem_append.1 hname with hname | hname
        · exact hl name hname
        · obtain rfl := List.mem_singleton.1 hname
          exact hnames.1
  have hstart : ∀ name ∈ d.start p, P name := by
    unfold start
    split
    · simp
    · exact hd
  rw [complete] at h
  split at h
  · cases h
  · obtain rfl := Except.ok.inj h
    exact hfold _ hp _ hstart

/-! ## Growth -/

/-- The second disk is the first with directories at some places where nothing was. -/
structure GrowsBy (places : Location → Prop) (d d' : Disk) : Prop where
  workingDirectory : d'.workingDirectory = d.workingDirectory
  mask : d'.mask = d.mask
  token : d'.token = d.token
  halves : d'.halves = d.halves
  node? : ∀ l, d'.node? l = d.node? l ∨
    places l ∧ d.node? l = none ∧ d'.node? l = some .directory

namespace GrowsBy

variable {places : Location → Prop} {d d' d'' : Disk}

theorem refl (places : Location → Prop) (d : Disk) : GrowsBy places d d :=
  ⟨rfl, rfl, rfl, rfl, fun _ => .inl rfl⟩

theorem trans (h : GrowsBy places d d') (h' : GrowsBy places d' d'') : GrowsBy places d d'' := by
  refine ⟨h'.workingDirectory.trans h.workingDirectory, h'.mask.trans h.mask,
    h'.token.trans h.token, h'.halves.trans h.halves, fun l => ?_⟩
  rcases h.node? l with hl | ⟨hp, hnone, hdir⟩
  · rw [← hl]
    exact h'.node? l
  · rcases h'.node? l with hl' | ⟨-, hnone', -⟩
    · exact .inr ⟨hp, hnone, hl'.trans hdir⟩
    · rw [hdir] at hnone'
      cases hnone'

theorem mono {more : Location → Prop} (hp : ∀ l, places l → more l) (h : GrowsBy places d d') :
    GrowsBy more d d' :=
  ⟨h.workingDirectory, h.mask, h.token, h.halves,
    fun l => (h.node? l).imp id fun hl => ⟨hp l hl.1, hl.2⟩⟩

theorem put {l : Location} (hp : places l) (h : d.node? l = none) :
    GrowsBy places d (d.put l .directory) := by
  have hl : l ≠ [] := ne_root (d := d) (by simp [h])
  refine ⟨rfl, rfl, rfl, rfl, fun other => ?_⟩
  by_cases ho : other = l
  · subst ho
    exact .inr ⟨hp, h, node?_put_self d hl _⟩
  · exact .inl (node?_put_other d ho _)

theorem start (h : GrowsBy places d d') (p : Path) : d'.start p = d.start p := by
  rw [Disk.start, Disk.start, h.workingDirectory]

/-- Files are there as before. -/
theorem file_iff (h : GrowsBy places d d') (l : Location) (bytes : List UInt8) (mode : Nat) :
    d'.node? l = some (.file bytes mode) ↔ d.node? l = some (.file bytes mode) := by
  rcases h.node? l with hl | ⟨-, hnone, hdir⟩
  · rw [hl]
  · simp [hnone, hdir]

end GrowsBy

end Disk

/-! ## Making directories -/

namespace Change

open Disk

theorem outcome_ask {α : Type} (question : Disk → Except Error α) (d : Disk) :
    outcome (ask question) d = (question d, d) := by
  rw [ask, outcome_bind, outcome_get]
  dsimp only
  cases question d <;> rfl

/-- What a check says. -/
def verdict (faults : Faults) (step : Step) (p : Path) (target : Option Path) :
    Except Error Unit :=
  match faults step with
  | none => .ok ()
  | some cause => .error (.refused cause p target)

theorem outcome_check (faults : Faults) (step : Step) (p : Path) (target : Option Path)
    (d : Disk) : outcome (check faults step p target) d = (verdict faults step p target, d) := by
  rw [check, verdict]
  cases faults step <;> rfl

theorem state_unlessDirectory (p : Path) (e : Error) (d : Disk) :
    (outcome (unlessDirectory p e) d).2 = d := by
  unfold unlessDirectory
  split
  · rfl
  · rw [outcome_bind, outcome_ask]
    rcases d.isDirectory p with e | b
    · rfl
    · cases b <;> rfl
  · rfl

section Steps

variable {places : Location → Prop} {α β : Type} {d : Disk}

theorem growsBy_bind {x : FileM α} {f : α → FileM β} (hx : GrowsBy places d (outcome x d).2)
    (hf : ∀ a d', outcome x d = (.ok a, d') → GrowsBy places d' (outcome (f a) d').2) :
    GrowsBy places d (outcome (x >>= f) d).2 := by
  rw [outcome_bind]
  rcases h : outcome x d with ⟨e | a, d'⟩ <;> rw [h] at hx
  · exact hx
  · exact hx.trans (hf a d' h)

theorem growsBy_tryCatch {x : FileM α} {f : Error → FileM α}
    (hx : GrowsBy places d (outcome x d).2)
    (hf : ∀ e d', outcome x d = (.error e, d') → GrowsBy places d' (outcome (f e) d').2) :
    GrowsBy places d (outcome (tryCatch x f) d).2 := by
  rw [outcome_tryCatch]
  rcases h : outcome x d with ⟨e | a, d'⟩ <;> rw [h] at hx
  · exact hx.trans (hf e d' h)
  · exact hx

theorem growsBy_unlessDirectory (p : Path) (e : Error) :
    GrowsBy places d (outcome (unlessDirectory p e) d).2 := by
  rw [state_unlessDirectory]
  exact .refl places d

end Steps

/-- A place that a path leads to, by all of its words or by the first of them. -/
def IsOnTheWay (d : Disk) (p : Path) (l : Location) : Prop :=
  ∃ names, names <+: p.segments ∧ l = names.foldl stepTo (d.start p)

theorem growsBy_makeDirectory (faults : Faults) (p : Path) (again : Bool) (d : Disk) :
    GrowsBy (IsOnTheWay d p) d (outcome (makeDirectory faults p again) d).2 := by
  rw [makeDirectory]
  refine growsBy_bind (by rw [outcome_check]; exact .refl _ d) fun _ d₁ h₁ => ?_
  rw [outcome_check] at h₁
  obtain rfl : d = d₁ := congrArg Prod.snd h₁
  refine growsBy_bind (by rw [outcome_ask]; exact .refl _ d) fun l d₂ h₂ => ?_
  rw [outcome_ask] at h₂
  obtain rfl : d = d₂ := congrArg Prod.snd h₂
  have hl : d.locate p = .ok l := congrArg Prod.fst h₂
  rw [outcome_bind, outcome_get]
  dsimp only
  cases hnode : d.node? l with
  | some node => exact .refl _ d
  | none => exact .put ⟨p.segments, List.prefix_rfl, placeOf_of_locate hl⟩ hnode

theorem growsBy_makeDirectoriesFrom (faults : Faults) (root : Path.Root) (names : List String)
    (d : Disk) :
    GrowsBy (IsOnTheWay d ⟨root, names.reverse⟩) d
      (outcome (makeDirectoriesFrom faults root names) d).2 := by
  induction names generalizing d with
  | nil =>
    rw [makeDirectoriesFrom]
    exact growsBy_tryCatch (growsBy_makeDirectory faults _ false d)
      fun e d' _ => growsBy_unlessDirectory _ e
  | cons name above ih =>
    rw [makeDirectoriesFrom]
    have hmake := growsBy_makeDirectory faults ⟨root, (name :: above).reverse⟩ false d
    refine growsBy_tryCatch hmake fun e d₁ h₁ => ?_
    rw [h₁] at hmake
    have hstart : ∀ {d' : Disk}, GrowsBy (IsOnTheWay d ⟨root, (name :: above).reverse⟩) d d' →
        ∀ p : Path, p.root = root → p.segments <+: (name :: above).reverse →
          ∀ l, IsOnTheWay d' p l → IsOnTheWay d ⟨root, (name :: above).reverse⟩ l := by
      rintro d' hd' p rfl hp l ⟨names, hn, rfl⟩
      exact ⟨names, hn.trans hp, by rw [hd'.start]; rfl⟩
    split
    · have habove := (ih d₁).mono
        (hstart hmake _ rfl (by rw [List.reverse_cons]; exact List.prefix_append _ _))
      refine growsBy_bind habove fun _ d₂ h₂ => ?_
      rw [h₂] at habove
      refine growsBy_tryCatch ?_ fun e d' _ => growsBy_unlessDirectory _ e
      exact (growsBy_makeDirectory faults _ true d₂).mono
        (hstart (hmake.trans habove) _ rfl List.prefix_rfl)
    · exact growsBy_unlessDirectory _ _

theorem growsBy_makeDirectories (faults : Faults) (p : Path) (d : Disk) :
    GrowsBy (IsOnTheWay d p) d (outcome (makeDirectories faults p) d).2 := by
  have h := growsBy_makeDirectoriesFrom faults p.root p.segments.reverse d
  rwa [List.reverse_reverse] at h

end Change

end SampleTypes.Files
