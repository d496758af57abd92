/-
Paths within the limits of the system. Asking whether a file is at such a path always has an answer
(`exists_isFile`), and where there is one its bytes can be read; only bytes that write no text are in
the way of its text (`undecodable_of_isFile`).
-/
import SampleTypes.Proofs.Files.Refusals

namespace SampleTypes.Files

namespace Disk

/-- The system can look the path up: it holds no null character, and neither it nor a name in it is
too long. -/
structure WithinLimits (p : Path) : Prop where
  avoidsNull : '\x00' ∉ p.text.toList
  text : p.text.utf8ByteSize ≤ maxPath
  names : ∀ name ∈ p.segments, name.utf8ByteSize ≤ maxName

variable {d : Disk} {p : Path}

theorem follow_error_of_short {location : Location} {names : List String} {cause : Cause}
    (hnames : ∀ name ∈ names, name.utf8ByteSize ≤ maxName)
    (h : d.follow location names = .error cause) : cause = .missing ∨ cause = .notDirectory := by
  induction names generalizing location with
  | nil => cases h
  | cons name rest ih =>
    have hname : ¬ maxName < name.utf8ByteSize := Nat.not_lt.2 (hnames name List.mem_cons_self)
    have hrest : ∀ name ∈ rest, name.utf8ByteSize ≤ maxName :=
      fun name hname => hnames name (List.mem_cons_of_mem _ hname)
    rw [follow] at h
    split at h
    · exact .inl (Except.error.inj h).symm
    · exact .inr (Except.error.inj h).symm
    · rw [if_neg hname] at h
      split at h <;> exact ih hrest h

theorem exists_look (h : WithinLimits p) : ∃ node, d.look p = .ok node := by
  unfold look find locate
  rw [if_neg h.avoidsNull, if_neg (Nat.not_lt.2 h.text)]
  cases hfollow : d.follow (d.start p) p.segments with
  | error cause =>
    rcases follow_error_of_short h.names hfollow with rfl | rfl <;> exact ⟨none, rfl⟩
  | ok location =>
    simp only [Except.mapError]
    cases d.node? location with
    | none => exact ⟨none, rfl⟩
    | some node => exact ⟨some node, rfl⟩

theorem exists_isFile (h : WithinLimits p) : ∃ isFile, d.isFile p = .ok isFile := by
  obtain ⟨node, hlook⟩ := exists_look (d := d) h
  exact ⟨_, by rw [isFile, hlook]; rfl⟩

theorem not_withinLimits {e : Error} (h : d.isFile p = .error e) : ¬ WithinLimits p := by
  intro hlimits
  obtain ⟨isFile, hfile⟩ := exists_isFile (d := d) hlimits
  rw [h] at hfile
  cases hfile

theorem look_eq_ok_some {node : Node} (h : d.look p = .ok (some node)) :
    ∃ location, d.find p = .ok (location, node) := by
  unfold look at h
  split at h
  · next location node' hfind =>
    obtain rfl : node' = node := by simpa using h
    exact ⟨location, hfind⟩
  all_goals cases h

/-- Where a file is, there are bytes to read. -/
theorem exists_readBytes (h : d.isFile p = .ok true) : ∃ bytes, d.readBytes p = .ok bytes := by
  unfold isFile at h
  cases hlook : d.look p with
  | error e =>
    rw [hlook] at h
    cases h
  | ok node =>
    rw [hlook] at h
    match node with
    | some (.file bytes mode) =>
      obtain ⟨location, hfind⟩ := look_eq_ok_some hlook
      exact ⟨bytes, by rw [readBytes, hfind]⟩
    | some .directory => cases h
    | none => cases h

theorem isFile_of_readText {text : String} (h : d.readText p = .ok text) : d.isFile p = .ok true := by
  unfold readText readBytes at h
  cases hfind : d.find p with
  | error e =>
    rw [hfind] at h
    cases h
  | ok found =>
    rw [hfind] at h
    match found with
    | (location, .file bytes mode) =>
      rw [isFile, look, hfind]
      rfl
    | (location, .directory) => cases h

theorem readBytes_of_null (h : '\x00' ∈ p.text.toList) : d.readBytes p = .error .nullCharacter := by
  rw [readBytes, find, locate, if_pos h]

theorem readBytes_error {e : Error} (h : d.readBytes p = .error e) :
    e.IsRefusal ∨ e = .nullCharacter ∧ '\x00' ∈ p.text.toList := by
  unfold readBytes find at h
  cases hlocate : d.locate p with
  | error e' =>
    rw [hlocate] at h
    obtain rfl : e' = e := by simpa using h
    exact (locate_error hlocate).imp id fun h => ⟨h.1, not_not.1 (mt Path.avoidsNull_iff.2 h.2)⟩
  | ok location =>
    simp only [hlocate] at h
    cases hnode : d.node? location with
    | none =>
      rw [hnode] at h
      obtain rfl := Except.error.inj h
      exact .inl (isRefusal_refuse p _)
    | some node =>
      rw [hnode] at h
      cases node with
      | directory =>
        obtain rfl := Except.error.inj h
        exact .inl (isRefusal_refuse p _)
      | file bytes mode => cases h

/-- Only bytes that write no text keep a file from being read. -/
theorem undecodable_of_isFile {e : Error} (h : d.isFile p = .ok true) (hread : d.readText p = .error e) :
    ∃ bytes reason, d.readBytes p = .ok bytes ∧ Text.Utf8.decode bytes = .error reason ∧
      e = .undecodable reason := by
  obtain ⟨bytes, hbytes⟩ := exists_readBytes h
  rw [readText, hbytes] at hread
  simp only [textOf] at hread
  cases hdecode : Text.Utf8.decode bytes with
  | error reason =>
    rw [hdecode] at hread
    exact ⟨bytes, reason, hbytes, hdecode, (Except.error.inj hread).symm⟩
  | ok text =>
    rw [hdecode] at hread
    cases hread

end Disk

end SampleTypes.Files
