/-
Whether a file has to be changed is told in three ways: by comparing texts, by a patch, and by what a
sink reports. They tell the same (`change_seen_alike`). An empty module is left out: its patch against
a file that is not there is empty, and yet the file has to be made.
-/
import SampleTypes.Proofs.Files.Limits
import SampleTypes.Proofs.Output.Delivering
import SampleTypes.Proofs.Patch.Unchanged

namespace SampleTypes.Output

open Files Text Work

variable {t : Target} {d : Disk}

/-- A patch is not empty if the file has to be made or changed, and only then. -/
theorem patch_ne_empty (htext : t.text ≠ "") :
    (t.patch d).map (fun patch => decide (patch ≠ "")) = t.wouldChange d := by
  unfold Target.patch Target.wouldChange
  cases t.existing? d with
  | error e => rfl
  | ok existing =>
    simp only [Except.map, Except.ok.injEq]
    cases existing with
    | none =>
      have hnone : ("" : String) ≠ t.text := Ne.symm htext
      simp [Patch.patchText_eq_empty_iff, hnone]
    | some text => by_cases h : text = t.text <;> simp [Patch.patchText_eq_empty_iff, h]

/-- A file that is not there, or that holds text, can be compared. -/
theorem exists_wouldChange
    (h : d.isFile t.path = .ok false ∨ ∃ text, d.readText t.path = .ok text) :
    ∃ changes, t.wouldChange d = .ok changes := by
  have hexisting : ∃ existing, t.existing? d = .ok existing := by
    unfold Target.existing?
    rcases h with h | ⟨text, h⟩
    · exact ⟨none, by rw [h]⟩
    · exact ⟨some text, by rw [Disk.isFile_of_readText h, h]; rfl⟩
  obtain ⟨existing, h⟩ := hexisting
  exact ⟨_, by rw [Target.wouldChange, h]; rfl⟩

/-- **All views of a change agree**, also in their errors: a patch is not empty, a run that only
compares would write, and a run that writes does, unless it fails, exactly if the file would change.
That has an answer if there is no file, or a file of text. -/
theorem change_seen_alike {t : Target} (htext : t.text ≠ "") (d : Disk) :
    (t.patch d).map (fun patch => decide (patch ≠ "")) = t.wouldChange d ∧
    (outcome (deliver t .nowhere) d).1.map Receipt.status =
      (t.wouldChange d).map (fun changes => if changes then .wouldWrite else .unchanged) ∧
    (∀ faults receipt d', outcome (deliverWith faults t .files) d = (.ok receipt, d') →
      (t.wouldChange d).map (fun changes => if changes then .written else .unchanged) =
        .ok receipt.status) ∧
    (d.isFile t.path = .ok false ∨ (∃ text, d.readText t.path = .ok text) →
      ∃ changes, t.wouldChange d = .ok changes) := by
  refine ⟨patch_ne_empty htext, ?_, fun faults receipt d' h => ?_, exists_wouldChange⟩
  · rw [outcome_deliver_nowhere, comparison]
    cases t.wouldChange d <;> rfl
  · rcases writeFile_eq_ok h with ⟨hchanges, rfl, -⟩ | ⟨hchanges, rfl, -⟩ <;> rw [hchanges] <;> rfl

/-- A file that differs in its line breaks only: as text it is up to date, and a patch is empty. -/
theorem change_seen_alike_returns :
    let t : Target := ⟨"Docs", Path.ofText "Docs.hs", "module Docs\n    where\n"⟩
    let d : Disk :=
      { nodes := [(["Docs.hs"], .file (Utf8.encode "module Docs\r\n    where\r") 0o644)]
        workingDirectory := [], mask := 0o022, token := "token" }
    t.text ≠ "" ∧ t.wouldChange d = .ok false ∧
      (t.patch d).map (fun patch => decide (patch ≠ "")) = .ok false ∧
      (outcome (deliver t .nowhere) d).1.map Receipt.status = .ok .unchanged := by
  intro t d
  have htext : t.text ≠ "" := by decide
  have hchanges : t.wouldChange d = .ok false := by decide +kernel
  obtain ⟨hpatch, hnowhere, -⟩ := change_seen_alike htext d
  rw [hchanges] at hpatch hnowhere
  exact ⟨htext, hchanges, hpatch, hnowhere⟩

end SampleTypes.Output
