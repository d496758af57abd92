/-
What the patch of a module shows in colours. Every line that is removed or added stands in a hunk, and
the patch shows it behind its mark on a line of its own, in red or green, unless one of two things happens
(`coloured_patch_iff`): the last removed line has no break at its end and an added one follows, so that
both become one line; or the line starts with two more of its marks, so that it is taken for the name of a
side and is bold.
-/
import SampleTypes.Output.Target
import SampleTypes.Proofs.Files.Limits
import SampleTypes.Proofs.Patch.Coloured

namespace SampleTypes.Output

open Files Patch Terminal Text

namespace Target

variable {t : Target} {d : Disk} {old : String}

/-- The name of the side of the file as it is. -/
def currentName (t : Target) : String :=
  t.path.text ++ " (current)"

/-- The name of the side of the module. -/
def generatedName (t : Target) : String :=
  t.path.text ++ " (generated)"

/-- What is removed from a text and added to it to make it the module. -/
def segments (t : Target) (old : String) : List Segment :=
  textScript old t.text

/-- What the patch from a text to the module is to show, if lines that change have the given looks. -/
def preview (removed added : String → Look) (t : Target) (old : String) : String :=
  unlines (Patch.preview removed added t.currentName t.generatedName (hunks (t.segments old)))

theorem patch_eq (h : d.isFile t.path = .ok false ∧ old = "" ∨ d.readText t.path = .ok old) :
    t.patch d = .ok (patchText t.currentName t.generatedName old t.text) := by
  rcases h with ⟨hfile, rfl⟩ | hread
  · rw [patch, existing?, hfile]
    rfl
  · rw [patch, existing?, Disk.isFile_of_readText hread, hread]
    rfl

/-- The names are a line each, and bold, exactly if the path has no line break. -/
theorem names_eq_iff :
    names t.currentName t.generatedName =
        [paint [.bold] ("--- " ++ t.currentName), paint [.bold] ("+++ " ++ t.generatedName)] ↔
      Unbroken t.path.text := by
  refine ⟨fun h => ?_, fun h => names_of_unbroken (unbroken_append.2 ⟨h, by decide⟩)
    (unbroken_append.2 ⟨h, by decide⟩)⟩
  -- two lines in all, so the first name is one of them
  have hlength := congrArg List.length h
  rw [names, List.length_map, List.length_append] at hlength
  have hcurrent : 0 < (lines ("--- " ++ t.currentName ++ "\n")).length :=
    List.length_pos_iff.2 (lines_ne_nil (by simp))
  have hgenerated : 0 < (lines ("+++ " ++ t.generatedName ++ "\n")).length :=
    List.length_pos_iff.2 (lines_ne_nil (by simp))
  simp only [List.length_cons, List.length_nil] at hlength
  have hline : IsLine ("--- " ++ t.currentName ++ "\n").toList :=
    length_lines_eq_one_iff.1 (by omega)
  have hchars : ("--- " ++ t.currentName ++ "\n").toList =
      ("--- " ++ t.path.text ++ " (current").toList ++ [')', '\n'] := by
    simp [currentName, String.toList_append]
  rw [hchars] at hline
  have hunbroken : Unbroken ("--- " ++ t.path.text ++ " (current") := hline.unbroken
  exact (unbroken_append.1 (unbroken_append.1 hunbroken).1).2

end Target

/-- **A patch in colours shows each change on a line of its own, in its colour**, exactly if no removed line
runs into an added one and none that changes looks like the name of a side. The hunks hold all that
changes. Lines that look like names are bold, which moves no line, and those with the names are bold
themselves. -/
theorem coloured_patch_iff {t : Target} {d : Disk} {old : String}
    (h : d.isFile t.path = .ok false ∧ old = "" ∨ d.readText t.path = .ok old) :
    ∃ patch, t.patch d = .ok patch ∧
      ((t.segments old).flatMap Segment.old = textLines old ∧
        (t.segments old).flatMap Segment.new = textLines t.text) ∧
      (((hunks (t.segments old)).flatMap Hunk.segments).flatMap Segment.removed =
          (t.segments old).flatMap Segment.removed ∧
        ((hunks (t.segments old)).flatMap Hunk.segments).flatMap Segment.added =
          (t.segments old).flatMap Segment.added) ∧
      (coloured patch = t.preview (fun _ => .red) (fun _ => .green) old ↔
        (∀ s ∈ t.segments old, ¬ s.RunsTogether) ∧
        (∀ line ∈ (t.segments old).flatMap Segment.removed, ¬ LooksLikeName '-' line) ∧
        ∀ line ∈ (t.segments old).flatMap Segment.added, ¬ LooksLikeName '+' line) ∧
      (coloured patch = t.preview removedLook addedLook old ↔
        ∀ s ∈ t.segments old, ¬ s.RunsTogether) ∧
      (names t.currentName t.generatedName =
          [paint [.bold] ("--- " ++ t.currentName), paint [.bold] ("+++ " ++ t.generatedName)] ↔
        Unbroken t.path.text) := by
  refine ⟨_, Target.patch_eq h, ⟨old_script _ _, new_script _ _⟩,
    ⟨flatMap_hunks (fun _ => rfl) _, flatMap_hunks (fun _ => rfl) _⟩, ?_, ?_, Target.names_eq_iff⟩
  · rw [Target.preview, Target.segments, coloured_patchText_iff]
    simp only [eq_lookBehind_iff (by decide : Look.red ≠ .bold),
      eq_lookBehind_iff (by decide : Look.green ≠ .bold)]
  · rw [Target.preview, Target.segments, coloured_patchText_iff]
    exact and_iff_left ⟨fun _ _ => rfl, fun _ _ => rfl⟩

/-- A comment that goes away, and a last line without a break that stays. -/
theorem coloured_patch_iff_comment :
    let t : Target := ⟨"Docs", Path.ofText "Docs.hs", "module Docs\n    where"⟩
    let d : Disk :=
      { nodes := [(["Docs.hs"], .file (Utf8.encode "module Docs\n  -- note\x0b    where") 0o644)]
        workingDirectory := [], mask := 0o022, token := "token" }
    d.readText t.path = .ok "module Docs\n  -- note\x0b    where" ∧
    (t.patch d).map coloured =
      .ok (t.preview (fun _ => .red) (fun _ => .green) "module Docs\n  -- note\x0b    where") := by
  intro t d
  have hread : d.readText t.path = .ok "module Docs\n  -- note\x0b    where" := by decide +kernel
  obtain ⟨patch, hpatch, -, -, hcoloured, -⟩ := coloured_patch_iff (t := t) (d := d) (.inr hread)
  refine ⟨hread, ?_⟩
  rw [hpatch]
  exact congrArg Except.ok (hcoloured.2 (by decide +kernel))

/-- The same comment at the start of its line is bold, as if it were a name. And of two lines without a
break at the end, one removed and one added, the patch makes one line. -/
theorem removed_comment_bold :
    let t : Target := ⟨"Docs", Path.ofText "Docs.hs", "module Docs"⟩
    let disk (old : String) : Disk :=
      { nodes := [(["Docs.hs"], .file (Utf8.encode old) 0o644)]
        workingDirectory := [], mask := 0o022, token := "token" }
    let shown := [paint [.bold] "--- Docs.hs (current)", paint [.bold] "+++ Docs.hs (generated)",
      paint [.cyan] "@@ -1,2 +1 @@", paint [.bold] "--- note", " module Docs"]
    (t.segments "-- note\nmodule Docs" = [.change ["-- note\n"] [], .same ["module Docs"]] ∧
      (t.patch (disk "-- note\nmodule Docs")).map coloured = .ok (unlines shown) ∧
      paint [.red] "--- note" ∉ shown) ∧
    t.segments "module Doc" = [.change ["module Doc"] ["module Docs"]] ∧
      t.patch (disk "module Doc") = .ok
        "--- Docs.hs (current)\n+++ Docs.hs (generated)\n@@ -1 +1 @@\n-module Doc+module Docs" := by
  decide +kernel

end SampleTypes.Output
