/-
Different modules have different files. For a name that is accepted, the segments of the name are the
parts of the path of its file as they are, the last one with the extension behind it: no segment is
empty or has a slash, so none is dropped, cut further or taken for a root. Hence the name is read off the
path again (`nameOfParts_filePath`), and so is that of a file below any directory
(`filePath_keeps_names_apart`).
-/
import Mathlib.Data.List.ModifyLast
import SampleTypes.Proofs.Output.Placement
import SampleTypes.Proofs.TypeName

namespace SampleTypes

open Text

/-- A text that is a segment of a path is the only one that is read from it. -/
theorem Path.segments_ofText {s : String} (h : IsSegment s) : (ofText s).segments = [s] := by
  rw [ofText, split_of_avoids h.2, List.filter_cons_of_pos h.1, List.filter_nil]

namespace ModuleName

/-- A text without an ending, if it has that ending. -/
def withoutEnd (ending s : String) : String :=
  if ending.toList <:+ s.toList then
    String.ofList (s.toList.take (s.toList.length - ending.toList.length))
  else s

theorem withoutEnd_append (s ending : String) : withoutEnd ending (s ++ ending) = s := by
  have hend : ending.toList <:+ (s ++ ending).toList := by
    rw [String.toList_append]
    exact List.suffix_append _ _
  rw [withoutEnd, if_pos hend, String.toList_append, List.length_append, Nat.add_sub_cancel,
    List.take_left, String.ofList_toList]

/-- The module name that the parts of a path stand for: the last part without the extension, and dots
between neighbours. -/
def nameOfParts (extension : String) (parts : List String) : String :=
  join "." (parts.modifyLast (withoutEnd ("." ++ extension)))

theorem bareExtension_eq_self {extension : String} (h : extension.toList.head? ≠ some '.') :
    bareExtension extension = extension := by
  rw [bareExtension]
  cases hs : extension.toList with
  | nil => rw [List.dropWhile_nil, ← hs, String.ofList_toList]
  | cons c rest =>
    rw [hs] at h
    have hc : (c == '.') = false := by simpa using h
    rw [List.dropWhile_cons_of_neg (by simp [hc]), ← hs, String.ofList_toList]

/-- Every segment of an accepted name can be one of a path, and no character of it is a dot. -/
theorem isSegment_of_mem_split {name : String} (hname : isModulePrefix name = true) (hne : name ≠ "")
    {segment : String} (h : segment ∈ split '.' name) :
    Path.IsSegment segment ∧ Avoids '.' segment := by
  have hdot : Avoids '.' segment := avoids_of_mem_split h
  have hpieces : ∀ piece ∈ split '.' name, Grammar.Loose Grammar.TypeName piece :=
    (Grammar.dotted_iff fun _ => avoids_dot_of_loose).1
      ((isModulePrefix_iff.1 hname).resolve_left hne)
  have haccepted : isTypeName segment = true := isTypeName_iff.2 (hpieces segment h)
  have hempty : segment ≠ "" := by
    rintro rfl
    cases haccepted
  have hhere : segment ≠ "." := by
    rintro rfl
    exact absurd hdot (by decide)
  exact ⟨⟨by simp [Path.keepsSegment, hempty, hhere],
    slash_not_mem_of_isTypeNameChars haccepted⟩, hdot⟩

section

variable {name extension : String} (hname : isModulePrefix name = true) (hne : name ≠ "")
  (hextension : extension ≠ "") (hslash : Avoids '/' extension)
  (hdot : extension.toList.head? ≠ some '.')

include hname hne hextension hslash hdot

/-- The parts of the path of a file are the segments of the name, the last one with the extension. -/
theorem parts_filePath : ∃ above last, split '.' name = above ++ [last] ∧
    (filePath name extension).parts = above ++ [last ++ ("." ++ extension)] := by
  obtain ⟨above, last, hcut⟩ := exists_split_eq_append '.' name
  have hsegments : ∀ s ∈ above ++ [last], Path.IsSegment s :=
    hcut ▸ fun s hs => (isSegment_of_mem_split hname hne hs).1
  rw [List.forall_mem_append, List.forall_mem_singleton] at hsegments
  have hfile : Path.IsSegment (last ++ ("." ++ extension)) := by
    refine ⟨?_, avoids_append.2 ⟨hsegments.2.2, avoids_append.2 ⟨by decide, hslash⟩⟩⟩
    have hlong : 2 ≤ (last ++ ("." ++ extension)).toList.length := by
      have hpos : 0 < extension.toList.length :=
        List.length_pos_iff.2 fun h => hextension (String.toList_injective h)
      have hone : ".".toList.length = 1 := rfl
      rw [String.toList_append, String.toList_append, List.length_append, List.length_append, hone]
      omega
    have hempty : last ++ ("." ++ extension) ≠ "" := fun h => absurd (h ▸ hlong) (by decide)
    have hhere : last ++ ("." ++ extension) ≠ "." := fun h => absurd (h ▸ hlong) (by decide)
    simp [Path.keepsSegment, hempty, hhere]
  have hall : ∀ s ∈ above ++ [last ++ ("." ++ extension)], Path.IsSegment s :=
    List.forall_mem_append.2 ⟨hsegments.1, List.forall_mem_singleton.2 hfile⟩
  have hhead : ∀ s ∈ above ++ [last ++ ("." ++ extension)], s.toList.head? ≠ some '/' :=
    fun s hs hslash => (hall s hs).2 (List.mem_of_head? hslash)
  refine ⟨above, last, hcut, ?_⟩
  rw [filePath, hcut, bareExtension_eq_self hdot, appendToLast_append_singleton,
    Path.parts_ofTexts hhead, List.flatMap_congr fun s hs => Path.segments_ofText (hall s hs),
    List.flatMap_singleton']

/-- The name of a module is read off the path of its file. -/
theorem nameOfParts_filePath : nameOfParts extension (filePath name extension).parts = name := by
  obtain ⟨above, last, hcut, hparts⟩ := parts_filePath hname hne hextension hslash hdot
  rw [nameOfParts, hparts, List.modifyLast_concat, withoutEnd_append, ← hcut]
  exact join_split rfl name

end

end ModuleName

namespace Output

open ModuleName

/-- **Different modules have different files.** For every name that is accepted and every extension that
can stand behind a dot, the parts of the path of the file are the segments of the name, the last one with
the extension, and the name is read off them. So two names never share a file, and neither do their
modules below one directory. -/
theorem filePath_keeps_names_apart {name extension : String} (hname : isModulePrefix name = true)
    (hne : name ≠ "") (hextension : extension ≠ "") (hslash : Avoids '/' extension)
    (hdot : extension.toList.head? ≠ some '.') :
    (∃ above last, split '.' name = above ++ [last] ∧
      (filePath name extension).parts = above ++ [last ++ ("." ++ extension)]) ∧
    nameOfParts extension (filePath name extension).parts = name ∧
    ∀ other, isModulePrefix other = true → other ≠ "" →
      (filePath other extension = filePath name extension → other = name) ∧
      ∀ directory text text', (Target.below directory extension other text').path =
        (Target.below directory extension name text).path → other = name := by
  have hread := nameOfParts_filePath hname hne hextension hslash hdot
  refine ⟨parts_filePath hname hne hextension hslash hdot, hread, fun other hother hother' => ?_⟩
  have hread' := nameOfParts_filePath hother hother' hextension hslash hdot
  have hparts (h : (filePath other extension).parts = (filePath name extension).parts) :
      other = name := by rw [← hread', h, hread]
  refine ⟨fun h => hparts (congrArg Path.parts h), fun directory text text' h => hparts ?_⟩
  -- a file is below the directory, so its parts follow those of the directory
  have hrelative {n : String} (hn : isModulePrefix n = true) :
      (filePath n extension).root = .relative := by
    refine ((filePath_isBelow hslash ?_ n).2 fun segment hsegment hhead => ?_).1
    · rwa [bareExtension_eq_self hdot]
    · exact (avoids_of_isModulePrefix hn).of_mem_split hsegment (List.mem_of_head? hhead)
  have hbelow := congrArg Path.parts h
  have hjoined : (directory ++ filePath other extension).parts =
      (directory ++ filePath name extension).parts := hbelow
  rwa [Path.parts_append directory (hrelative hother), Path.parts_append directory (hrelative hname),
    List.append_cancel_left_eq] at hjoined

/-- A name with a line feed in it, which is accepted, and an extension with a dot in it. -/
theorem filePath_keeps_names_apart_feed :
    isModulePrefix "Data.Free_Agent\n.Bills'" = true ∧ "Data.Free_Agent\n.Bills'" ≠ "" ∧
    "hs.in" ≠ "" ∧ Avoids '/' "hs.in" ∧ "hs.in".toList.head? ≠ some '.' ∧
    nameOfParts "hs.in" ["Data", "Free_Agent\n", "Bills'.hs.in"] = "Data.Free_Agent\n.Bills'" ∧
    (filePath "Data.FreeAgent.Bills'" "hs.in" ≠ filePath "Data.Free_Agent\n.Bills'" "hs.in") := by
  have hname : isModulePrefix "Data.Free_Agent\n.Bills'" = true := by decide
  have hne : "Data.Free_Agent\n.Bills'" ≠ "" := by decide
  have hextension : "hs.in" ≠ "" := by decide
  have hslash : Avoids '/' "hs.in" := by decide
  have hdot : "hs.in".toList.head? ≠ some '.' := by decide
  obtain ⟨-, hread, hapart⟩ := filePath_keeps_names_apart hname hne hextension hslash hdot
  have hparts : (filePath "Data.Free_Agent\n.Bills'" "hs.in").parts =
      ["Data", "Free_Agent\n", "Bills'.hs.in"] := by decide
  rw [hparts] at hread
  refine ⟨hname, hne, hextension, hslash, hdot, hread, fun h => ?_⟩
  exact absurd ((hapart "Data.FreeAgent.Bills'" (by decide) (by decide)).1 h) (by decide)

end Output

end SampleTypes
