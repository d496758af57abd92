/-
Where a module lies. Its file is below the output directory exactly if no segment of the module's
name starts with a slash (`filePath_isBelow`); the names that are made from addresses, paths and
settings have no slashes at all.
-/
import SampleTypes.Generation
import SampleTypes.Proofs.Naming
import SampleTypes.Proofs.Path
import SampleTypes.Proofs.Settings.RoundTrip

namespace SampleTypes.ModuleName

open Text

/-! ## Extensions -/

theorem avoids_bareExtension {extension : String} (h : Avoids '/' extension) :
    Avoids '/' (bareExtension extension) := by
  exact fun hmem => h ((mem_bareExtension (by decide)).1 hmem)

theorem appendToLast_append_singleton (suffix : String) (texts : List String) (s : String) :
    appendToLast suffix (texts ++ [s]) = texts ++ [s ++ suffix] := by
  induction texts with
  | nil => rfl
  | cons t rest ih =>
    cases rest with
    | nil => rfl
    | cons t' rest =>
      show t :: appendToLast suffix (t' :: rest ++ [s]) = _
      rw [ih]
      rfl

/-! ## Files -/

variable {extension : String} (hslash : Avoids '/' extension) (hbare : bareExtension extension ≠ "")

include hslash hbare

/-- The segments of the text that names the file: the last one ends in the extension. -/
theorem segments_ofText_file {s : String} (hs : Avoids '.' s) :
    ∃ above file, (Path.ofText (s ++ ("." ++ bareExtension extension))).segments = above ++ [file] ∧
      ".." ∉ above ∧ file ≠ ".." := by
  let bare := (bareExtension extension).toList
  have hdot : '/' ∉ '.' :: bare := by
    rw [List.mem_cons, not_or]
    exact ⟨by decide, avoids_bareExtension hslash⟩
  have hhead : bare.head? ≠ some '.' := head?_bareExtension extension
  have hne : bare ≠ [] := fun h => hbare (String.toList_injective h)
  obtain ⟨pieces, last, hcut, hmore⟩ := splitChars_append hdot s.toList
  have hpieces : ∀ piece ∈ pieces ++ [last], '.' ∉ piece := by
    intro piece hpiece hx
    rw [← hcut] at hpiece
    exact hs (mem_flatten_splitChars.1 (List.mem_flatten.2 ⟨piece, hpiece, hx⟩)).1
  rw [List.forall_mem_append, List.forall_mem_singleton] at hpieces
  let file := String.ofList (last ++ '.' :: bare)
  have hfile : file.toList = last ++ '.' :: bare := String.toList_ofList
  -- nothing in front of the dot of the extension is a dot
  have hup : file ≠ ".." := by
    intro h
    rw [h] at hfile
    cases last with
    | nil =>
      have htail : ['.'] = bare := (List.cons.inj hfile).2
      exact hhead (htail ▸ rfl)
    | cons c rest =>
      have hc : '.' = c := (List.cons.inj hfile).1
      exact hpieces.2 (hc ▸ List.mem_cons_self)
  have hkeep : Path.keepsSegment file = true := by
    have hlength : 2 ≤ file.toList.length := by
      have hpos := List.length_pos_iff.2 hne
      rw [hfile, List.length_append, List.length_cons]
      omega
    have hempty : file ≠ "" := fun h => absurd (h ▸ hlength) (by decide)
    have hhere : file ≠ "." := fun h => absurd (h ▸ hlength) (by decide)
    simp [Path.keepsSegment, hempty, hhere]
  refine ⟨(pieces.map String.ofList).filter Path.keepsSegment, file, ?_, ?_, hup⟩
  · show (split '/' _).filter _ = _
    rw [split, String.toList_append, String.toList_append]
    show ((splitChars '/' (s.toList ++ '.' :: bare)).map String.ofList).filter _ = _
    rw [hmore, List.map_append, List.filter_append, List.map_singleton, List.filter_cons, hkeep]
    rfl
  · intro h
    obtain ⟨piece, hpiece, hup⟩ := List.mem_map.1 (List.mem_filter.1 h).1
    have hchars : piece = ['.', '.'] := by simpa using congrArg String.toList hup
    exact hpieces.1 piece hpiece (hchars ▸ List.mem_cons_self)

/-- **The file of a module is below the directory exactly if no segment of its name starts with a
slash.** -/
theorem filePath_isBelow (name : String) :
    ((filePath name extension).root = .relative ∧ (filePath name extension).parts ≠ [] ∧
      ".." ∉ (filePath name extension).parts) ↔
        ∀ segment ∈ split '.' name, segment.toList.head? ≠ some '/' := by
  obtain ⟨segments, last, hname⟩ := exists_split_eq_append '.' name
  have hdots : ∀ segment ∈ segments ++ [last], Avoids '.' segment :=
    hname ▸ fun segment h => avoids_of_mem_split h
  rw [List.forall_mem_append, List.forall_mem_singleton] at hdots
  have hfile : filePath name extension =
      Path.ofTexts (segments ++ [last ++ ("." ++ bareExtension extension)]) := by
    rw [filePath, hname, appendToLast_append_singleton]
  -- the extension does not change what the last segment starts with
  have hlast : (last ++ ("." ++ bareExtension extension)).toList.head? ≠ some '/' ↔
      last.toList.head? ≠ some '/' := by
    have hdot : ".".toList = ['.'] := rfl
    rw [String.toList_append, String.toList_append, hdot]
    cases last.toList with
    | nil => exact iff_of_true (by simp) (by simp)
    | cons c rest => rfl
  have hroot : (filePath name extension).root = .relative ↔
      ∀ segment ∈ split '.' name, segment.toList.head? ≠ some '/' := by
    rw [hfile, Path.root_ofTexts, hname, List.forall_mem_append, List.forall_mem_append,
      List.forall_mem_singleton, List.forall_mem_singleton, hlast]
  refine ⟨fun h => hroot.1 h.1, fun h => ⟨hroot.2 h, ?_⟩⟩
  obtain ⟨above, file, hsegments, habove, hup⟩ := segments_ofText_file hslash hbare hdots.2
  have hparts : (filePath name extension).parts =
      segments.flatMap (fun s => (Path.ofText s).segments) ++ (above ++ [file]) := by
    have hrelative := Path.root_ofTexts.1 (hfile ▸ hroot.2 h)
    rw [hfile, Path.parts_ofTexts hrelative, List.flatMap_append, List.flatMap_singleton, hsegments]
  rw [hparts]
  refine ⟨by simp, ?_⟩
  simp only [List.mem_append, not_or, List.mem_singleton]
  refine ⟨fun hmem => ?_, habove, Ne.symm hup⟩
  obtain ⟨s, hs, hmem⟩ := List.mem_flatMap.1 hmem
  have hdot := (hdots.1 s hs).of_mem_split (List.mem_filter.1 hmem).1
  exact absurd hdot (by decide)

omit hslash hbare

/-! ## Names -/

theorem avoids_ofSegments {segments : List String} (h : ∀ s ∈ segments, Avoids '/' s) :
    Avoids '/' (ofSegments segments) := by
  rw [ofSegments, avoids_join (by decide)]
  exact fun s hs => h s (List.mem_filter.1 hs).1

theorem avoids_ofPath {lead : String} (hlead : Avoids '/' lead) (path : String) :
    Avoids '/' (ofPath lead path) := by
  refine avoids_ofSegments fun s hs => ?_
  rcases List.mem_cons.1 hs with rfl | hs
  · exact hlead
  · obtain ⟨part, hpart, rfl⟩ := List.mem_map.1 hs
    rw [avoids_pascalCase (by decide)]
    -- only the root holds slashes, and it is a first part
    have hsegment : part ∈ (Path.ofText path).segments := by
      unfold Path.parts at hpart
      split at hpart
      · exact List.mem_of_mem_drop hpart
      · exact hpart
    exact (Path.isNormal_ofText path part hsegment).2

/-- A name that is not given is made of words without slashes. -/
theorem avoids_choose {s : Settings} {origins : Origins} {name : String}
    (hroot : Avoids '/' s.rootName) (hmodule : Avoids '/' s.modulePrefix)
    (hexplicit : given? origins.explicit = none) (h : choose s origins = .ok name) :
    Avoids '/' name := by
  unfold choose at h
  rw [hexplicit] at h
  split at h
  · next hnone => cases hnone
  · next url _ _ =>
    unfold ofUrl at h
    cases hurl : Url.path? url with
    | error e =>
      rw [hurl] at h
      cases h
    | ok path =>
      rw [hurl] at h
      obtain rfl := Except.ok.inj h
      exact avoids_ofPath hmodule path
  · obtain rfl := Except.ok.inj h
    exact avoids_ofPath hmodule _
  · obtain rfl := Except.ok.inj h
    exact avoids_ofSegments (by simp [hmodule, hroot])

/-! ## Settings that are reached -/

theorem slash_not_mem_of_isTypeNameChars {cs : List Char} (h : isTypeNameChars cs = true) :
    '/' ∉ cs := by
  have hchar : isNameChar '/' = false := by decide
  intro hmem
  cases cs with
  | nil => cases hmem
  | cons c rest =>
    rw [isTypeNameChars, Bool.and_eq_true, List.all_eq_true] at h
    rcases List.mem_cons.1 hmem with rfl | hmem
    · exact absurd h.1 (by decide)
    · -- a line feed at the end is no slash, so the slash is among the characters that are checked
      have hchecked : '/' ∈ if rest.getLast? = some '\n' then rest.dropLast else rest := by
        split
        · next hlast =>
          obtain ⟨front, rfl⟩ := List.getLast?_eq_some_iff.1 hlast
          rw [List.dropLast_concat]
          exact (List.mem_append.1 hmem).resolve_right (by decide)
        · exact hmem
      exact absurd (h.2 '/' hchecked) (by rw [hchar]; decide)

theorem avoids_of_isModulePrefix {s : String} (h : isModulePrefix s = true) : Avoids '/' s := by
  rw [isModulePrefix, Bool.or_eq_true, beq_iff_eq, List.all_eq_true] at h
  rcases h with rfl | h
  · decide
  · intro hmem
    have hpieces : '/' ∈ (splitChars '.' s.toList).flatten :=
      mem_flatten_splitChars.2 ⟨hmem, by decide⟩
    obtain ⟨piece, hpiece, hslash⟩ := List.mem_flatten.1 hpieces
    exact slash_not_mem_of_isTypeNameChars (h piece hpiece) hslash

end SampleTypes.ModuleName

namespace SampleTypes.Output

open Text ModuleName

/-- **A generated module stays below the output directory.** For any extension that can end a file
name, the file of a module is relative, has a name and does not go up exactly if no segment of the
module's name starts with a slash, and then its parts follow those of the directory. The names that
are chosen without being given are all of that kind, for all settings that are reached. -/
theorem module_isBelow :
    (∀ name extension : String, Avoids '/' extension → bareExtension extension ≠ "" →
      (((filePath name extension).root = .relative ∧ (filePath name extension).parts ≠ [] ∧
        ".." ∉ (filePath name extension).parts) ↔
          ∀ segment ∈ split '.' name, segment.toList.head? ≠ some '/') ∧
      ((∀ segment ∈ split '.' name, segment.toList.head? ≠ some '/') →
        ∀ directory text, (Target.below directory extension name text).path.parts =
          directory.parts ++ (filePath name extension).parts)) ∧
    (∀ l : Settings.Layer, l.Reached → ∀ origins name, given? origins.explicit = none →
      choose (Settings.ofLayer l) origins = .ok name →
      let s := Settings.ofLayer l
      (filePath name s.extension).root = .relative ∧ (filePath name s.extension).parts ≠ [] ∧
      ".." ∉ (filePath name s.extension).parts ∧
      ∀ schema : Schema, (schema.target s name).path.parts =
        s.outputDir.parts ++ (filePath name s.extension).parts) := by
  have hbelow (name extension : String) (h : (filePath name extension).root = .relative)
      (directory : Path) (text : String) : (Target.below directory extension name text).path.parts =
        directory.parts ++ (filePath name extension).parts :=
    Path.parts_append directory h
  refine ⟨fun name extension hslash hbare => ?_, fun l hl origins name hexplicit hname => ?_⟩
  · have hiff := filePath_isBelow hslash hbare name
    exact ⟨hiff, fun h directory text => hbelow name extension (hiff.2 h).1 directory text⟩
  · intro s
    have husable := Settings.Layer.usable_of_reached hl
    have hroot : isTypeName s.rootName = true := Settings.usable_ofLayer husable .rootName
    have hmodule : isModulePrefix s.modulePrefix = true := Settings.usable_ofLayer husable .modulePrefix
    obtain ⟨hextension, hbare⟩ : Settings.isExtension s.extension = true ∧
      bareExtension s.extension = s.extension := Settings.usable_ofLayer husable .extension
    have havoids : Avoids '/' name :=
      avoids_choose (slash_not_mem_of_isTypeNameChars hroot) (avoids_of_isModulePrefix hmodule)
        hexplicit hname
    have hsegments : ∀ segment ∈ split '.' name, segment.toList.head? ≠ some '/' :=
      fun segment h hhead => havoids.of_mem_split h (List.mem_of_head? hhead)
    have hvalid : Avoids '/' s.extension ∧ bareExtension s.extension ≠ "" := by
      rw [hbare]
      simpa [Settings.isExtension, Avoids, and_comm] using hextension
    have h := (filePath_isBelow hvalid.1 hvalid.2 name).2 hsegments
    exact ⟨h.1, h.2.1, h.2.2, fun schema => hbelow name s.extension h.1 s.outputDir _⟩

/-- A path with needless slashes and segments that go up. -/
theorem module_isBelow_upwards :
    let table : Toml.Members := [("output", .table false
      [("namespace", .string "Docs"), ("directory", .string "gen")])]
    let s := Settings.ofTable table
    let origins : Origins := { path := some "//a/../b..c/" }
    choose s origins = .ok "Docs.A....B..c" ∧
    ∀ schema : Schema, (schema.target s "Docs.A....B..c").path.parts =
      ["gen"] ++ (filePath "Docs.A....B..c" s.extension).parts ∧
      ".." ∉ (filePath "Docs.A....B..c" s.extension).parts := by
  intro table s origins
  have hname : choose s origins = .ok "Docs.A....B..c" := by decide +kernel
  have hreached : (Settings.Layer.default.merge (.ofTable none table)).Reached :=
    Settings.Layer.Reached.default.mergeTable table
  obtain ⟨-, -, hup, hparts⟩ := module_isBelow.2 _ hreached origins _ rfl hname
  have hdirectory : s.outputDir.parts = ["gen"] := by decide +kernel
  refine ⟨hname, fun schema => ⟨?_, hup⟩⟩
  rw [← hdirectory]
  exact hparts schema

end SampleTypes.Output
