/-
Drafts of settings: the default layer, with tables merged into it and options put over it, in any
order. Every value that a draft gives can be used as what it is (`Layer.sound_draft`), with one
exception: the extension that an option gives is not looked at for slashes, as the one in a table
is (`draft_usable_but_slashes`, `draft_extension_with_slash`).
-/
import SampleTypes.Proofs.Settings.RoundTrip

namespace SampleTypes.Settings

open Toml (Members)

variable {α : Type}

/-! ## Values -/

/-- What every value of a draft has. -/
def Field.Sound : Field α → α → Prop
  | .rootName, s => isTypeName s = true
  | .modulePrefix, s => isModulePrefix s = true
  | .typeName _, s => ∃ c ∈ s.toList, Text.isBlank c = false
  | .extension, s => s ≠ "" ∧ s.toList.head? ≠ some '.'
  | .declareRoot, _ | .scalarSequences, _ | .sampleComments, _ | .outputDir, _ => True

theorem sound_bareExtension {s : String} (h : ModuleName.bareExtension s ≠ "") :
    Field.extension.Sound (ModuleName.bareExtension s) :=
  ⟨h, ModuleName.head?_bareExtension s⟩

/-- What an option gives is only checked for being empty. -/
theorem givenExtension?_eq_some_iff {given s : String} :
    givenExtension? given = some s ↔
      ModuleName.bareExtension given = s ∧ ModuleName.bareExtension given ≠ "" := by
  by_cases h : ModuleName.bareExtension given = "" <;> simp [givenExtension?, h]

theorem Field.sound_of_accept? {file : Option Path} {f : Field α} {v : Toml.Value} {a : α}
    (h : f.accept? file v = some a) : f.Sound a := by
  cases f with
  | declareRoot | scalarSequences | sampleComments | outputDir => trivial
  | rootName | modulePrefix => exact (Option.filter_eq_some_iff.1 h).2
  | typeName slot =>
    have hblank := (Option.filter_eq_some_iff.1 h).2
    simpa [Text.isAllBlank, Sound] using hblank
  | extension =>
    obtain ⟨hbare, hextension⟩ := Option.filter_eq_some_iff.1 h
    obtain ⟨s, -, rfl⟩ := Option.map_eq_some_iff.1 hbare
    rw [isExtension, Bool.and_eq_true, bne_iff_ne] at hextension
    exact sound_bareExtension hextension.1

/-- All values that the layer gives are sound. -/
def Layer.Sound (l : Layer) : Prop :=
  ∀ (α : Type) (f : Field α) (a : α), l.get? f = some a → f.Sound a

/-! ## Edits -/

/-- A change to a draft. -/
inductive Edit where
  /-- Settings of a table are merged over it. -/
  | merge (file : Option Path) (table : Members)
  /-- Options are put over it. -/
  | override (o : Overrides)

/-- The draft after a change. -/
def Layer.edit (l : Layer) : Edit → Layer
  | .merge file table => l.merge (.ofTable file table)
  | .override o => l.override o

/-- The draft after some changes to the default layer. -/
def draft (edits : List Edit) : Layer :=
  edits.foldl Layer.edit .default

/-- What a change brings in. -/
def Edit.layer : Edit → Layer
  | .merge file table => .ofTable file table
  | .override o => o.layer

theorem Layer.edit_eq_merge (l : Layer) (e : Edit) : l.edit e = l.merge e.layer := by
  cases e with
  | merge file table => rfl
  | override o => exact override_eq_merge l o

theorem draft_eq_mergeAll (edits : List Edit) :
    draft edits = Layer.mergeAll (.default :: edits.map Edit.layer) := by
  rw [draft, Layer.mergeAll, List.foldl_cons, Layer.empty_merge, List.foldl_map]
  simp only [← Layer.edit_eq_merge]

namespace Layer

theorem sound_ofTable (file : Option Path) (table : Members) : (ofTable file table).Sound := by
  intro α f a h
  rw [get?_ofTable_eq_bind] at h
  obtain ⟨v, -, hv⟩ := Option.bind_eq_some_iff.1 h
  exact Field.sound_of_accept? hv

theorem sound_options (o : Overrides) : o.layer.Sound := by
  intro α f a h
  cases f with
  | declareRoot | scalarSequences | sampleComments | outputDir => trivial
  | typeName slot => cases h
  | rootName | modulePrefix => exact (Option.filter_eq_some_iff.1 h).2
  | extension =>
    obtain ⟨given, -, hgiven⟩ := Option.bind_eq_some_iff.1 h
    obtain ⟨rfl, hne⟩ := givenExtension?_eq_some_iff.1 hgiven
    exact sound_bareExtension hne

theorem sound_edit {l : Layer} (h : l.Sound) (e : Edit) : (l.edit e).Sound := by
  have he : e.layer.Sound := by
    cases e with
    | merge file table => exact sound_ofTable file table
    | override o => exact sound_options o
  rw [edit_eq_merge]
  exact fun α f => forall_get?_merge (h α f) (he α f)

theorem sound_draft (edits : List Edit) : (draft edits).Sound := by
  unfold draft
  induction edits using List.reverseRecOn with
  | nil => exact sound_ofTable none defaultTable
  | append_singleton edits e ih =>
    rw [List.foldl_append]
    exact sound_edit ih e

end Layer

/-! ## The change that decides -/

theorem get?_draft (edits : List Edit) (f : Field α) :
    (draft edits).get? f =
      (edits.reverse.findSome? fun e => e.layer.get? f).or (Layer.default.get? f) := by
  rw [draft_eq_mergeAll, Layer.get?_mergeAll, List.reverse_cons, ← List.map_reverse,
    List.findSome?_append, List.findSome?_map, List.findSome?_singleton]
  rfl

/-- The last change that brings in a value decides. -/
theorem get?_draft_of_last {before after : List Edit} {e : Edit} {f : Field α} {a : α}
    (he : e.layer.get? f = some a) (hafter : ∀ e' ∈ after, e'.layer.get? f = none) :
    (draft (before ++ e :: after)).get? f = some a := by
  have hnone : (after.reverse.findSome? fun e => e.layer.get? f) = none :=
    List.findSome?_eq_none_iff.2 fun e' he' => hafter e' (List.mem_reverse.1 he')
  rw [get?_draft, List.reverse_append, List.reverse_cons, List.append_assoc, List.findSome?_append,
    hnone, List.singleton_append, List.findSome?_cons, he]
  rfl

theorem last_of_get?_draft {edits : List Edit} {f : Field α} {a : α}
    (h : (draft edits).get? f = some a) (hdefault : Layer.default.get? f ≠ some a) :
    ∃ before e after, edits = before ++ e :: after ∧ e.layer.get? f = some a ∧
      ∀ e' ∈ after, e'.layer.get? f = none := by
  rw [get?_draft] at h
  rcases Option.or_eq_some_iff.1 h with hlast | ⟨-, hlow⟩
  · obtain ⟨after, e, before, hedits, he, hafter⟩ := List.findSome?_eq_some_iff.1 hlast
    refine ⟨before.reverse, e, after.reverse, ?_, he, fun e' he' => ?_⟩
    · rw [← List.reverse_reverse edits, hedits]
      simp
    · exact hafter e' (List.mem_reverse.1 he')
  · exact absurd hlow hdefault

theorem exists_get?_draft (edits : List Edit) (f : Field α) : ∃ a, (draft edits).get? f = some a := by
  have hdefault : (Layer.default.get? f).isSome := by
    rw [← Sheet.layer_default, Sheet.get?_layer]
    exact Sheet.isSome_value?_default f
  rw [get?_draft, ← Option.isSome_iff_exists, Option.isSome_or, hdefault, Bool.or_true]

/-! ## Slashes -/

/-- The extension of a table has no slashes. -/
theorem extension_ofTable (file : Option Path) (table : Members) {s : String}
    (h : (Layer.ofTable file table).get? .extension = some s) : '/' ∉ s.toList := by
  rw [get?_ofTable_eq_bind] at h
  obtain ⟨v, -, hv⟩ := Option.bind_eq_some_iff.1 h
  have hextension := (Option.filter_eq_some_iff.1 hv).2
  rw [isExtension, Bool.and_eq_true] at hextension
  simpa using hextension.2

/-- An option with a slash is taken, without the dots in front. -/
theorem givenExtension?_of_slash {given : String} (h : '/' ∈ given.toList) :
    givenExtension? given = some (ModuleName.bareExtension given) := by
  have hbare := (ModuleName.mem_bareExtension (by decide)).2 h
  refine givenExtension?_eq_some_iff.2 ⟨rfl, fun hempty => ?_⟩
  rw [hempty] at hbare
  cases hbare

/-- A draft has an extension with a slash exactly if an option gave it, and nothing took its place. -/
theorem slash_mem_extension_iff {edits : List Edit} {s : String}
    (h : (draft edits).get? .extension = some s) :
    '/' ∈ s.toList ↔ ∃ before o after given, edits = before ++ .override o :: after ∧
      o.extension = some given ∧ '/' ∈ given.toList ∧ ∀ e ∈ after, e.layer.extension = none := by
  constructor
  · intro hslash
    have hdefault : Layer.default.get? .extension ≠ some s :=
      fun hlow => extension_ofTable none defaultTable hlow hslash
    obtain ⟨before, e, after, rfl, he, hafter⟩ := last_of_get?_draft h hdefault
    cases e with
    | merge file table => exact absurd hslash (extension_ofTable file table he)
    | override o =>
      obtain ⟨given, ho, hgiven⟩ := Option.bind_eq_some_iff.1 he
      obtain ⟨rfl, -⟩ := givenExtension?_eq_some_iff.1 hgiven
      have hgiven := (ModuleName.mem_bareExtension (by decide)).1 hslash
      exact ⟨before, o, after, given, rfl, ho, hgiven, hafter⟩
  · rintro ⟨before, o, after, given, rfl, ho, hslash, hafter⟩
    have hlast : (Edit.override o).layer.get? .extension =
        some (ModuleName.bareExtension given) := by
      show o.extension.bind givenExtension? = _
      rw [ho, Option.bind_some, givenExtension?_of_slash hslash]
    rw [get?_draft_of_last hlast hafter] at h
    obtain rfl := Option.some.inj h
    exact (ModuleName.mem_bareExtension (by decide)).2 hslash

/-- **Every draft is usable but for slashes in its extension.** Whatever is merged and put over it,
and in any order, its root name is a type name, its prefix one of modules, no type is blank, and its
extension is not empty and does not start with a dot. The extension has a slash exactly if an option
gave one, and no change after it brought in another extension. -/
theorem draft_usable_but_slashes (edits : List Edit) :
    (∃ name, (draft edits).rootName = some name ∧ isTypeName name = true) ∧
    (∃ lead, (draft edits).modulePrefix = some lead ∧ isModulePrefix lead = true) ∧
    (∀ slot, ∃ type, (draft edits).typeNames.get? slot = some type ∧
      ∃ c ∈ type.toList, Text.isBlank c = false) ∧
    ∃ extension, (draft edits).extension = some extension ∧
      extension ≠ "" ∧ extension.toList.head? ≠ some '.' ∧
      ('/' ∈ extension.toList ↔ ∃ before o after given, edits = before ++ .override o :: after ∧
        o.extension = some given ∧ '/' ∈ given.toList ∧ ∀ e ∈ after, e.layer.extension = none) := by
  have hvalue {α : Type} (f : Field α) : ∃ a, (draft edits).get? f = some a ∧ f.Sound a := by
    obtain ⟨a, ha⟩ := exists_get?_draft edits f
    exact ⟨a, ha, Layer.sound_draft edits α f a ha⟩
  obtain ⟨extension, hget, hne, hhead⟩ := hvalue .extension
  exact ⟨hvalue .rootName, hvalue .modulePrefix, fun slot => hvalue (.typeName slot),
    extension, hget, hne, hhead, slash_mem_extension_iff hget⟩

/-- An extension that would lead into another directory: refused in a table, taken from an option. -/
theorem draft_extension_with_slash :
    let table : Members := [("output", .table false [("extension", .string "a/b")])]
    (draft [.merge none table]).extension = some "hs" ∧
    (draft [.override { extension := some "a/b" }]).extension = some "a/b" ∧
    (draft [.override { extension := some "a/b" }]).findings = [] := by
  decide +kernel

end SampleTypes.Settings
